/-
# `DCDTNFTCreateRoleTransfer`: moving the create role to another account

`dcdtNFTCreateRoleTransfer.ProcessBuiltinFunction` (`dcdtNFTCreateRoleTransfer.go:53-85`)
checks the value and the account pointers (`acntSnd` must be `nil`, `acntDst` must not), then
runs one of two shapes, chosen by the caller:

* called by the management address `core.DCDTSCAddress`, the CURRENT OWNER shape
  (`executeTransferNFTCreateChangeAtCurrentOwner`, lines 87-165) runs on the holder
  `acntDst`: it reads its latest nonce for the token, zeroes it and strips the create role.
  When the destination (the second argument, of an address's length) is hosted in the
  executing shard, it loads that account, gives it the nonce and the role, and saves it.  In
  every case it returns an output account for the destination with one transfer, whose data
  is `DCDTNFTCreateRoleTransfer@hex(tokenID)@hex(nonce)` and whose sender is the caller;
* called by anyone else, the NEXT OWNER shape (`executeTransferNFTCreateChangeAtNextOwner`,
  lines 217-244) sets the latest nonce of `acntDst` to the second argument and grants it the
  role.

The spec lemmas are `executeTransferNFTCreateChangeAtCurrentOwner_eq_ok` and
`executeTransferNFTCreateChangeAtNextOwner_eq_ok`, with `Stripped` and `Granted` saying what
each leaves in an account, and `DCDTNFTCreateRoleTransfer.processBuiltinFunction_eq_ok`, which
joins them to the checks.  For the next-owner shape the converse holds too:
`DCDTNFTCreateRoleTransfer.processBuiltinFunction_nextOwner_ok_iff` says that, when no
collaborator fails, it succeeds exactly when the pointers, the value, the argument count and
the stored role list allow it.  Nothing in that list concerns the caller.

The transfer is meant for the next-owner shape in the destination's shard, but its sender is
the management address.  Delivered with that sender as the caller, it runs the current-owner
shape again, whose second argument must have an address's length, while a nonce has at most
eight bytes: `DCDTNFTCreateRoleTransfer.processBuiltinFunction_rejects_nonce_argument` shows
that such a call always fails and changes nothing.  `System.lean` draws the consequences.
-/
import VmCommon.BuiltInFunctions.NFTCreate

namespace VmCommon

variable (env : Env)

/-! ## 1. The executor -/

/-- Modelled from the spec: `boolToSlice` (not under `src/`), the flag of the role transfer's
log entries (§4.5, "emits a confirmation log entry"), written as its text. -/
def boolToSlice (b : Bool) : Bytes := if b then ascii "true" else ascii "false"

/-- `dcdtNFTCreateRoleTransfer`: the shard it runs in, the one answer of its shard coordinator
it reads (`SelfId`).  Its `keyPrefix` is never read; the marshaller and the accounts adapter
are `Env`. -/
structure DCDTNFTCreateRoleTransfer where
  selfId : Nat

/-- The data of the transfer the current owner emits (lines 158-159). -/
def roleTransferData (tokenID : Bytes) (nonce : UInt64) : Bytes :=
  env.builtInFunctionDCDTNFTCreateRoleTransfer ++ [separator] ++ encodeToString tokenID ++
    [separator] ++ encodeToString (bigBytes nonce.toNat)

/-- Lines 130-138 and 229-238: an account is given a latest nonce and the create role. -/
def grantCreateRole (r : Acnt) (tokenID : Bytes) (nonce : UInt64) : Exec Unit := do
  saveLatestNonce env r tokenID nonce
  addCreateRoleToAccount env r (roleKey env tokenID)

/-- Lines 121-146: the destination, hosted in this shard, is loaded, granted and saved.  Every
account of the model is a user account, so the type assertion cannot fail. -/
def grantAtDestination (vmOutput : VMOutput) (vmInput : ContractCallInput)
    (tokenID destAddress : Bytes) (nonce : UInt64) : Exec VMOutput := do
  let newDestUserAcc ← loadAccount env destAddress
  modify fun h => h.set .loaded newDestUserAcc
  grantCreateRole env .loaded tokenID nonce
  saveAccount env .loaded
  return addDCDTEntryInVMOutput vmOutput vmInput.function tokenID 0 0
    [destAddress, boolToSlice true]

/-- `executeTransferNFTCreateChangeAtCurrentOwner`: the output with its log entries, and the
output account of the destination. -/
def executeTransferNFTCreateChangeAtCurrentOwner (e : DCDTNFTCreateRoleTransfer)
    (vmOutput : VMOutput) (vmInput : ContractCallInput) : Exec (VMOutput × OutputAccount) := do
  failIf (vmInput.arguments.length ≠ 2) .errInvalidArguments
  failIf ((vmInput.arguments.getD 1 []).length ≠ vmInput.callerAddr.length)
    .errInvalidArguments
  let tokenID := vmInput.arguments.getD 0 []
  let nonce ← liftExcept (getLatestNonce env (← account .dst) tokenID)
  saveLatestNonce env .dst tokenID 0
  let dcdtTokenRoleKey := roleKey env tokenID
  deleteCreateRoleFromAccount env .dst dcdtTokenRoleKey
  let logData := [(← account .dst).address, boolToSlice false]
  let vmOutput := addDCDTEntryInVMOutput vmOutput vmInput.function tokenID 0 0 logData
  let destAddress := vmInput.arguments.getD 1 []
  let vmOutput ← (if env.computeId destAddress = e.selfId then
      grantAtDestination env vmOutput vmInput tokenID destAddress nonce
    else pure vmOutput)
  let outTransfer : OutputTransfer :=
    ⟨1, 0, roleTransferData env tokenID nonce, vmInput.callerAddr⟩
  return (vmOutput, ⟨destAddress, 0, 0, [outTransfer]⟩)

/-- `executeTransferNFTCreateChangeAtNextOwner`. -/
def executeTransferNFTCreateChangeAtNextOwner (vmOutput : VMOutput)
    (vmInput : ContractCallInput) : Exec VMOutput := do
  failIf (vmInput.arguments.length ≠ 2) .errInvalidArguments
  let tokenID := vmInput.arguments.getD 0 []
  let nonce := UInt64.ofNat (setBytes (vmInput.arguments.getD 1 []))
  grantCreateRole env .dst tokenID nonce
  let logData := [(← account .dst).address, boolToSlice true]
  return addDCDTEntryInVMOutput vmOutput vmInput.function tokenID 0 0 logData

/-- `ProcessBuiltinFunction` of `dcdtNFTCreateRoleTransfer`. -/
def DCDTNFTCreateRoleTransfer.processBuiltinFunction (e : DCDTNFTCreateRoleTransfer)
    (vmInput : ContractCallInput) : Exec VMOutput := do
  liftExcept (checkBasicDCDTArguments vmInput)
  let h ← get
  failIf h.snd.isSome .errInvalidArguments
  failIf h.dst.isNone .errNilUserAccount
  let vmOutput : VMOutput := ⟨.ok, 0, [], [], []⟩
  if vmInput.callerAddr = env.dcdtSCAddress then
    let (vmOutput, outAcc) ← executeTransferNFTCreateChangeAtCurrentOwner env e vmOutput vmInput
    return { vmOutput with outputAccounts := [outAcc] }
  else
    executeTransferNFTCreateChangeAtNextOwner env vmOutput vmInput

/-- The transfer's data is the three fields joined by `@`. -/
theorem roleTransferData_eq_joinData (tokenID : Bytes) (nonce : UInt64) :
    roleTransferData env tokenID nonce = joinData [env.builtInFunctionDCDTNFTCreateRoleTransfer,
      encodeToString tokenID, encodeToString (bigBytes nonce.toNat)] := by
  simp [roleTransferData, joinData, List.intercalate, List.intersperse_cons_cons]

/-! ## 2. What each shape leaves in an account -/

/-- What the current owner keeps of the token: its latest nonce zeroed, and no create role. -/
structure Stripped (a a' : UserAccount) (tokenID : Bytes) : Prop where
  address_eq : a'.address = a.address
  latestNonce_eq : latestNonce env a' tokenID = 0
  not_holds : ¬ HoldsRole env a' tokenID env.dcdtRoleNFTCreate

/-- What a granted account holds: the given latest nonce and the create role. -/
structure Granted (d d' : UserAccount) (tokenID : Bytes) (nonce : UInt64) : Prop where
  address_eq : d'.address = d.address
  latestNonce_eq : latestNonce env d' tokenID = nonce
  holds : HoldsRole env d' tokenID env.dcdtRoleNFTCreate

section Shapes

variable {e : DCDTNFTCreateRoleTransfer} {vmOutput : VMOutput} {vmInput : ContractCallInput}
  {h h' : Heap}

theorem grantCreateRole_eq_ok {r : Acnt} {tokenID : Bytes} {nonce : UInt64} {d : UserAccount}
    (hd : h.get r = some d) (hrun : grantCreateRole env r tokenID nonce h = .ok () h') :
    ∃ d', Granted env d d' tokenID nonce ∧ h' = h.set r d' := by
  obtain ⟨_, _, hsave, hadd⟩ := bind_eq_ok.mp hrun
  obtain ⟨d₀, hd₀, -, rfl⟩ := (saveKeyValue_eq_ok env).mp hsave
  obtain rfl := Option.some.inj (hd.symm.trans hd₀)
  obtain ⟨L, d', -, rfl, hstored, hvalues, haddr⟩ :=
    addCreateRoleToAccount_eq_ok env (Heap.get_set_self _ _ _) hadd
  refine ⟨d', ⟨haddr, ?_, (holdsRole_iff_of_storedRoles env hstored).mpr ?_⟩,
    Heap.set_set _ _ _ _⟩
  · rw [latestNonce_of_values_eq env (hvalues _ (getNonceKey_ne_roleKey env _ _)),
      latestNonce_saveLatestNonce]
  · split <;> simp [*]

theorem grantAtDestination_eq_ok {tokenID destAddress : Bytes} {nonce : UInt64}
    {out : VMOutput} (hrun : grantAtDestination env vmOutput vmInput tokenID destAddress nonce h =
      .ok out h') :
    ∃ d', Granted env (h.shard.loadAccount destAddress) d' tokenID nonce ∧
      h' = { h.set .loaded d' with shard := h.shard.saveAccount d' } := by
  simp only [grantAtDestination, bind_eq_ok, loadAccount_eq_ok, run_modify, run_pure,
    EStateM.Result.ok.injEq] at hrun
  obtain ⟨_, _, ⟨-, rfl, rfl⟩, _, _, ⟨-, rfl⟩, _, _, hgrant, _, _, hsave, -, rfl⟩ := hrun
  obtain ⟨d', hd', rfl⟩ := grantCreateRole_eq_ok env (Heap.get_set_self _ _ _) hgrant
  obtain ⟨d'', hd'', -, rfl⟩ := (saveAccount_eq_ok env).mp hsave
  simp only [Heap.set_set, Heap.get_set_self, Option.some.injEq] at hd''
  subst hd''
  exact ⟨d', hd', by simp⟩

/-- **The current owner.**  A successful run on the holder `a` checked that the destination
has the caller's length; it leaves `a` stripped of the token's role and nonce, and, when the
destination is hosted in this shard, saves it granted the role and `a`'s nonce; its output
account sends the transfer that carries the token and that nonce, from the caller. -/
theorem executeTransferNFTCreateChangeAtCurrentOwner_eq_ok {a : UserAccount}
    {out : VMOutput × OutputAccount} (ha : h.dst = some a)
    (hrun : executeTransferNFTCreateChangeAtCurrentOwner env e vmOutput vmInput h = .ok out h') :
    let tokenID := vmInput.arguments.getD 0 []
    let destAddress := vmInput.arguments.getD 1 []
    let nonce := latestNonce env a tokenID
    destAddress.length = vmInput.callerAddr.length ∧
    out.2 = ⟨destAddress, 0, 0, [⟨1, 0, roleTransferData env tokenID nonce, vmInput.callerAddr⟩]⟩ ∧
    ∃ a', Stripped env a a' tokenID ∧ h'.snd = h.snd ∧ h'.dst = some a' ∧
      if env.computeId destAddress = e.selfId then
        ∃ d', Granted env (h.shard.loadAccount destAddress) d' tokenID nonce ∧
          h'.shard = h.shard.saveAccount d'
      else h'.shard = h.shard := by
  simp only [executeTransferNFTCreateChangeAtCurrentOwner, bind_eq_ok, failIf_run_eq_ok,
    account_eq_ok, liftExcept_eq_ok, getLatestNonce_eq, query_eq_ok, run_pure,
    EStateM.Result.ok.injEq] at hrun
  obtain ⟨_, _, ⟨-, rfl⟩, _, _, ⟨hlen, rfl⟩, a₀, _, ⟨ha₀, rfl⟩, _, _, ⟨⟨-, rfl⟩, rfl⟩, _, _,
    hzero, _, _, hdelete, a₂, _, ⟨-, rfl⟩, vo, h₃, hbranch, rfl, rfl⟩ := hrun
  obtain rfl := Option.some.inj (ha.symm.trans ha₀)
  obtain ⟨a₁, ha₁, -, rfl⟩ := (saveKeyValue_eq_ok env).mp hzero
  obtain rfl := Option.some.inj (ha.symm.trans ha₁)
  obtain ⟨L, a', -, rfl, hstored, hvalues, haddr⟩ :=
    deleteCreateRoleFromAccount_eq_ok env (Heap.get_set_self _ _ _) hdelete
  have hstripped : Stripped env a a' (vmInput.arguments.getD 0 []) := by
    refine ⟨haddr, ?_, fun hholds => ?_⟩
    · rw [latestNonce_of_values_eq env (hvalues _ (getNonceKey_ne_roleKey env _ _)),
        latestNonce_saveLatestNonce]
    · simpa using (holdsRole_iff_of_storedRoles env hstored).mp hholds
  refine ⟨by simpa using hlen, rfl, a', hstripped, ?_⟩
  split at hbranch
  · next hhere =>
    obtain ⟨d', hd', rfl⟩ := grantAtDestination_eq_ok env hbranch
    simp only [Heap.set_set, if_pos hhere]
    exact ⟨rfl, rfl, d', by simpa using hd', by simp⟩
  · next hthere =>
    obtain ⟨rfl, rfl⟩ := EStateM.Result.ok.inj hbranch
    simp only [if_neg hthere]
    exact ⟨rfl, rfl, by simp⟩

/-- **The next owner.**  A successful run on `a` gives it the create role and, as its latest
nonce, the second argument read as a `uint64`. -/
theorem executeTransferNFTCreateChangeAtNextOwner_eq_ok {a : UserAccount} {out : VMOutput}
    (ha : h.dst = some a)
    (hrun : executeTransferNFTCreateChangeAtNextOwner env vmOutput vmInput h = .ok out h') :
    vmInput.arguments.length = 2 ∧
      ∃ a', Granted env a a' (vmInput.arguments.getD 0 [])
        (UInt64.ofNat (setBytes (vmInput.arguments.getD 1 []))) ∧ h' = h.set .dst a' := by
  simp only [executeTransferNFTCreateChangeAtNextOwner, bind_eq_ok, failIf_run_eq_ok,
    account_eq_ok, run_pure, EStateM.Result.ok.injEq] at hrun
  obtain ⟨_, _, ⟨hlen, rfl⟩, _, _, hgrant, _, _, ⟨-, rfl⟩, -, rfl⟩ := hrun
  exact ⟨by simpa using hlen, grantCreateRole_eq_ok env (by simpa using ha) hgrant⟩

/-- With no collaborator failing, a grant succeeds exactly when the account's role list for the
token decodes: the latest nonce is written unconditionally. -/
theorem grantCreateRole_ok_iff (hnf : ∀ c, env.fault c = none) {r : Acnt} {tokenID : Bytes}
    {nonce : UInt64} {d : UserAccount} (hd : h.get r = some d) :
    (∃ h', grantCreateRole env r tokenID nonce h = .ok () h') ↔
      storedRoles env.marshaller d (roleKey env tokenID) ≠ none := by
  -- the role list is read after the nonce write, which is to another key
  have hroles : storedRoles env.marshaller
      (d.saveKeyValue (getNonceKey env tokenID) (bigBytes nonce.toNat)) (roleKey env tokenID) =
        storedRoles env.marshaller d (roleKey env tokenID) :=
    storedRoles_saveKeyValue_of_ne _ _ _ (getNonceKey_ne_roleKey env _ _).symm
  have hsave : saveLatestNonce env r tokenID nonce h =
      .ok () (h.set r (d.saveKeyValue (getNonceKey env tokenID) (bigBytes nonce.toNat))) :=
    (saveKeyValue_eq_ok env).mpr ⟨d, hd, hnf _, rfl⟩
  simp only [grantCreateRole, run_bind, hsave]
  constructor
  · rintro ⟨h', hadd⟩
    obtain ⟨L, _, hL, -⟩ := addCreateRoleToAccount_eq_ok env (Heap.get_set_self _ _ _) hadd
    simp [← hroles, hL]
  · intro hL
    obtain ⟨L, hL⟩ := Option.ne_none_iff_exists'.mp hL
    exact addCreateRoleToAccount_ok env hnf (Heap.get_set_self _ _ _) (hroles.trans hL)

/-- With no collaborator failing, the next-owner shape on `a` succeeds exactly when it has two
arguments and `a`'s role list for the token decodes. -/
theorem executeTransferNFTCreateChangeAtNextOwner_ok_iff (hnf : ∀ c, env.fault c = none)
    {a : UserAccount} (ha : h.dst = some a) :
    (∃ out h', executeTransferNFTCreateChangeAtNextOwner env vmOutput vmInput h = .ok out h') ↔
      vmInput.arguments.length = 2 ∧
        storedRoles env.marshaller a (roleKey env (vmInput.arguments.getD 0 [])) ≠ none := by
  have hd : h.get .dst = some a := ha
  constructor
  · rintro ⟨out, h', hrun⟩
    simp only [executeTransferNFTCreateChangeAtNextOwner, bind_eq_ok, failIf_run_eq_ok,
      account_eq_ok, run_pure, EStateM.Result.ok.injEq] at hrun
    obtain ⟨_, _, ⟨hlen, rfl⟩, _, _, hgrant, -⟩ := hrun
    exact ⟨by simpa using hlen, (grantCreateRole_ok_iff env hnf hd).mp ⟨_, hgrant⟩⟩
  · rintro ⟨hlen, hL⟩
    obtain ⟨h₁, hgrant⟩ : ∃ h', grantCreateRole env .dst (vmInput.arguments.getD 0 [])
        (UInt64.ofNat (setBytes (vmInput.arguments.getD 1 []))) h = .ok () h' :=
      (grantCreateRole_ok_iff env hnf hd).mpr hL
    obtain ⟨d', -, rfl⟩ := grantCreateRole_eq_ok env hd hgrant
    simp only [executeTransferNFTCreateChangeAtNextOwner, run_bind, run_failIf, hlen, ne_eq,
      not_true_eq_false, decide_False, Bool.false_eq_true, ↓reduceIte, hgrant, account_run,
      Heap.get_set_self, run_pure]
    exact ⟨_, _, rfl⟩

/-- The values a role transfer of `tokenID` may write in an account: its latest nonce and its
role list for the token. -/
def roleTransferKeys (tokenID : Bytes) : List Bytes := [getNonceKey env tokenID, roleKey env tokenID]

theorem grantCreateRole_writesOnly {r : Acnt} {tokenID : Bytes} {nonce : UInt64}
    {d : UserAccount} (hd : h.get r = some d)
    (hrun : grantCreateRole env r tokenID nonce h = .ok () h') :
    ∃ d', d.WritesOnly (roleTransferKeys env tokenID) d' ∧ h' = h.set r d' := by
  obtain ⟨_, _, hsave, hadd⟩ := bind_eq_ok.mp hrun
  obtain ⟨d₀, hd₀, -, rfl⟩ := (saveKeyValue_eq_ok env).mp hsave
  obtain rfl := Option.some.inj (hd.symm.trans hd₀)
  obtain ⟨d', rfl, hw⟩ := addCreateRoleToAccount_writesOnly env (Heap.get_set_self _ _ _) hadd
  exact ⟨d', (UserAccount.WritesOnly.saveKeyValue (by simp [roleTransferKeys]) _ _).trans
    (hw.mono (by simp [roleTransferKeys])), Heap.set_set _ _ _ _⟩

theorem grantAtDestination_writesOnly {tokenID destAddress : Bytes} {nonce : UInt64}
    {out : VMOutput} (hrun : grantAtDestination env vmOutput vmInput tokenID destAddress nonce h =
      .ok out h') :
    ∃ d', (h.shard.loadAccount destAddress).WritesOnly (roleTransferKeys env tokenID) d' ∧
      h' = { h.set .loaded d' with shard := h.shard.saveAccount d' } := by
  simp only [grantAtDestination, bind_eq_ok, loadAccount_eq_ok, run_modify, run_pure,
    EStateM.Result.ok.injEq] at hrun
  obtain ⟨_, _, ⟨-, rfl, rfl⟩, _, _, ⟨-, rfl⟩, _, _, hgrant, _, _, hsave, -, rfl⟩ := hrun
  obtain ⟨d', hd', rfl⟩ := grantCreateRole_writesOnly env (Heap.get_set_self _ _ _) hgrant
  obtain ⟨d'', hd'', -, rfl⟩ := (saveAccount_eq_ok env).mp hsave
  simp only [Heap.set_set, Heap.get_set_self, Option.some.injEq] at hd''
  subst hd''
  exact ⟨d', hd', by simp⟩

/-- **What the current owner writes.**  The holder `acntDst`, and every account of the shard,
keep their address and their token records, and change at most the latest nonce and the role
list of the token. -/
theorem executeTransferNFTCreateChangeAtCurrentOwner_writesOnly {a : UserAccount}
    {out : VMOutput × OutputAccount} (ha : h.dst = some a)
    (hrun : executeTransferNFTCreateChangeAtCurrentOwner env e vmOutput vmInput h = .ok out h') :
    let keys := roleTransferKeys env (vmInput.arguments.getD 0 [])
    ∃ a', a.WritesOnly keys a' ∧ h'.snd = h.snd ∧ h'.dst = some a' ∧
      ∀ y, (h.shard.loadAccount y).WritesOnly keys (h'.shard.loadAccount y) := by
  intro keys
  simp only [executeTransferNFTCreateChangeAtCurrentOwner, bind_eq_ok, failIf_run_eq_ok,
    account_eq_ok, liftExcept_eq_ok, getLatestNonce_eq, query_eq_ok, run_pure,
    EStateM.Result.ok.injEq] at hrun
  obtain ⟨_, _, ⟨-, rfl⟩, _, _, ⟨-, rfl⟩, a₀, _, ⟨ha₀, rfl⟩, _, _, ⟨⟨-, rfl⟩, rfl⟩, _, _,
    hzero, _, _, hdelete, a₂, _, ⟨-, rfl⟩, vo, h₃, hbranch, rfl, rfl⟩ := hrun
  obtain rfl := Option.some.inj (ha.symm.trans ha₀)
  obtain ⟨a₁, ha₁, -, rfl⟩ := (saveKeyValue_eq_ok env).mp hzero
  obtain rfl := Option.some.inj (ha.symm.trans ha₁)
  obtain ⟨a', rfl, hw⟩ :=
    deleteCreateRoleFromAccount_writesOnly env (Heap.get_set_self _ _ _) hdelete
  have hkeys : a.WritesOnly keys a' :=
    (UserAccount.WritesOnly.saveKeyValue (by simp [keys, roleTransferKeys]) _ _).trans
      (hw.mono (by simp [keys, roleTransferKeys]))
  split at hbranch
  · obtain ⟨d', hd', rfl⟩ := grantAtDestination_writesOnly env hbranch
    refine ⟨a', hkeys, rfl, rfl, fun y => ?_⟩
    simp only [Heap.set_shard] at hd' ⊢
    rw [ShardState.loadAccount_saveAccount_apply]
    split
    · next hy =>
      rw [hy, hd'.address_eq, ShardState.loadAccount_address]
      exact hd'
    · exact .refl _ _
  · obtain ⟨rfl, rfl⟩ := EStateM.Result.ok.inj hbranch
    exact ⟨a', hkeys, rfl, rfl, fun y => by simpa using .refl _ _⟩

end Shapes

/-! ## 3. The whole call -/

namespace DCDTNFTCreateRoleTransfer

variable {e : DCDTNFTCreateRoleTransfer} {vmInput : ContractCallInput} {h h' : Heap}

/-- **A successful role transfer.**  The call carried no value, `acntSnd` was `nil` and
`acntDst` was not, and the shape the caller chose succeeded. -/
theorem processBuiltinFunction_eq_ok {out : VMOutput}
    (hrun : e.processBuiltinFunction env vmInput h = .ok out h') :
    vmInput.callValue = 0 ∧ h.snd = none ∧ ∃ a, h.dst = some a ∧
      if vmInput.callerAddr = env.dcdtSCAddress then
        ∃ vo oa, executeTransferNFTCreateChangeAtCurrentOwner env e ⟨.ok, 0, [], [], []⟩ vmInput h =
          .ok (vo, oa) h' ∧ out = { vo with outputAccounts := [oa] }
      else executeTransferNFTCreateChangeAtNextOwner env ⟨.ok, 0, [], [], []⟩ vmInput h =
        .ok out h' := by
  rw [processBuiltinFunction, bind_eq_ok] at hrun
  obtain ⟨_, _, hbasic, hrun⟩ := hrun
  obtain ⟨hcheck, hh⟩ := liftExcept_eq_ok.mp hbasic
  rw [hh, run_get_bind, bind_eq_ok] at hrun
  obtain ⟨_, _, hsnd, hrun⟩ := hrun
  obtain ⟨hsnd, hh⟩ := failIf_run_eq_ok.mp hsnd
  rw [hh, bind_eq_ok] at hrun
  obtain ⟨_, _, hdst, hrun⟩ := hrun
  obtain ⟨hdst, hh⟩ := failIf_run_eq_ok.mp hdst
  rw [hh] at hrun
  obtain ⟨a, ha⟩ : ∃ a, h.dst = some a := by cases hd : h.dst <;> simp_all
  refine ⟨by simpa [checkBasicDCDTArguments] using hcheck, by simpa using hsnd, a, ha, ?_⟩
  split
  · next hcaller =>
    rw [if_pos hcaller, bind_eq_ok] at hrun
    obtain ⟨⟨vo, oa⟩, _, hcurrent, hret⟩ := hrun
    obtain ⟨rfl, rfl⟩ := EStateM.Result.ok.inj hret
    exact ⟨vo, oa, hcurrent, rfl⟩
  · next hcaller =>
    rwa [if_neg hcaller] at hrun

/-- **The current-owner shape rejects a nonce argument.**  A call from the management address
whose second argument does not have the management address's length fails, and changes
nothing: every check it fails comes before the first write. -/
theorem processBuiltinFunction_rejects_nonce_argument
    (hcaller : vmInput.callerAddr = env.dcdtSCAddress)
    (hlen : (vmInput.arguments.getD 1 []).length ≠ env.dcdtSCAddress.length) :
    ∃ err, e.processBuiltinFunction env vmInput h = .error err h := by
  have hcurrent : ∀ vmOutput, executeTransferNFTCreateChangeAtCurrentOwner env e vmOutput vmInput h =
      .error .errInvalidArguments h := by
    intro vmOutput
    simp only [executeTransferNFTCreateChangeAtCurrentOwner, run_bind, run_failIf, hcaller]
    split_ifs <;> simp_all
  rw [processBuiltinFunction, run_bind, run_liftExcept]
  rcases checkBasicDCDTArguments vmInput with err | _
  · exact ⟨err, rfl⟩
  simp only [run_get_bind, run_bind, run_get, run_failIf, hcaller, ↓reduceIte, hcurrent]
  split_ifs <;> simp [hcurrent]

/-- **The next-owner shape trusts its caller.**  When no collaborator fails, a call from any
address but the management address succeeds exactly when it carries no value, `acntSnd` is
`nil`, `acntDst` is set, there are two arguments and the role list of `acntDst` for the token
decodes.  Nothing is asked of the caller: not that it held the role, nor that the nonce came
from the token's current owner. -/
theorem processBuiltinFunction_nextOwner_ok_iff (hnf : ∀ c, env.fault c = none)
    (hcaller : vmInput.callerAddr ≠ env.dcdtSCAddress) :
    (∃ out h', e.processBuiltinFunction env vmInput h = .ok out h') ↔
      vmInput.callValue = 0 ∧ h.snd = none ∧ vmInput.arguments.length = 2 ∧
        ∃ a, h.dst = some a ∧
          storedRoles env.marshaller a (roleKey env (vmInput.arguments.getD 0 [])) ≠ none := by
  constructor
  · rintro ⟨out, h', hrun⟩
    obtain ⟨hvalue, hsnd, a, ha, hnext⟩ := processBuiltinFunction_eq_ok env hrun
    rw [if_neg hcaller] at hnext
    obtain ⟨hlen, hL⟩ := (executeTransferNFTCreateChangeAtNextOwner_ok_iff env hnf ha).mp
      ⟨_, _, hnext⟩
    exact ⟨hvalue, hsnd, hlen, a, ha, hL⟩
  · rintro ⟨hvalue, hsnd, hlen, a, ha, hL⟩
    obtain ⟨out, h', hnext⟩ : ∃ out h', executeTransferNFTCreateChangeAtNextOwner env
        ⟨.ok, 0, [], [], []⟩ vmInput h = .ok out h' :=
      (executeTransferNFTCreateChangeAtNextOwner_ok_iff env hnf ha).mpr ⟨hlen, hL⟩
    refine ⟨out, h', ?_⟩
    simp only [processBuiltinFunction, run_bind, run_liftExcept, checkBasicDCDTArguments, hvalue,
      ne_eq, not_true_eq_false, ↓reduceIte, run_get, run_failIf, hsnd, ha, Option.isSome_none,
      Option.isNone_some, Bool.false_eq_true, hcaller, hnext]

end DCDTNFTCreateRoleTransfer

end VmCommon
