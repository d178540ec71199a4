/-
# Shards, and the VM around each call

The executors of `builtInFunctions` each see one call in one shard.  Where the create role is
held, which nonces are allocated and which records are stored are facts about many calls in
many shards, so this module adds the system around the executors:

* a `World` is every shard's accounts database and the transfers in flight between shards.
  An address has one home shard (`Env.computeId`), but a shard's database may also keep an
  entry for a foreign address, since `LoadAccount` and `SaveAccount` take any address; so the
  accounts are the entries `World.entry s address` of every shard;
* `runCall` is one call as the VM runs it (outside `src/`, modelled from the spec): it passes
  the executor the caller's and the recipient's accounts when the shard hosts them, persists
  `acntSnd` and then `acntDst` after a success, rolls back a failure, and sends the output
  transfers on their way;
* `deliver` runs a transfer in flight in its destination's shard, with the arguments
  hex-decoded from its data and its sender as the caller.

Over it, three lemmas say what one call does to the whole world: `runCall_create_eq_ok` (a
create rewrites one entry, the account with roles, as `afterCreate`), `runCall_transfer_eq_ok`
(a current-owner role transfer strips the holder and grants a destination hosted in the same
shard) and `deliver_of_isRoleTransferIntent` (the delivery of a role transfer changes nothing,
as the current-owner shape rejects the nonce it carries).  `runCall_transfer_writesOnly` is the
frame of a role transfer: in every entry it writes at most the nonce and the role list of its
token.  `runCall_nextOwner_grants` is the other shape.  Any caller outside the shard that is
not the management address gives the role to the account it calls, and every other holder
keeps it.
-/
import VmCommon.BuiltInFunctions.RoleTransfer

namespace VmCommon

/-! ## 1. The world -/

/-- A transfer on its way to the shard of its destination. -/
structure Intent where
  destination : Bytes
  transfer : OutputTransfer

/-- Every shard's accounts database, and the transfers in flight between shards. -/
structure World where
  shards : Nat → ShardState
  inFlight : List Intent

/-- The account stored under `address` in shard `s`. -/
def World.entry (w : World) (s : Nat) (address : Bytes) : UserAccount :=
  (w.shards s).loadAccount address

@[simp] theorem World.entry_mk (shards : Nat → ShardState) (inFlight : List Intent) (s : Nat)
    (address : Bytes) : (World.mk shards inFlight).entry s address = (shards s).loadAccount address :=
  rfl

theorem World.entry_update (w : World) (s : Nat) (st : ShardState) (inFlight : List Intent)
    (s' : Nat) (address : Bytes) :
    (World.mk (Function.update w.shards s st) inFlight).entry s' address =
      if s' = s then st.loadAccount address else w.entry s' address := by
  by_cases hs : s' = s
  · subst hs; simp
  · simp [hs, World.entry]

variable (env : Env)

/-- The entry of shard `s` under `address` holds the create role for `t`. -/
def holdsAt (w : World) (t : Bytes) (s : Nat) (address : Bytes) : Prop :=
  HoldsRole env (w.entry s address) t env.dcdtRoleNFTCreate

instance (w : World) (t : Bytes) (s : Nat) (address : Bytes) :
    Decidable (holdsAt env w t s address) :=
  inferInstanceAs (Decidable (HoldsRole env _ _ _))

/-! ## 2. One call, as the VM runs it -/

/-- Modelled from the spec: the account objects the VM passes an executor in shard `selfId`
(§4.5, "Sender account must be resolvable"), the caller's and the recipient's, each loaded
from the shard's database when the shard hosts the address and `nil` otherwise. -/
def hostedAccount (s : ShardState) (selfId : Nat) (address : Bytes) : Option UserAccount :=
  if env.computeId address = selfId then some (s.loadAccount address) else none

/-- The heap a call in shard `selfId` starts from. -/
def callHeap (s : ShardState) (selfId : Nat) (vmInput : ContractCallInput) : Heap :=
  ⟨hostedAccount env s selfId vmInput.callerAddr, hostedAccount env s selfId vmInput.recipientAddr,
    none, s⟩

/-- Modelled from the spec: what the VM persists after a successful call (§3, account state is
"persisted by the external accounts adapter at the end of a successful call"): `acntSnd`, then
`acntDst`, unless the call is to the caller itself. -/
def commitHeap (vmInput : ContractCallInput) (h : Heap) : ShardState :=
  let s := match h.snd with
    | some a => h.shard.saveAccount a
    | none => h.shard
  match h.dst with
  | some a => if vmInput.recipientAddr = vmInput.callerAddr then s else s.saveAccount a
  | none => s

/-- A call to the caller itself persists `acntSnd` alone. -/
theorem commitHeap_of_self {vmInput : ContractCallInput} (h : Heap)
    (hself : vmInput.recipientAddr = vmInput.callerAddr) :
    commitHeap vmInput h = match h.snd with
      | some a => h.shard.saveAccount a
      | none => h.shard := by
  unfold commitHeap
  cases h.snd <;> cases h.dst <;> simp [hself]

/-- The transfers of a call's output, each with the address it goes to. -/
def intentsOf (out : VMOutput) : List Intent :=
  out.outputAccounts.flatMap fun acc => acc.outputTransfers.map (Intent.mk acc.address)

/-- One call of `exec` in shard `selfId`.  On success the shard keeps what the VM persists and
the call's transfers join those in flight; a failed call is rolled back (§7, "atomic
all-or-nothing per call"). -/
def runCall (w : World) (selfId : Nat) (vmInput : ContractCallInput) (exec : Exec VMOutput) :
    Except Error (VMOutput × World) :=
  match exec (callHeap env (w.shards selfId) selfId vmInput) with
  | .ok out h =>
    .ok (out, ⟨Function.update w.shards selfId (commitHeap vmInput h), w.inFlight ++ intentsOf out⟩)
  | .error err _ => .error err

/-- The call a transfer becomes in its destination's shard, with its sender as the caller. -/
def deliveryCall (i : Intent) (function : Bytes) (arguments : List Bytes) : ContractCallInput :=
  ⟨i.transfer.senderAddress, i.destination, i.transfer.value, .directCall, arguments, function, 0,
    false⟩

/-- Modelled from the spec: how a transfer's data is read in its destination's shard (§6,
"argument separator is a single fixed byte; all arguments are hex-encoded byte strings"): the
first field names the function, the others are hex-decoded into the arguments. -/
def deliveryInput (i : Intent) : Option ContractCallInput :=
  match i.transfer.data.splitOn separator with
  | [] => none
  | function :: args => (args.mapM decodeString).map (deliveryCall i function)

/-- Deliver a transfer in the shard of its destination.  The modelled executors only emit role
transfers, so that is what runs; a delivery that does not parse, or fails, changes nothing. -/
def deliver (w : World) (i : Intent) : World :=
  let selfId := env.computeId i.destination
  match deliveryInput i with
  | none => w
  | some vmInput =>
    match runCall env w selfId vmInput
        (DCDTNFTCreateRoleTransfer.processBuiltinFunction env ⟨selfId⟩ vmInput) with
    | .ok (_, w') => w'
    | .error _ => w

section Calls

variable {w w' : World} {s : Nat} {vmInput : ContractCallInput} {out : VMOutput}

theorem runCall_eq_ok {exec : Exec VMOutput} :
    runCall env w s vmInput exec = .ok (out, w') ↔
      ∃ h, exec (callHeap env (w.shards s) s vmInput) = .ok out h ∧
        w' = ⟨Function.update w.shards s (commitHeap vmInput h), w.inFlight ++ intentsOf out⟩ := by
  unfold runCall
  cases exec (callHeap env (w.shards s) s vmInput) with
  | ok o h =>
    simp only [Except.ok.injEq, Prod.mk.injEq, EStateM.Result.ok.injEq]
    constructor
    · rintro ⟨rfl, rfl⟩
      exact ⟨h, ⟨rfl, rfl⟩, rfl⟩
    · rintro ⟨_, ⟨rfl, rfl⟩, rfl⟩
      exact ⟨rfl, rfl⟩
  | error err h => simp

theorem runCall_of_error {exec : Exec VMOutput} {err : Error} {h : Heap}
    (hexec : exec (callHeap env (w.shards s) s vmInput) = .error err h) :
    runCall env w s vmInput exec = .error err := by
  simp [runCall, hexec]

/-- The address of the account with roles a create reads: the caller, or for
`ExecOnDestByCaller` the trailing argument. -/
def holderAddress (vmInput : ContractCallInput) : Bytes :=
  if vmInput.callType = .execOnDestByCaller then scAddressWithRoles vmInput else vmInput.callerAddr

/-- **A create, as the VM runs it.**  A successful create in shard `s` read the account stored
there under `holderAddress`, and its reads passed; afterwards that entry is `afterCreate` of
itself and every other entry of every shard is as it was (for `ExecOnDestByCaller` the VM
saves the caller's untouched object back); no transfer is emitted; and the create returned the
nonce it allocated. -/
theorem runCall_create_eq_ok {e : DCDTNFTCreate}
    (hrun : runCall env w s vmInput (processBuiltinFunction env e vmInput) = .ok (out, w')) :
    ∃ p, prepareCreate env e vmInput (w.entry s (holderAddress vmInput)) = .ok p ∧
      w'.inFlight = w.inFlight ∧ out.returnData = [bigBytes p.nextNonce.toNat] ∧
      ∀ s' x, w'.entry s' x =
        if s' = s ∧ x = holderAddress vmInput then afterCreate env (w.entry s (holderAddress vmInput)) p
        else w.entry s' x := by
  obtain ⟨h', hexec, rfl⟩ := (runCall_eq_ok env).mp hrun
  obtain ⟨a, p, ha, hprep, hcr, hexecFacts, rfl, rfl⟩ := processBuiltinFunction_eq_ok env hexec
  by_cases hx : vmInput.callType = .execOnDestByCaller
  · -- the account with roles is loaded from the shard; the caller's object is saved back as is
    have hne := (hexecFacts hx).2
    simp only [roleHolder, hx, ↓reduceIte, Option.some.injEq, callHeap] at ha
    subst ha
    refine ⟨p, by simpa [holderAddress, hx, World.entry] using hprep, by simp [intentsOf],
      by simp, fun s' x => ?_⟩
    rw [World.entry_update, commitHeap_of_self _ hcr.symm]
    simp only [holderPtr, shardAfterCreate, hx, ↓reduceIte, callHeap, hostedAccount, Heap.set,
      holderAddress]
    by_cases hs : s' = s <;> by_cases hxs : x = scAddressWithRoles vmInput <;>
      split_ifs <;> simp_all [ShardState.loadAccount_saveAccount_apply, World.entry]
  · -- the account with roles is the caller's own object, which the VM saves
    simp only [roleHolder, hx, ↓reduceIte, callHeap, hostedAccount] at ha
    split_ifs at ha with hhost
    simp only [Option.some.injEq] at ha
    subst ha
    refine ⟨p, by simpa [holderAddress, hx, World.entry] using hprep, by simp [intentsOf],
      by simp, fun s' x => ?_⟩
    rw [World.entry_update, commitHeap_of_self _ hcr.symm]
    simp only [holderPtr, shardAfterCreate, hx, ↓reduceIte, Heap.set, holderAddress]
    by_cases hs : s' = s <;> by_cases hxc : x = vmInput.callerAddr <;>
      simp_all [ShardState.loadAccount_saveAccount_apply, World.entry, callHeap]

/-- The VM's commit saves accounts, and moves no liquidity. -/
theorem commitHeap_liquidity (vmInput : ContractCallInput) (h : Heap) :
    (commitHeap vmInput h).liquidity = h.shard.liquidity := by
  unfold commitHeap
  cases h.snd <;> cases h.dst <;> simp only [apply_ite ShardState.liquidity,
    ShardState.saveAccount_liquidity, ite_self]

/-- In the heap the VM builds, the account with roles of a create is the shard's entry under
`holderAddress`. -/
theorem roleHolder_callHeap {st : ShardState} {a : UserAccount}
    (ha : roleHolder vmInput (callHeap env st s vmInput) = some a) :
    a = st.loadAccount (holderAddress vmInput) := by
  simp only [roleHolder, holderAddress, callHeap, hostedAccount] at ha ⊢
  split_ifs at ha ⊢ <;> exact (Option.some.inj ha).symm

/-- **The liquidity a create credits.**  A successful create in shard `s` credits `s`'s
liquidity for the instance it stored by its quantity, and moves no other liquidity. -/
theorem runCall_create_liquidity {e : DCDTNFTCreate}
    (hrun : runCall env w s vmInput (processBuiltinFunction env e vmInput) = .ok (out, w')) :
    ∃ p, prepareCreate env e vmInput (w.entry s (holderAddress vmInput)) = .ok p ∧
      ∀ s', (w'.shards s').liquidity = if s' = s then
        ((w.shards s).addLiquidity (computeDCDTNFTTokenKey p.dcdtTokenKey p.nextNonce)
          p.quantity).liquidity
      else (w.shards s').liquidity := by
  obtain ⟨h', hexec, rfl⟩ := (runCall_eq_ok env).mp hrun
  obtain ⟨a, p, ha, hprep, -, -, rfl, -⟩ := processBuiltinFunction_eq_ok env hexec
  obtain rfl := roleHolder_callHeap env ha
  refine ⟨p, hprep, fun s' => ?_⟩
  simp only [Function.update_apply]
  split_ifs with hs
  · rw [commitHeap_liquidity]
    simp only [shardAfterCreate, apply_ite ShardState.liquidity, ShardState.saveAccount_liquidity,
      ite_self]
    rfl
  · rfl

/-- A call from someone the shard does not host, to an account it hosts, persists that
account alone. -/
theorem commitHeap_of_dst {h : Heap} {a : UserAccount} (hsnd : h.snd = none)
    (hdst : h.dst = some a) (hne : vmInput.recipientAddr ≠ vmInput.callerAddr) :
    commitHeap vmInput h = h.shard.saveAccount a := by
  simp [commitHeap, hsnd, hdst, hne]

/-- **A current-owner role transfer, as the VM runs it.**  A successful role transfer from the
management address in shard `s` ran on its recipient `x`, hosted in `s`, while the management
address is not.  It leaves `x`'s entry stripped of the token's role and nonce; when the
destination `d` is hosted in `s` and is not `x`, `d`'s entry is granted the role and `x`'s
nonce; every other entry of every shard is as it was; and the one transfer it emits goes to
`d`, from the management address, carrying the token and that nonce. -/
theorem runCall_transfer_eq_ok (hcaller : vmInput.callerAddr = env.dcdtSCAddress)
    (hrun : runCall env w s vmInput
      (DCDTNFTCreateRoleTransfer.processBuiltinFunction env ⟨s⟩ vmInput) = .ok (out, w')) :
    let t := vmInput.arguments.getD 0 []
    let d := vmInput.arguments.getD 1 []
    let x := vmInput.recipientAddr
    let nonce := latestNonce env (w.entry s x) t
    env.computeId x = s ∧ env.computeId env.dcdtSCAddress ≠ s ∧
    w'.inFlight = w.inFlight ++ [⟨d, ⟨1, 0, roleTransferData env t nonce, env.dcdtSCAddress⟩⟩] ∧
    Stripped env (w.entry s x) (w'.entry s x) t ∧
    (env.computeId d = s → d ≠ x → Granted env (w.entry s d) (w'.entry s d) t nonce) ∧
    ∀ s' y, ¬ (s' = s ∧ y = x) → ¬ (s' = s ∧ y = d ∧ env.computeId d = s) →
      w'.entry s' y = w.entry s' y := by
  intro t d x nonce
  obtain ⟨h', hexec, rfl⟩ := (runCall_eq_ok env).mp hrun
  obtain ⟨-, hsnd, a, ha, hshape⟩ :=
    DCDTNFTCreateRoleTransfer.processBuiltinFunction_eq_ok env hexec
  rw [if_pos hcaller] at hshape
  obtain ⟨vo, oa, hcur, rfl⟩ := hshape
  have hmgmt : env.computeId env.dcdtSCAddress ≠ s := by
    intro hm
    simp [callHeap, hostedAccount, hcaller, hm] at hsnd
  have hx : env.computeId x = s := by
    by_contra hx
    simp [callHeap, hostedAccount, x, hx] at ha
  have hxa : a = w.entry s x := by
    simpa [callHeap, hostedAccount, x, hx, eq_comm] using ha
  subst hxa
  obtain ⟨-, rfl, a', hstrip, hsnd', hdst', hbranch⟩ :=
    executeTransferNFTCreateChangeAtCurrentOwner_eq_ok env ha hcur
  have hne : x ≠ vmInput.callerAddr := by
    rintro hxc
    exact hmgmt (hcaller ▸ hxc ▸ hx)
  have hentry : ∀ y, (commitHeap vmInput h').loadAccount y =
      if y = x then a' else h'.shard.loadAccount y := fun y => by
    rw [commitHeap_of_dst (hsnd'.trans hsnd) hdst' hne, ShardState.loadAccount_saveAccount_apply,
      show a'.address = x from hstrip.address_eq]
  refine ⟨hx, hmgmt, by simp [intentsOf, hcaller, d, t, nonce], ?_, fun hd hdx => ?_,
    fun s' y hy hyd => ?_⟩
  · rw [World.entry_update, if_pos rfl, hentry, if_pos rfl]
    exact hstrip
  · rw [if_pos hd] at hbranch
    obtain ⟨d', hgrant, hshard⟩ := hbranch
    rw [World.entry_update, if_pos rfl, hentry, if_neg hdx, hshard,
      ShardState.loadAccount_saveAccount_apply, if_pos (by rw [hgrant.address_eq]; rfl)]
    exact hgrant
  · rw [World.entry_update]
    split_ifs with hs
    · subst hs
      rw [hentry, if_neg fun hyx => hy ⟨rfl, hyx⟩]
      split_ifs at hbranch with hd
      · obtain ⟨d', hgrant, hshard⟩ := hbranch
        rw [hshard, ShardState.loadAccount_saveAccount_apply, if_neg fun hyd' => hyd ⟨rfl,
          by rw [hyd', hgrant.address_eq, ShardState.loadAccount_address], hd⟩]
        rfl
      · rw [hbranch]
        rfl
    · rfl

/-- **What a role transfer writes, across the world.**  A successful current-owner transfer of
`t` changes, in every entry of every shard, at most the latest nonce and the role list of `t`:
addresses, token records and every other value stay as they were. -/
theorem runCall_transfer_writesOnly (hcaller : vmInput.callerAddr = env.dcdtSCAddress)
    (hrun : runCall env w s vmInput
      (DCDTNFTCreateRoleTransfer.processBuiltinFunction env ⟨s⟩ vmInput) = .ok (out, w'))
    (s' : Nat) (y : Bytes) :
    (w.entry s' y).WritesOnly (roleTransferKeys env (vmInput.arguments.getD 0 []))
      (w'.entry s' y) := by
  obtain ⟨hx, hmgmt, -⟩ := runCall_transfer_eq_ok env hcaller hrun
  obtain ⟨h', hexec, rfl⟩ := (runCall_eq_ok env).mp hrun
  obtain ⟨-, hsnd, a, ha, hshape⟩ :=
    DCDTNFTCreateRoleTransfer.processBuiltinFunction_eq_ok env hexec
  rw [if_pos hcaller] at hshape
  obtain ⟨vo, oa, hcur, -⟩ := hshape
  obtain ⟨a', ha', hsnd', hdst', hshard⟩ :=
    executeTransferNFTCreateChangeAtCurrentOwner_writesOnly env ha hcur
  have hxa : a = w.entry s vmInput.recipientAddr := by
    simpa [callHeap, hostedAccount, hx, eq_comm] using ha
  have hne : vmInput.recipientAddr ≠ vmInput.callerAddr := fun hxc =>
    hmgmt (hcaller ▸ hxc ▸ hx)
  rw [World.entry_update]
  split_ifs with hs
  · subst hs
    rw [commitHeap_of_dst (hsnd'.trans hsnd) hdst' hne, ShardState.loadAccount_saveAccount_apply]
    split
    · next hy =>
      rw [hy, ha'.address_eq, show a.address = vmInput.recipientAddr by rw [hxa]; rfl, ← hxa]
      exact ha'
    · exact hshard y
  · exact .refl _ _

/-- A role transfer of another token leaves the role and the latest nonce of `t` in every
entry. -/
theorem runCall_transfer_other {t : Bytes} (hcaller : vmInput.callerAddr = env.dcdtSCAddress)
    (htoken : vmInput.arguments.getD 0 [] ≠ t)
    (hrun : runCall env w s vmInput
      (DCDTNFTCreateRoleTransfer.processBuiltinFunction env ⟨s⟩ vmInput) = .ok (out, w'))
    (s' : Nat) (y : Bytes) :
    (holdsAt env w' t s' y ↔ holdsAt env w t s' y) ∧
      latestNonce env (w'.entry s' y) t = latestNonce env (w.entry s' y) t := by
  have hframe := runCall_transfer_writesOnly env hcaller hrun s' y
  have hrole : roleKey env t ∉ roleTransferKeys env (vmInput.arguments.getD 0 []) := by
    simp only [roleTransferKeys, List.mem_cons, List.mem_singleton, List.not_mem_nil, or_false,
      not_or]
    exact ⟨(getNonceKey_ne_roleKey env _ _).symm, fun h => htoken (List.append_cancel_left h).symm⟩
  have hnonce : getNonceKey env t ∉ roleTransferKeys env (vmInput.arguments.getD 0 []) := by
    simp only [roleTransferKeys, List.mem_cons, List.mem_singleton, List.not_mem_nil, or_false,
      not_or]
    exact ⟨fun h => htoken ((getNonceKey_inj env).mp h).symm, getNonceKey_ne_roleKey env _ _⟩
  exact ⟨holdsRole_of_values_eq env (hframe.values_eq _ hrole),
    latestNonce_of_values_eq env (hframe.values_eq _ hnonce)⟩

/-- A current-owner role transfer moves no liquidity. -/
theorem runCall_transfer_liquidity (hcaller : vmInput.callerAddr = env.dcdtSCAddress)
    (hrun : runCall env w s vmInput
      (DCDTNFTCreateRoleTransfer.processBuiltinFunction env ⟨s⟩ vmInput) = .ok (out, w'))
    (s' : Nat) : (w'.shards s').liquidity = (w.shards s').liquidity := by
  obtain ⟨h', hexec, rfl⟩ := (runCall_eq_ok env).mp hrun
  obtain ⟨-, -, a, ha, hshape⟩ :=
    DCDTNFTCreateRoleTransfer.processBuiltinFunction_eq_ok env hexec
  rw [if_pos hcaller] at hshape
  obtain ⟨vo, oa, hcur, -⟩ := hshape
  obtain ⟨-, -, a', -, -, -, hbranch⟩ :=
    executeTransferNFTCreateChangeAtCurrentOwner_eq_ok env ha hcur
  -- the destination, when hosted here, is saved with `SaveAccount`, which keeps the liquidity
  have hshard : h'.shard.liquidity = (w.shards s).liquidity := by
    split at hbranch
    · obtain ⟨d', -, hd⟩ := hbranch
      rw [hd]
      rfl
    · rw [hbranch]
      rfl
  simp only [Function.update_apply]
  split_ifs with hs
  · rw [commitHeap_liquidity, hshard, hs]
  · rfl

/-- A transfer the current-owner shape emits: a role transfer from the management address. -/
def IsRoleTransferIntent (i : Intent) : Prop :=
  i.transfer.senderAddress = env.dcdtSCAddress ∧
    ∃ tokenID nonce, i.transfer.data = roleTransferData env tokenID nonce

/-- A role transfer reaches its destination as a call with the token and the nonce's bytes as
its two arguments. -/
theorem deliveryInput_of_roleTransferData {i : Intent} {tokenID : Bytes} {nonce : UInt64}
    (hdata : i.transfer.data = roleTransferData env tokenID nonce) :
    deliveryInput i = some (deliveryCall i env.builtInFunctionDCDTNFTCreateRoleTransfer
      [tokenID, bigBytes nonce.toNat]) := by
  have hsplit : i.transfer.data.splitOn separator = [env.builtInFunctionDCDTNFTCreateRoleTransfer,
      encodeToString tokenID, encodeToString (bigBytes nonce.toNat)] := by
    rw [hdata, roleTransferData_eq_joinData]
    refine splitOn_joinData ?_ (List.cons_ne_nil _ _)
    simp only [List.mem_cons, List.mem_singleton, List.not_mem_nil, or_false]
    rintro p (rfl | rfl | rfl)
    · exact env.separator_not_mem_roleTransfer
    · exact at_not_mem_encodeToString _
    · exact at_not_mem_encodeToString _
  have hdecode := mapM_decodeString_encodeToString [tokenID, bigBytes nonce.toNat]
  simp only [List.map_cons, List.map_nil] at hdecode
  simp only [deliveryInput, hsplit]
  rw [hdecode]
  rfl

/-- **A role transfer delivered changes nothing.**  It reaches its destination as a call from
the management address, so it runs the current-owner shape again, whose second argument must
have an address's length: the nonce's bytes are at most eight, and the address is longer. -/
theorem deliver_of_isRoleTransferIntent {i : Intent} (hi : IsRoleTransferIntent env i) :
    deliver env w i = w := by
  obtain ⟨hsender, tokenID, nonce, hdata⟩ := hi
  have hlen : (bigBytes nonce.toNat).length ≠ env.dcdtSCAddress.length := by
    have h8 := length_bigBytes_le (u64_toNat_lt nonce)
    have := env.dcdtSCAddress_length
    omega
  let call := deliveryCall i env.builtInFunctionDCDTNFTCreateRoleTransfer
    [tokenID, bigBytes nonce.toNat]
  let s := env.computeId i.destination
  obtain ⟨err, herr⟩ := DCDTNFTCreateRoleTransfer.processBuiltinFunction_rejects_nonce_argument env
    (e := ⟨s⟩) (h := callHeap env (w.shards s) s call) (show call.callerAddr = _ from hsender) hlen
  simp only [deliver, deliveryInput_of_roleTransferData env hdata, runCall_of_error env herr]

/-- **Anyone outside the shard can grant the create role.**  A role transfer in shard `s` from
an address that is not the management address and is not hosted in `s`, to an account `x`
hosted in `s`, with no value, two arguments and a role list for the token that decodes,
succeeds when no collaborator fails.  Afterwards `x`'s entry holds the create role, with the
second argument as its latest nonce, and every other entry is as it was: whoever else held the
role still does. -/
theorem runCall_nextOwner_grants (hnf : ∀ c, env.fault c = none)
    (hcaller : vmInput.callerAddr ≠ env.dcdtSCAddress)
    (hfar : env.computeId vmInput.callerAddr ≠ s) (hx : env.computeId vmInput.recipientAddr = s)
    (hvalue : vmInput.callValue = 0) (hlen : vmInput.arguments.length = 2)
    (hroles : storedRoles env.marshaller (w.entry s vmInput.recipientAddr)
      (roleKey env (vmInput.arguments.getD 0 [])) ≠ none) :
    ∃ out w', runCall env w s vmInput
        (DCDTNFTCreateRoleTransfer.processBuiltinFunction env ⟨s⟩ vmInput) = .ok (out, w') ∧
      holdsAt env w' (vmInput.arguments.getD 0 []) s vmInput.recipientAddr ∧
      latestNonce env (w'.entry s vmInput.recipientAddr) (vmInput.arguments.getD 0 []) =
        UInt64.ofNat (setBytes (vmInput.arguments.getD 1 [])) ∧
      ∀ s' y, ¬ (s' = s ∧ y = vmInput.recipientAddr) → w'.entry s' y = w.entry s' y := by
  let h := callHeap env (w.shards s) s vmInput
  have hsnd : h.snd = none := by simp [h, callHeap, hostedAccount, hfar]
  have hdst : h.dst = some (w.entry s vmInput.recipientAddr) := by
    simp [h, callHeap, hostedAccount, hx, World.entry]
  obtain ⟨out, h', hexec⟩ := (DCDTNFTCreateRoleTransfer.processBuiltinFunction_nextOwner_ok_iff
    env (e := ⟨s⟩) (h := h) hnf hcaller).mpr ⟨hvalue, hsnd, hlen, _, hdst, hroles⟩
  obtain ⟨-, -, a, ha, hnext⟩ := DCDTNFTCreateRoleTransfer.processBuiltinFunction_eq_ok env hexec
  obtain rfl := Option.some.inj (ha.symm.trans hdst)
  rw [if_neg hcaller] at hnext
  obtain ⟨-, a', hgrant, rfl⟩ := executeTransferNFTCreateChangeAtNextOwner_eq_ok env ha hnext
  have hne : vmInput.recipientAddr ≠ vmInput.callerAddr := fun hxc => hfar (hxc ▸ hx)
  have hentry : ∀ y, (commitHeap vmInput (h.set .dst a')).loadAccount y =
      if y = vmInput.recipientAddr then a' else w.entry s y := fun y => by
    rw [commitHeap_of_dst (h := h.set .dst a') hsnd rfl hne,
      ShardState.loadAccount_saveAccount_apply, hgrant.address_eq]
    rfl
  refine ⟨out, _, (runCall_eq_ok env).mpr ⟨_, hexec, rfl⟩, ?_, ?_, fun s' y hy => ?_⟩
  · rw [holdsAt, World.entry_update, if_pos rfl, hentry, if_pos rfl]
    exact hgrant.holds
  · rw [World.entry_update, if_pos rfl, hentry, if_pos rfl]
    exact hgrant.latestNonce_eq
  · rw [World.entry_update]
    split_ifs with hs
    · subst hs
      rw [hentry, if_neg fun hyx => hy ⟨rfl, hyx⟩]
    · rfl

end Calls

end VmCommon
