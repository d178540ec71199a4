/-
# Token records are never overwritten

A create stores the new instance in the account with roles under
`baseDCDTKeyPrefix ‖ token ‖ nonce` (`dcdtNFTCreate.go:188-212`), with `MustUpdateAllFields`: a
record already stored under that key would be replaced.  This module shows that no step of the
system ever replaces or removes a stored record, over every run and every token at once, for as
long as no latest-nonce counter wraps.

* `SysStep` is one step of the system: a create run by an executor `NewDCDTNFTCreateFunc`
  builds, in any shard and either call shape; a current-owner role transfer from the
  management address on an account holding the create role of the token it names; or the
  delivery of a transfer in flight.  `SysRun` counts the steps.
* `StoreInv w C` gives every token `t` a counter `C t`: `CreateRoleInv` holds for `t` with
  counter `C t`; a token whose role is held has the form identifiers are issued in
  (`ticker-random`); and every record of an issued token stored in any entry has a nonce at
  most its counter.

The environment owes two things, the ones `core` relies on.  Only the management address hands
the role on, and only from its holder (a current-owner call on an account without the role
would reset that account's counter and grant the role with it).  And a token whose role is held
was issued as `ticker-random`: on such identifiers the instance key determines token and nonce
(`instanceKey_inj`), while the key of `A\x01` at nonce 2 is the key of `A` at nonce `0x0102`.

## Results

`StoreInv.create`, `StoreInv.transfer` and `StoreInv.deliver` are the three steps: each keeps
the invariant and every stored record, and only a create moves a counter, the one of its token,
by one.  A create writes under a key no record was stored under (`StoreInv.prepare_fresh`),
because its nonce is one above the counter every stored nonce of its token is at most.
`SysRun.storeInv` carries the invariant along a whole run of `n` steps from a state with every
counter below `2^64 - n`, with any property the steps keep; `storedRecords_persist` is the case
of the stored records: every record stored at the start is stored, unchanged, at the end.
-/
import VmCommon.System.CreateRole

namespace VmCommon

variable (env : Env)

/-! ## 1. The system -/

/-- One step of the whole system: a create by an executor `NewDCDTNFTCreateFunc` builds, in any
shard and either call shape; a current-owner role transfer from the management address, run in
the shard of an account holding the create role of the token it names; or the delivery of a
transfer in flight, which leaves the pool. -/
inductive SysStep : World → World → Prop
  | create {w w' : World} {out : VMOutput} (s : Nat) (funcGasCost : UInt64)
      (gasConfig : BaseOperationCost) (vmInput : ContractCallInput)
      (hrun : runCall env w s vmInput
        (processBuiltinFunction env (newDCDTNFTCreateFunc env funcGasCost gasConfig) vmInput) =
          .ok (out, w')) :
      SysStep w w'
  | transfer {w w' : World} {out : VMOutput} (vmInput : ContractCallInput)
      (hcaller : vmInput.callerAddr = env.dcdtSCAddress)
      (hholder : holdsAt env w (vmInput.arguments.getD 0 [])
        (env.computeId vmInput.recipientAddr) vmInput.recipientAddr)
      (hrun : runCall env w (env.computeId vmInput.recipientAddr) vmInput
        (DCDTNFTCreateRoleTransfer.processBuiltinFunction env
          ⟨env.computeId vmInput.recipientAddr⟩ vmInput) = .ok (out, w')) :
      SysStep w w'
  | deliver {w : World} (pre post : List Intent) (i : Intent)
      (hw : w.inFlight = pre ++ i :: post) :
      SysStep w (deliver env { w with inFlight := pre ++ post } i)

/-- A run of `n` steps. -/
inductive SysRun : World → Nat → World → Prop
  | refl (w : World) : SysRun w 0 w
  | tail {w w₁ w₂ : World} {n : Nat} : SysRun w n w₁ → SysStep env w₁ w₂ → SysRun w (n + 1) w₂

/-- Every token record of `w` is in `w'`, unchanged. -/
def KeepsRecords (w w' : World) : Prop :=
  ∀ s y k v, (w.entry s y).trie.nfts k = some v → (w'.entry s y).trie.nfts k = some v

/-! ## 2. Instance keys -/

/-- The key of the instance of `t` with nonce `n`, under the prefix every create uses. -/
def instanceKey (t : Bytes) (n : UInt64) : Bytes :=
  computeDCDTNFTTokenKey (env.baseDCDTKeyPrefix ++ t) n

/-- `t` has the form token identifiers are issued in. -/
def IsIssued (t : Bytes) : Prop := ∃ ti : TokenIdentifier, ti.toBytes = t

/-- On issued identifiers the instance key determines the token and the nonce. -/
theorem instanceKey_inj {t t' : Bytes} {n n' : UInt64} (ht : IsIssued t) (ht' : IsIssued t')
    (h : instanceKey env t n = instanceKey env t' n') : t = t' ∧ n = n' := by
  obtain ⟨ti, rfl⟩ := ht
  obtain ⟨ti', rfl⟩ := ht'
  simp only [instanceKey, computeDCDTNFTTokenKey, TokenIdentifier.toBytes, List.append_assoc,
    List.append_cancel_left_eq, List.cons_append] at h
  obtain ⟨hticker, hrest⟩ :=
    append_cons_inj_of_not_mem ti.dash_not_mem_ticker ti'.dash_not_mem_ticker h
  obtain ⟨hrandom, hnonce⟩ := List.append_inj hrest (by rw [ti.random_length, ti'.random_length])
  exact ⟨by rw [TokenIdentifier.toBytes, TokenIdentifier.toBytes, hticker, hrandom],
    (u64_eq_iff _ _).mpr (bigBytes_injective hnonce)⟩

/-! ## 3. The invariant and the three steps -/

/-- Counters for every token: the create role of each is held at most once, by an entry whose
latest nonce is its counter; only issued tokens are held; and every stored record of an issued
token has a nonce at most its counter. -/
structure StoreInv (w : World) (C : Bytes → UInt64) : Prop where
  createRole : ∀ t, CreateRoleInv env t w (C t)
  issued : ∀ t s x, holdsAt env w t s x → IsIssued t
  below : ∀ t, IsIssued t → ∀ n s y, ((w.entry s y).trie.nfts (instanceKey env t n)).isSome →
    n.toNat ≤ (C t).toNat

namespace StoreInv

variable {env} {w w' : World} {C : Bytes → UInt64}

section Create

variable {funcGasCost : UInt64} {gasConfig : BaseOperationCost} {vmInput : ContractCallInput}
  {s : Nat} {x : Bytes} {a : UserAccount} {p : Prepared}

/-- The record of a create goes under the instance key of its token and nonce. -/
theorem prepare_key
    (hprep : prepareCreate env (newDCDTNFTCreateFunc env funcGasCost gasConfig) vmInput a =
      .ok p) :
    computeDCDTNFTTokenKey p.dcdtTokenKey p.nextNonce = instanceKey env p.tokenID p.nextNonce := by
  rw [(prepareCreate_eq_ok env hprep).dcdtTokenKey_eq]
  rfl

/-- A create reads an entry holding the role of its token: the token is issued, and the
create's nonce is its counter plus one. -/
theorem prepare_holder (hinv : StoreInv env w C)
    (hprep : prepareCreate env (newDCDTNFTCreateFunc env funcGasCost gasConfig) vmInput
      (w.entry s x) = .ok p) :
    holdsAt env w p.tokenID s x ∧ IsIssued p.tokenID ∧ p.nextNonce = C p.tokenID + 1 := by
  have hp := prepareCreate_eq_ok env hprep
  have hx : holdsAt env w p.tokenID s x := hp.holdsCreate
  exact ⟨hx, hinv.issued _ _ _ hx,
    by rw [hp.nextNonce_eq, (hinv.createRole p.tokenID).latestNonce_eq s _ hx]⟩

/-- No entry of any shard stores a record under the key a create writes: its nonce is one
above the counter every stored nonce of its token is at most. -/
theorem prepare_fresh (hinv : StoreInv env w C) (hC : (C p.tokenID).toNat + 1 < 2 ^ 64)
    (hprep : prepareCreate env (newDCDTNFTCreateFunc env funcGasCost gasConfig) vmInput
      (w.entry s x) = .ok p) (s' : Nat) (y : Bytes) :
    (w.entry s' y).trie.nfts (instanceKey env p.tokenID p.nextNonce) = none := by
  obtain ⟨-, hissued, hnext⟩ := hinv.prepare_holder hprep
  have hnextNat : p.nextNonce.toNat = (C p.tokenID).toNat + 1 := by
    rw [hnext, u64_toNat_add]
    exact Nat.mod_eq_of_lt hC
  by_contra hsome
  have := hinv.below _ hissued _ _ _ (Option.ne_none_iff_isSome.mp hsome)
  omega

end Create

/-- The records after a create: the entry it wrote gains the new record under the instance key
of its token and nonce, and nothing else changes. -/
theorem nfts_of_create {funcGasCost : UInt64} {gasConfig : BaseOperationCost}
    {vmInput : ContractCallInput} {s : Nat} {x : Bytes} {p : Prepared}
    (hprep : prepareCreate env (newDCDTNFTCreateFunc env funcGasCost gasConfig) vmInput
      (w.entry s x) = .ok p)
    (hentry : ∀ s' y, w'.entry s' y =
      if s' = s ∧ y = x then afterCreate env (w.entry s x) p else w.entry s' y)
    (s' : Nat) (y k : Bytes) :
    (w'.entry s' y).trie.nfts k =
      if s' = s ∧ y = x ∧ k = instanceKey env p.tokenID p.nextNonce then some p.dcdtData
      else (w.entry s' y).trie.nfts k := by
  rw [hentry]
  by_cases hsx : s' = s ∧ y = x
  · obtain ⟨rfl, rfl⟩ := hsx
    simp [afterCreate_nfts_apply, prepare_key hprep]
  · rw [if_neg hsx, if_neg fun h => hsx ⟨h.1, h.2.1⟩]

/-- **A create.**  It writes one record, under the key of its token at the counter plus one,
where no record was stored; that counter moves up by one and no other. -/
theorem create (hinv : StoreInv env w C) (hC : ∀ t, (C t).toNat + 1 < 2 ^ 64) {s : Nat}
    {funcGasCost : UInt64} {gasConfig : BaseOperationCost} {vmInput : ContractCallInput}
    {out : VMOutput}
    (hrun : runCall env w s vmInput
      (processBuiltinFunction env (newDCDTNFTCreateFunc env funcGasCost gasConfig) vmInput) =
        .ok (out, w')) :
    ∃ C', StoreInv env w' C' ∧ (∀ t, (C' t).toNat ≤ (C t).toNat + 1) ∧ KeepsRecords w w' := by
  obtain ⟨p, hprep, -, -, hentry⟩ := runCall_create_eq_ok env hrun
  have hp := prepareCreate_eq_ok env hprep
  obtain ⟨-, hissued, hnext⟩ := hinv.prepare_holder hprep
  have hnfts := nfts_of_create hprep hentry
  have hfresh := hinv.prepare_fresh (hC _) hprep
  have hholds : ∀ t s' y, holdsAt env w' t s' y ↔ holdsAt env w t s' y := by
    intro t s' y
    simp only [holdsAt, hentry]
    split_ifs with h
    · obtain ⟨rfl, rfl⟩ := h
      exact holdsRole_afterCreate env _ _ _ _
    · rfl
  set C' := Function.update C p.tokenID (C p.tokenID + 1) with hCdef
  have hC' : ∀ t, (C t).toNat ≤ (C' t).toNat ∧ (C' t).toNat ≤ (C t).toNat + 1 := by
    intro t
    by_cases ht : t = p.tokenID
    · subst ht
      rw [hCdef, Function.update_same, u64_toNat_add, show (1 : UInt64).toNat = 1 from rfl,
        Nat.mod_eq_of_lt (hC _)]
      omega
    · rw [hCdef, Function.update_noteq ht]
      omega
  refine ⟨C', ⟨fun t => ?_, fun t s' y hy => hinv.issued t s' y ((hholds t s' y).mp hy),
    fun t ht n s' y hn => ?_⟩, fun t => (hC' t).2, fun s' y k v hv => ?_⟩
  · have h := (hinv.createRole t).create hrun
    by_cases htt : vmInput.arguments.getD 0 [] = t
    · have ht : t = p.tokenID := htt.symm.trans hp.tokenID_eq.symm
      simp only [htt, ↓reduceIte] at h
      rcases h with ⟨h, -⟩ | ⟨-, h⟩
      · exact absurd h (List.cons_ne_nil _ _)
      · rw [ht] at h ⊢
        rwa [hCdef, Function.update_same]
    · have ht : t ≠ p.tokenID := fun ht => htt (hp.tokenID_eq.symm.trans ht.symm)
      simp only [htt, ↓reduceIte] at h
      rcases h with ⟨-, h⟩ | ⟨h, -⟩
      · rwa [hCdef, Function.update_noteq ht]
      · exact absurd h.symm (List.cons_ne_nil _ _)
  · rw [hnfts] at hn
    split_ifs at hn with hw
    · obtain ⟨rfl, rfl⟩ := instanceKey_inj env ht hissued hw.2.2
      rw [hCdef, Function.update_same, ← hnext]
    · exact (hinv.below t ht n s' y hn).trans (hC' t).1
  · rw [hnfts, if_neg]
    · exact hv
    · rintro ⟨rfl, rfl, rfl⟩
      rw [hfresh] at hv
      cases hv

/-- **A role transfer.**  It writes no record and moves no counter: the role of its token moves
or is dropped (`CreateRoleInv.transfer`), the other tokens are untouched. -/
theorem transfer (hinv : StoreInv env w C) {vmInput : ContractCallInput} {out : VMOutput}
    (hcaller : vmInput.callerAddr = env.dcdtSCAddress)
    (hholder : holdsAt env w (vmInput.arguments.getD 0 []) (env.computeId vmInput.recipientAddr)
      vmInput.recipientAddr)
    (hrun : runCall env w (env.computeId vmInput.recipientAddr) vmInput
      (DCDTNFTCreateRoleTransfer.processBuiltinFunction env
        ⟨env.computeId vmInput.recipientAddr⟩ vmInput) = .ok (out, w')) :
    StoreInv env w' C ∧ KeepsRecords w w' := by
  have hnfts : ∀ s y, (w'.entry s y).trie.nfts = (w.entry s y).trie.nfts := fun s y =>
    (runCall_transfer_writesOnly env hcaller hrun s y).nfts_eq
  refine ⟨⟨fun t => ?_, fun t s y hy => ?_, fun t ht n s y hn => ?_⟩,
    fun s y k v hv => by rwa [hnfts]⟩
  · by_cases ht : vmInput.arguments.getD 0 [] = t
    · exact (hinv.createRole t).transfer hcaller ht (ht ▸ hholder) hrun
    · exact (hinv.createRole t).transfer_other hcaller ht hrun
  · by_cases ht : vmInput.arguments.getD 0 [] = t
    · exact ht ▸ hinv.issued _ _ _ hholder
    · exact hinv.issued t s y ((runCall_transfer_other env hcaller ht hrun s y).1.mp hy)
  · rw [hnfts] at hn
    exact hinv.below t ht n s y hn

/-- **A delivery.**  It changes no account. -/
theorem deliver (hinv : StoreInv env w C) {pre post : List Intent} {i : Intent}
    (hw : w.inFlight = pre ++ i :: post) :
    StoreInv env (VmCommon.deliver env { w with inFlight := pre ++ post } i) C ∧
      KeepsRecords w (VmCommon.deliver env { w with inFlight := pre ++ post } i) := by
  have hi : IsRoleTransferIntent env i := (hinv.createRole []).inFlight i (by simp [hw])
  refine ⟨⟨fun t => (hinv.createRole t).deliver hw, ?_, ?_⟩, ?_⟩ <;>
    rw [deliver_of_isRoleTransferIntent env hi]
  · exact hinv.issued
  · exact hinv.below
  · exact fun _ _ _ _ h => h

/-- **One step.**  From a state with every counter below `2^64 - 1`, a step keeps the invariant
and every stored record, and moves each counter by at most one. -/
theorem step (hinv : StoreInv env w C) (hC : ∀ t, (C t).toNat + 1 < 2 ^ 64)
    (hstep : SysStep env w w') :
    ∃ C', StoreInv env w' C' ∧ (∀ t, (C' t).toNat ≤ (C t).toNat + 1) ∧ KeepsRecords w w' := by
  cases hstep with
  | create s funcGasCost gasConfig vmInput hrun => exact hinv.create hC hrun
  | transfer vmInput hcaller hholder hrun =>
    obtain ⟨hinv', hkeep⟩ := hinv.transfer hcaller hholder hrun
    exact ⟨C, hinv', fun t => Nat.le_succ _, hkeep⟩
  | deliver pre post i hw =>
    obtain ⟨hinv', hkeep⟩ := hinv.deliver hw
    exact ⟨C, hinv', fun t => Nat.le_succ _, hkeep⟩

end StoreInv

/-- **Runs keep the invariant**, and with it every property of the world that a step keeps
from a state satisfying it: after `n` steps from counters below `2^64 - n`, each counter having
grown by at most `n`. -/
theorem SysRun.storeInv {P : World → Prop}
    (hP : ∀ {w₁ w₂ : World} {C₁ : Bytes → UInt64}, StoreInv env w₁ C₁ →
      (∀ t, (C₁ t).toNat + 1 < 2 ^ 64) → SysStep env w₁ w₂ → P w₁ → P w₂)
    {w w' : World} {n : Nat} {C : Bytes → UInt64} (hinv : StoreInv env w C)
    (hC : ∀ t, (C t).toNat + n < 2 ^ 64) (hrun : SysRun env w n w') (hw : P w) :
    ∃ C', StoreInv env w' C' ∧ (∀ t, (C' t).toNat ≤ (C t).toNat + n) ∧ P w' := by
  induction hrun with
  | refl => exact ⟨C, hinv, fun t => Nat.le_add_right _ _, hw⟩
  | tail _ hstep ih =>
    obtain ⟨C₁, hinv₁, hle₁, hw₁⟩ := ih fun t => by have := hC t; omega
    have hC₁ : ∀ t, (C₁ t).toNat + 1 < 2 ^ 64 := fun t => by
      have := hC t
      have := hle₁ t
      omega
    obtain ⟨C₂, hinv₂, hle₂, -⟩ := hinv₁.step hC₁ hstep
    exact ⟨C₂, hinv₂, fun t => by have := hle₁ t; have := hle₂ t; omega,
      hP hinv₁ hC₁ hstep hw₁⟩

/-- **Stored records persist.**  Along any run of `n` steps from a state satisfying `StoreInv`
with every counter below `2^64 - n`, the invariant holds throughout, each counter grows by at
most `n`, and every token record stored at the start is stored, unchanged, at the end. -/
theorem storedRecords_persist {w w' : World} {n : Nat} {C : Bytes → UInt64}
    (hinv : StoreInv env w C) (hC : ∀ t, (C t).toNat + n < 2 ^ 64) (hrun : SysRun env w n w') :
    ∃ C', StoreInv env w' C' ∧ (∀ t, (C' t).toNat ≤ (C t).toNat + n) ∧ KeepsRecords w w' := by
  refine SysRun.storeInv env (P := KeepsRecords w) (fun hinv₁ hC₁ hstep hkeep => ?_) hinv hC
    hrun fun _ _ _ _ h => h
  obtain ⟨-, -, -, hkeep₁⟩ := hinv₁.step hC₁ hstep
  exact fun s y k v h => hkeep₁ s y k v (hkeep s y k v h)

/-! ## 4. A world to run -/

/-- An account with nothing stored for the token holds none of its roles. -/
theorem not_holdsRole_of_values_nil {a : UserAccount} {t role : Bytes}
    (h : a.trie.values (roleKey env t) = []) : ¬ HoldsRole env a t role := by
  rw [holdsRole_iff_of_storedRoles env (L := []) (by simp [storedRoles, h])]
  exact List.not_mem_nil _

/-- The account `[1]`, holding the create role for `ABC-abcdef`. -/
def issuer : UserAccount :=
  (emptyAccount [1]).saveKeyValue (roleKey sampleEnv sampleIdentifier.toBytes)
    (sampleEnv.marshaller.marshal ⟨[sampleEnv.dcdtRoleNFTCreate]⟩)

/-- `issuer` alone, in shard 1, with no token record and nothing in flight. -/
def issuerWorld : World :=
  ⟨fun s => if s = 1 then emptyShard.saveAccount issuer else emptyShard, []⟩

theorem issuerWorld_entry (s : Nat) (x : Bytes) :
    issuerWorld.entry s x = if s = 1 ∧ x = [1] then issuer else emptyAccount x := by
  by_cases h : s = 1 ∧ x = [1]
  · obtain ⟨rfl, rfl⟩ := h
    exact ShardState.loadAccount_saveAccount _ issuer
  · rw [if_neg h]
    simp only [issuerWorld, World.entry]
    split_ifs with hs
    · subst hs
      rw [ShardState.loadAccount_saveAccount_apply,
        if_neg (show x ≠ issuer.address from fun hx => h ⟨rfl, hx⟩)]
      rfl
    · rfl

/-- In `issuerWorld` only `issuer` holds a create role, the one for `ABC-abcdef`. -/
theorem issuerWorld_holdsAt_iff (t : Bytes) (s : Nat) (x : Bytes) :
    holdsAt sampleEnv issuerWorld t s x ↔ t = sampleIdentifier.toBytes ∧ s = 1 ∧ x = [1] := by
  rw [holdsAt, issuerWorld_entry]
  split_ifs with h
  · by_cases ht : t = sampleIdentifier.toBytes
    · subst ht
      exact iff_of_true (by decide) ⟨rfl, h⟩
    · refine iff_of_false (not_holdsRole_of_values_nil sampleEnv ?_) fun h' => ht h'.1
      rw [issuer, UserAccount.saveKeyValue_values_of_ne _ _ (show roleKey sampleEnv t ≠
        roleKey sampleEnv sampleIdentifier.toBytes from fun he => ht (List.append_cancel_left he))]
      rfl
  · exact iff_of_false (not_holdsRole_of_values_nil sampleEnv rfl) fun h' => h h'.2

/-- `issuerWorld` satisfies the invariant, with every counter at 0. -/
theorem issuerWorld_storeInv : StoreInv sampleEnv issuerWorld fun _ => 0 where
  createRole t :=
    { unique := fun s x s' x' h h' => by
        obtain ⟨-, rfl, rfl⟩ := (issuerWorld_holdsAt_iff t s x).mp h
        obtain ⟨-, rfl, rfl⟩ := (issuerWorld_holdsAt_iff t s' x').mp h'
        exact ⟨rfl, rfl⟩
      latestNonce_eq := fun s x h => by
        obtain ⟨rfl, rfl, rfl⟩ := (issuerWorld_holdsAt_iff t s x).mp h
        decide
      inFlight := fun i hi => absurd hi (List.not_mem_nil _) }
  issued t s x h := ⟨sampleIdentifier, ((issuerWorld_holdsAt_iff t s x).mp h).1.symm⟩
  below t _ n s y h := by
    rw [issuerWorld_entry] at h
    split_ifs at h <;> simp [issuer, emptyAccount] at h

/-- `issuer` creating one `ABC-abcdef`, directly, with no royalties and no URI. -/
def issueCall : ContractCallInput :=
  ⟨[1], [1], 0, .directCall, [sampleIdentifier.toBytes, [1], [], [], [], [], []], [], 0, false⟩

/-- `issuer`'s first create keeps the invariant and every record. -/
theorem storedRecords_persist_issuer :
    ∃ w', SysRun sampleEnv issuerWorld 1 w' ∧ ∃ C', StoreInv sampleEnv w' C' ∧
      (∀ t, (C' t).toNat ≤ ((fun _ => (0 : UInt64)) t).toNat + 1) ∧
      KeepsRecords issuerWorld w' :=
  have hrun : runCall sampleEnv issuerWorld 1 issueCall
      (processBuiltinFunction sampleEnv (newDCDTNFTCreateFunc sampleEnv 0 ⟨0⟩) issueCall) =
        .ok _ := rfl
  have hr := SysRun.tail (SysRun.refl issuerWorld) (SysStep.create 1 0 ⟨0⟩ issueCall hrun)
  ⟨_, hr, storedRecords_persist sampleEnv issuerWorld_storeInv (fun _ => by norm_num) hr⟩

end VmCommon
