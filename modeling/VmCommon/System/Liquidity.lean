/-
# The system account's liquidity matches the stored records

A create does two writes about the instance it makes (`dcdtNFTCreate.go:204-212`): it saves
the record in the account with roles, with `SaveDCDTNFTToken`, and it credits the system
account's liquidity for the same key with the quantity, with `AddToLiquiditySystemAcc`.  Both
go to the shard the create runs in.  This module shows that the two stay in agreement over
every run of the system of `Store.lean`, for every instance of every issued token at once.

`Ledger w` says that each instance is stored in at most one entry of the whole world, and that
a shard's liquidity for it is the quantity of the record one of its entries stores, or `0` when
none does.  A create writes its record under a key no entry stored a record under
(`StoreInv.prepare_fresh`), so the liquidity it credits starts from `0`; a role transfer and a
delivery touch neither records nor liquidity.  The steps are those of `SysStep` only: the
built-in functions that move, burn or add quantity to an instance are not under `src/`, and
nothing here is said about them.

## Results

`Ledger.create`, `Ledger.transfer` and `Ledger.deliver` are the three steps, and
`liquidity_matches_records` follows a whole run from a state satisfying `StoreInv` and
`Ledger`, under the counter bound of `storedRecords_persist`.
-/
import VmCommon.System.Store

namespace VmCommon

variable (env : Env)

/-! ## 1. The books -/

/-- The system account's books agree with the stored records.  Every instance of an issued
token is stored in at most one entry of the whole world; a shard's liquidity for it is the
quantity of the record one of its entries stores, and `0` when none does. -/
structure Ledger (w : World) : Prop where
  single : ∀ t, IsIssued t → ∀ n s y s' y',
    ((w.entry s y).trie.nfts (instanceKey env t n)).isSome →
    ((w.entry s' y').trie.nfts (instanceKey env t n)).isSome → s = s' ∧ y = y'
  liquidity_of_record : ∀ t, IsIssued t → ∀ n s y v,
    (w.entry s y).trie.nfts (instanceKey env t n) = some v →
    (w.shards s).liquidity (instanceKey env t n) = v.value
  liquidity_of_none : ∀ t, IsIssued t → ∀ n s,
    (∀ y, (w.entry s y).trie.nfts (instanceKey env t n) = none) →
    (w.shards s).liquidity (instanceKey env t n) = 0

namespace Ledger

variable {env} {w w' : World} {C : Bytes → UInt64}

/-- A step that changes neither the records nor the liquidity keeps the books. -/
theorem of_frame (hL : Ledger env w)
    (hnfts : ∀ s y, (w'.entry s y).trie.nfts = (w.entry s y).trie.nfts)
    (hliq : ∀ s, (w'.shards s).liquidity = (w.shards s).liquidity) : Ledger env w' where
  single t ht n s y s' y' := by
    rw [hnfts, hnfts]
    exact hL.single t ht n s y s' y'
  liquidity_of_record t ht n s y v := by
    rw [hnfts, hliq]
    exact hL.liquidity_of_record t ht n s y v
  liquidity_of_none t ht n s := by
    simp only [hnfts, hliq]
    exact hL.liquidity_of_none t ht n s

/-- A step that writes one record `v` under one key, in the entry `x` of shard `s`, where no
entry stored one, and credits that shard's liquidity for the key from `0` to `v`'s quantity,
keeps the books. -/
theorem of_single_write (hL : Ledger env w) {key : Bytes} {s : Nat} {x : Bytes}
    {v : DCDigitalToken}
    (hnew : ∀ s' y, (w'.entry s' y).trie.nfts key = if s' = s ∧ y = x then some v else none)
    (hnewLiq : ∀ s', (w'.shards s').liquidity key = if s' = s then v.value else 0)
    (hold : ∀ k, k ≠ key → ∀ s' y, (w'.entry s' y).trie.nfts k = (w.entry s' y).trie.nfts k)
    (holdLiq : ∀ k, k ≠ key → ∀ s', (w'.shards s').liquidity k = (w.shards s').liquidity k) :
    Ledger env w' := by
  have hat : ∀ s' y, ((w'.entry s' y).trie.nfts key).isSome → s' = s ∧ y = x := fun s' y h => by
    by_contra hne
    simp [hnew, hne] at h
  refine ⟨fun t ht n s₁ y₁ s₂ y₂ h₁ h₂ => ?_, fun t ht n s₁ y₁ v₁ hv => ?_,
    fun t ht n s₁ hnone => ?_⟩
  · by_cases hk : instanceKey env t n = key
    · rw [hk] at h₁ h₂
      obtain ⟨rfl, rfl⟩ := hat s₁ y₁ h₁
      obtain ⟨rfl, rfl⟩ := hat s₂ y₂ h₂
      exact ⟨rfl, rfl⟩
    · rw [hold _ hk] at h₁ h₂
      exact hL.single t ht n s₁ y₁ s₂ y₂ h₁ h₂
  · by_cases hk : instanceKey env t n = key
    · rw [hk] at hv ⊢
      obtain ⟨rfl, rfl⟩ := hat s₁ y₁ (by rw [hv]; rfl)
      rw [hnew, if_pos ⟨rfl, rfl⟩, Option.some.injEq] at hv
      rw [hnewLiq, if_pos rfl, hv]
    · rw [hold _ hk] at hv
      rw [holdLiq _ hk]
      exact hL.liquidity_of_record t ht n s₁ y₁ v₁ hv
  · by_cases hk : instanceKey env t n = key
    · rw [hk] at hnone ⊢
      rw [hnewLiq, if_neg]
      rintro rfl
      have := hnone x
      rw [hnew, if_pos ⟨rfl, rfl⟩] at this
      cases this
    · rw [holdLiq _ hk]
      exact hL.liquidity_of_none t ht n s₁ fun y => by rw [← hold _ hk]; exact hnone y

/-! ## 2. The three steps -/

/-- **A create.**  It writes one record, under the instance key of its token and nonce, where no
entry stored one (`StoreInv.prepare_fresh`), and credits its shard's liquidity for that key,
`0` before, with its quantity. -/
theorem create (hL : Ledger env w) (hinv : StoreInv env w C)
    (hC : ∀ t, (C t).toNat + 1 < 2 ^ 64) {s : Nat} {funcGasCost : UInt64}
    {gasConfig : BaseOperationCost} {vmInput : ContractCallInput} {out : VMOutput}
    (hrun : runCall env w s vmInput
      (processBuiltinFunction env (newDCDTNFTCreateFunc env funcGasCost gasConfig) vmInput) =
        .ok (out, w')) :
    Ledger env w' := by
  obtain ⟨p, hprep, -, -, hentry⟩ := runCall_create_eq_ok env hrun
  obtain ⟨p₂, hprep₂, hliq⟩ := runCall_create_liquidity env hrun
  obtain rfl : p = p₂ := Except.ok.inj (hprep.symm.trans hprep₂)
  obtain ⟨-, hissued, -⟩ := hinv.prepare_holder hprep
  have hfresh := hinv.prepare_fresh (hC _) hprep
  have hnfts := StoreInv.nfts_of_create hprep hentry
  have hvalue : p.dcdtData.value = p.quantity := by
    obtain ⟨_, h⟩ := (prepareCreate_eq_ok env hprep).dcdtData_eq
    rw [h]
  rw [StoreInv.prepare_key hprep] at hliq
  have hnew : ∀ s' y, (w'.entry s' y).trie.nfts (instanceKey env p.tokenID p.nextNonce) =
      if s' = s ∧ y = holderAddress vmInput then some p.dcdtData else none := fun s' y => by
    rw [hnfts, hfresh]
    simp only [and_true]
  refine hL.of_single_write hnew (fun s' => ?_) (fun k hk s' y => by
    rw [hnfts, if_neg fun h => hk h.2.2]) (fun k hk s' => ?_)
  · rw [hliq, hvalue]
    split_ifs
    · simp only [ShardState.addLiquidity, Function.update_same,
        hL.liquidity_of_none _ hissued _ s (hfresh s), Nat.zero_add]
    · exact hL.liquidity_of_none _ hissued _ s' (hfresh s')
  · rw [hliq]
    split_ifs with hs
    · rw [hs]
      exact Function.update_noteq hk _ _
    · rfl

/-- **A role transfer.**  It writes no record and moves no liquidity. -/
theorem transfer (hL : Ledger env w) {vmInput : ContractCallInput} {out : VMOutput}
    (hcaller : vmInput.callerAddr = env.dcdtSCAddress)
    (hrun : runCall env w (env.computeId vmInput.recipientAddr) vmInput
      (DCDTNFTCreateRoleTransfer.processBuiltinFunction env
        ⟨env.computeId vmInput.recipientAddr⟩ vmInput) = .ok (out, w')) :
    Ledger env w' :=
  hL.of_frame (fun s y => (runCall_transfer_writesOnly env hcaller hrun s y).nfts_eq)
    (runCall_transfer_liquidity env hcaller hrun)

/-- **A delivery.**  It changes no shard. -/
theorem deliver (hL : Ledger env w) (hinv : StoreInv env w C) {pre post : List Intent}
    {i : Intent} (hw : w.inFlight = pre ++ i :: post) :
    Ledger env (VmCommon.deliver env { w with inFlight := pre ++ post } i) := by
  have hi : IsRoleTransferIntent env i := (hinv.createRole []).inFlight i (by simp [hw])
  rw [deliver_of_isRoleTransferIntent env hi]
  exact hL.of_frame (fun _ _ => rfl) fun _ => rfl

/-- **One step** from a state satisfying `StoreInv` keeps the books. -/
theorem step (hL : Ledger env w) (hinv : StoreInv env w C) (hC : ∀ t, (C t).toNat + 1 < 2 ^ 64)
    (hstep : SysStep env w w') : Ledger env w' := by
  cases hstep with
  | create s funcGasCost gasConfig vmInput hrun => exact hL.create hinv hC hrun
  | transfer vmInput hcaller _ hrun => exact hL.transfer hcaller hrun
  | deliver pre post i hw => exact hL.deliver hinv hw

end Ledger

/-- **The system account's liquidity matches the stored records.**  Along any run of `n` steps
from a state satisfying `StoreInv`, with every counter below `2^64 - n`, and `Ledger`: at the
end every instance of an issued token is stored in at most one entry of the whole world, and
each shard's liquidity for it is the quantity of the record one of its entries stores, or `0`
when none does. -/
theorem liquidity_matches_records {w w' : World} {n : Nat} {C : Bytes → UInt64}
    (hinv : StoreInv env w C) (hL : Ledger env w) (hC : ∀ t, (C t).toNat + n < 2 ^ 64)
    (hrun : SysRun env w n w') : Ledger env w' := by
  obtain ⟨-, -, -, hL'⟩ :=
    SysRun.storeInv env (fun hinv₁ hC₁ hstep hL₁ => hL₁.step hinv₁ hC₁ hstep) hinv hC hrun hL
  exact hL'

/-! ## 3. A world to run -/

/-- `issuerWorld` stores no record and tracks no liquidity. -/
theorem issuerWorld_ledger : Ledger sampleEnv issuerWorld where
  single _ _ _ s y _ _ h := by
    rw [issuerWorld_entry] at h
    split_ifs at h <;> simp [issuer, emptyAccount] at h
  liquidity_of_record _ _ _ s y _ h := by
    rw [issuerWorld_entry] at h
    split_ifs at h <;> simp [issuer, emptyAccount] at h
  liquidity_of_none _ _ _ s _ := by
    simp only [issuerWorld]
    split_ifs <;> rfl

/-- After `issuer`'s first create, the books still agree. -/
theorem liquidity_matches_records_issuer :
    ∃ w', SysRun sampleEnv issuerWorld 1 w' ∧ Ledger sampleEnv w' :=
  have hrun : runCall sampleEnv issuerWorld 1 issueCall
      (processBuiltinFunction sampleEnv (newDCDTNFTCreateFunc sampleEnv 0 ⟨0⟩) issueCall) =
        .ok _ := rfl
  have hr := SysRun.tail (SysRun.refl issuerWorld) (SysStep.create 1 0 ⟨0⟩ issueCall hrun)
  ⟨_, hr, liquidity_matches_records sampleEnv issuerWorld_storeInv issuerWorld_ledger
    (fun _ => by norm_num) hr⟩

end VmCommon
