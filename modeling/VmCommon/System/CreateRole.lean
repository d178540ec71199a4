/-
# The create role across shards

A token's NFT nonces come from the latest-nonce counter of the one account that holds the
create role, and the role moves between accounts by `DCDTNFTCreateRoleTransfer`.  This module
follows the role through whole runs of the system of `World.lean`:

* `Step` is one step of a run for the token `t`: a successful create of any token, in any
  shard and either call shape; a current-owner role transfer of `t` from the management
  address on the account holding the role; or the delivery of a transfer in flight.  `Run`
  strings steps together and collects the nonces the creates of `t` returned.
* `CreateRoleInv` is what every step keeps: at most one stored account, in any shard, holds
  the role; its latest nonce is the counter `L`; every transfer in flight is a role transfer
  from the management address.  A create of `t` returns `L + 1` and moves the counter there
  (`CreateRoleInv.create`); a transfer hands the role and `L` to a destination in the same
  shard, or to nobody (`CreateRoleInv.transfer`); a delivery changes no account
  (`CreateRoleInv.deliver`).  `CreateRoleInv.run` follows a whole run.

## Results

`createNonces_follow_latestNonce`: from a state where one account holds the role and nothing
is in flight, the creates of `t` along any run return `L + 1, L + 2, ...` in `uint64`; so they
are distinct for the first `2^64` creates.  They are not distinct forever:
`createNonces_wrap` runs `2^64 + 1` creates of one account and gets the nonce 1 twice.

`crossShard_handoff_loses_role`: a hand-off to a destination hosted in another shard strips the
holder, and delivering the transfer it emits changes nothing, so afterwards neither the holder
nor the destination holds the role; `sameShard_handoff_grants_role` is the same-shard case,
where the destination does get the role and the nonce, unless it is the holder itself:
`selfHandoff_revokes_role` shows that a hand-off to the holder only takes the role away.

`Step` has no next-owner call, and cannot have one: `strangerCall_second_holder` is such a call
from an address of shard 0, after which `creator` and its neighbour both hold the role.
-/
import VmCommon.System.World

namespace VmCommon

variable (env : Env)

/-! ## 1. Runs -/

/-- The nonce a create returned, read from its one return value. -/
def returnedNonce (out : VMOutput) : UInt64 := UInt64.ofNat (setBytes (out.returnData.headD []))

theorem returnedNonce_of_returnData {out : VMOutput} {n : UInt64}
    (h : out.returnData = [bigBytes n.toNat]) : returnedNonce out = n := by
  rw [returnedNonce, h, List.headD_cons, setBytes_bigBytes, u64_ofNat_toNat]

/-- One step of a run for the token `t`: a successful create, in any shard and either call
shape, labelled with the nonce it returned when it creates `t`; a successful current-owner
role transfer of `t` from the management address, run in the shard of its recipient, which
holds the role; or the delivery of a transfer in flight, which leaves the pool. -/
inductive Step (t : Bytes) : World → List UInt64 → World → Prop
  | create {w w' : World} {out : VMOutput} (s : Nat) (e : DCDTNFTCreate)
      (vmInput : ContractCallInput)
      (hrun : runCall env w s vmInput (processBuiltinFunction env e vmInput) = .ok (out, w')) :
      Step t w (if vmInput.arguments.getD 0 [] = t then [returnedNonce out] else []) w'
  | transfer {w w' : World} {out : VMOutput} (vmInput : ContractCallInput)
      (hcaller : vmInput.callerAddr = env.dcdtSCAddress)
      (htoken : vmInput.arguments.getD 0 [] = t)
      (hholder : holdsAt env w t (env.computeId vmInput.recipientAddr) vmInput.recipientAddr)
      (hrun : runCall env w (env.computeId vmInput.recipientAddr) vmInput
        (DCDTNFTCreateRoleTransfer.processBuiltinFunction env
          ⟨env.computeId vmInput.recipientAddr⟩ vmInput) = .ok (out, w')) :
      Step t w [] w'
  | deliver {w : World} (pre post : List Intent) (i : Intent)
      (hw : w.inFlight = pre ++ i :: post) :
      Step t w [] (deliver env { w with inFlight := pre ++ post } i)

/-- A run, with the nonces the creates of `t` returned, in order. -/
inductive Run (t : Bytes) : World → List UInt64 → World → Prop
  | refl (w : World) : Run t w [] w
  | tail {w w₁ w₂ : World} {ns ns' : List UInt64} :
      Run t w ns w₁ → Step env t w₁ ns' w₂ → Run t w (ns ++ ns') w₂

/-! ## 2. What every step keeps -/

/-- What the runs keep for the token `t`: at most one stored account holds the create role,
its latest nonce is `L`, and every transfer in flight is a role transfer. -/
structure CreateRoleInv (t : Bytes) (w : World) (L : UInt64) : Prop where
  unique : ∀ s x s' x', holdsAt env w t s x → holdsAt env w t s' x' → s = s' ∧ x = x'
  latestNonce_eq : ∀ s x, holdsAt env w t s x → latestNonce env (w.entry s x) t = L
  inFlight : ∀ i ∈ w.inFlight, IsRoleTransferIntent env i

namespace CreateRoleInv

variable {env} {t : Bytes} {w w' : World} {L : UInt64}

/-- **A create.**  A create of `t` read the holder, returns `L + 1` and moves the counter
there; a create of another token leaves the role and the counter of `t` alone. -/
theorem create (hinv : CreateRoleInv env t w L) {s : Nat} {e : DCDTNFTCreate}
    {vmInput : ContractCallInput} {out : VMOutput}
    (hrun : runCall env w s vmInput (processBuiltinFunction env e vmInput) = .ok (out, w')) :
    let ns := if vmInput.arguments.getD 0 [] = t then [returnedNonce out] else []
    ns = [] ∧ CreateRoleInv env t w' L ∨ ns = [L + 1] ∧ CreateRoleInv env t w' (L + 1) := by
  intro ns
  obtain ⟨p, hprep, hflight, hret, hentry⟩ := runCall_create_eq_ok env hrun
  have hp := prepareCreate_eq_ok env hprep
  set x := holderAddress vmInput
  -- the roles of every entry are as they were
  have hholds : ∀ s' y, holdsAt env w' t s' y ↔ holdsAt env w t s' y := by
    intro s' y
    simp only [holdsAt, hentry]
    split_ifs with h
    · obtain ⟨rfl, rfl⟩ := h
      exact holdsRole_afterCreate env _ _ _ _
    · rfl
  have hunique : ∀ s x s' x', holdsAt env w' t s x → holdsAt env w' t s' x' → s = s' ∧ x = x' :=
    fun s x s' x' h h' => hinv.unique s x s' x' ((hholds s x).mp h) ((hholds s' x').mp h')
  have hflight' : ∀ i ∈ w'.inFlight, IsRoleTransferIntent env i := hflight ▸ hinv.inFlight
  -- the counter of `t` moves only in the entry the create wrote, and only for a create of `t`
  have hnonce : ∀ s' y, holdsAt env w t s' y → latestNonce env (w'.entry s' y) t =
      if t = p.tokenID then p.nextNonce else L := by
    intro s' y hy
    rw [hentry]
    by_cases h : s' = s ∧ y = x
    · obtain ⟨rfl, rfl⟩ := h
      rw [if_pos ⟨rfl, rfl⟩, latestNonce_afterCreate]
      split_ifs
      · rfl
      · exact hinv.latestNonce_eq _ _ hy
    · rw [if_neg h]
      split_ifs with ht
      · exact absurd (hinv.unique _ _ _ _ hy (by rw [ht]; exact hp.holdsCreate)) h
      · exact hinv.latestNonce_eq _ _ hy
  by_cases ht : vmInput.arguments.getD 0 [] = t
  · have htok : t = p.tokenID := by rw [hp.tokenID_eq, ht]
    have hL : p.nextNonce = L + 1 := by
      rw [hp.nextNonce_eq, ← htok, hinv.latestNonce_eq s x (htok ▸ hp.holdsCreate)]
    refine .inr ⟨(if_pos ht).trans (by rw [returnedNonce_of_returnData hret, hL]),
      hunique, fun s' y hy => ?_, hflight'⟩
    rw [hnonce s' y ((hholds s' y).mp hy), if_pos htok, hL]
  · refine .inl ⟨if_neg ht, hunique, fun s' y hy => ?_, hflight'⟩
    rw [hnonce s' y ((hholds s' y).mp hy), if_neg (fun h => ht (hp.tokenID_eq ▸ h.symm))]

/-- **A role transfer.**  A current-owner transfer of `t` on the holder strips it, and grants
the role and `L` to the destination when it is hosted in the same shard; the transfer it emits
is a role transfer. -/
theorem transfer (hinv : CreateRoleInv env t w L) {vmInput : ContractCallInput} {out : VMOutput}
    (hcaller : vmInput.callerAddr = env.dcdtSCAddress) (htoken : vmInput.arguments.getD 0 [] = t)
    (hholder : holdsAt env w t (env.computeId vmInput.recipientAddr) vmInput.recipientAddr)
    (hrun : runCall env w (env.computeId vmInput.recipientAddr) vmInput
      (DCDTNFTCreateRoleTransfer.processBuiltinFunction env
        ⟨env.computeId vmInput.recipientAddr⟩ vmInput) = .ok (out, w')) :
    CreateRoleInv env t w' L := by
  set s := env.computeId vmInput.recipientAddr
  set x := vmInput.recipientAddr
  set d := vmInput.arguments.getD 1 []
  obtain ⟨-, -, hflight, hstrip, hgrant, hframe⟩ := runCall_transfer_eq_ok env hcaller hrun
  rw [htoken] at hflight hstrip hgrant
  have hL : latestNonce env (w.entry s x) t = L := hinv.latestNonce_eq s x hholder
  -- after the transfer, only a destination hosted in the same shard can hold the role
  have hnew : ∀ s' y, holdsAt env w' t s' y → s' = s ∧ y = d ∧ env.computeId d = s ∧ d ≠ x := by
    intro s' y hy
    by_cases hx : s' = s ∧ y = x
    · obtain ⟨rfl, rfl⟩ := hx
      exact absurd hy hstrip.not_holds
    by_cases hd : s' = s ∧ y = d ∧ env.computeId d = s
    · obtain ⟨rfl, rfl, hds⟩ := hd
      exact ⟨rfl, rfl, hds, fun hdx => hx ⟨rfl, hdx⟩⟩
    · have hy' : holdsAt env w t s' y := by
        unfold holdsAt at hy ⊢
        rwa [hframe s' y hx hd] at hy
      exact absurd (hinv.unique _ _ _ _ hy' hholder) hx
  refine ⟨fun s₁ y₁ s₂ y₂ h₁ h₂ => ?_, fun s' y hy => ?_, fun i hi => ?_⟩
  · obtain ⟨rfl, rfl, -⟩ := hnew _ _ h₁
    obtain ⟨rfl, rfl, -⟩ := hnew _ _ h₂
    exact ⟨rfl, rfl⟩
  · obtain ⟨rfl, rfl, hds, hdx⟩ := hnew _ _ hy
    rw [(hgrant hds hdx).latestNonce_eq, hL]
  · rw [hflight, List.mem_append, List.mem_singleton] at hi
    rcases hi with hi | rfl
    · exact hinv.inFlight i hi
    · exact ⟨rfl, t, _, rfl⟩

/-- **A role transfer of another token.**  It writes only the latest nonce and the role list of
its own token, so the role and the counter of `t` stay where they were. -/
theorem transfer_other (hinv : CreateRoleInv env t w L) {s : Nat} {vmInput : ContractCallInput}
    {out : VMOutput} (hcaller : vmInput.callerAddr = env.dcdtSCAddress)
    (htoken : vmInput.arguments.getD 0 [] ≠ t)
    (hrun : runCall env w s vmInput
      (DCDTNFTCreateRoleTransfer.processBuiltinFunction env ⟨s⟩ vmInput) = .ok (out, w')) :
    CreateRoleInv env t w' L := by
  obtain ⟨-, -, hflight, -⟩ := runCall_transfer_eq_ok env hcaller hrun
  have hother := runCall_transfer_other env hcaller htoken hrun
  refine ⟨fun s₁ y₁ s₂ y₂ h₁ h₂ =>
      hinv.unique _ _ _ _ ((hother _ _).1.mp h₁) ((hother _ _).1.mp h₂),
    fun s' y hy => ?_, fun i hi => ?_⟩
  · rw [(hother s' y).2]
    exact hinv.latestNonce_eq s' y ((hother s' y).1.mp hy)
  · rw [hflight, List.mem_append, List.mem_singleton] at hi
    rcases hi with hi | rfl
    · exact hinv.inFlight i hi
    · exact ⟨rfl, _, _, rfl⟩

/-- **A delivery.**  The transfer leaves the pool, and its delivery changes no account. -/
theorem deliver (hinv : CreateRoleInv env t w L) {pre post : List Intent} {i : Intent}
    (hw : w.inFlight = pre ++ i :: post) :
    CreateRoleInv env t (VmCommon.deliver env { w with inFlight := pre ++ post } i) L := by
  have hi : IsRoleTransferIntent env i := hinv.inFlight i (by simp [hw])
  rw [deliver_of_isRoleTransferIntent env hi]
  exact ⟨hinv.unique, hinv.latestNonce_eq, fun j hj => hinv.inFlight j (by
    rw [hw]; simp only [List.mem_append, List.mem_cons] at hj ⊢; tauto)⟩

/-- **One step.**  A step returns nothing and keeps the counter, or returns `L + 1` and moves
the counter there. -/
theorem step (hinv : CreateRoleInv env t w L) {ns : List UInt64} (hstep : Step env t w ns w') :
    ns = [] ∧ CreateRoleInv env t w' L ∨ ns = [L + 1] ∧ CreateRoleInv env t w' (L + 1) := by
  cases hstep with
  | create s e vmInput hrun => exact hinv.create hrun
  | transfer vmInput hcaller htoken hholder hrun =>
    exact .inl ⟨rfl, hinv.transfer hcaller htoken hholder hrun⟩
  | deliver pre post i hw => exact .inl ⟨rfl, hinv.deliver hw⟩

/-- **A whole run.**  The creates of `t` return `L + 1, L + 2, ...`, and the counter ends at
`L` plus their number. -/
theorem run {ns : List UInt64} (hrun : Run env t w ns w') (hinv : CreateRoleInv env t w L) :
    ns = (List.range ns.length).map (fun k => L + UInt64.ofNat (k + 1)) ∧
      CreateRoleInv env t w' (L + UInt64.ofNat ns.length) := by
  induction hrun with
  | refl => exact ⟨rfl, by rwa [List.length_nil, u64_add_ofNat_zero]⟩
  | tail _ hstep ih =>
    obtain ⟨hns, hinv'⟩ := ih
    rcases hinv'.step hstep with ⟨rfl, hinv''⟩ | ⟨rfl, hinv''⟩
    · simpa using ⟨hns, hinv''⟩
    · rw [List.length_append, List.length_singleton, List.range_succ, List.map_append, ← hns,
        List.map_singleton, u64_add_ofNat_succ]
      exact ⟨rfl, hinv''⟩

end CreateRoleInv

/-! ## 3. Create nonces -/

/-- The first `n ≤ 2^64` steps up from `L` are distinct. -/
theorem nodup_map_range_add (L : UInt64) {n : Nat} (hn : n ≤ 2 ^ 64) :
    ((List.range n).map (fun k => L + UInt64.ofNat (k + 1))).Nodup :=
  (List.nodup_range n).map_on fun _ hk _ hj h =>
    u64_add_ofNat_succ_inj L (by simp at hk; omega) (by simp at hj; omega) h

/-- **Create nonces across role hand-offs.**  Start where the entry of shard `s` under `x` is
the only one holding the create role for `t`, with no transfer in flight, and let `L` be its
latest nonce.  Along any run, the creates of `t` return `L + 1, L + 2, ...` in `uint64`, in
order; so no two of them return the same nonce as long as there are at most `2^64`. -/
theorem createNonces_follow_latestNonce {t : Bytes} {w w' : World} {ns : List UInt64} {s : Nat}
    {x : Bytes} (hunique : ∀ s' x', holdsAt env w t s' x' → s' = s ∧ x' = x)
    (hidle : w.inFlight = []) (hrun : Run env t w ns w') :
    ns = (List.range ns.length).map
        (fun k => latestNonce env (w.entry s x) t + UInt64.ofNat (k + 1)) ∧
      (ns.length ≤ 2 ^ 64 → ns.Nodup) := by
  have hinv : CreateRoleInv env t w (latestNonce env (w.entry s x) t) := by
    refine ⟨fun s₁ x₁ s₂ x₂ h₁ h₂ => ?_, fun s' x' h => ?_, by simp [hidle]⟩
    · obtain ⟨rfl, rfl⟩ := hunique _ _ h₁
      obtain ⟨rfl, rfl⟩ := hunique _ _ h₂
      exact ⟨rfl, rfl⟩
    · obtain ⟨rfl, rfl⟩ := hunique _ _ h
      rfl
  obtain ⟨hns, -⟩ := hinv.run hrun
  exact ⟨hns, fun hlen => hns ▸ nodup_map_range_add _ hlen⟩

/-! ## 4. The hand-off in one shard and across shards -/

section Handoff

variable {w w₁ : World} {s : Nat} {vmInput : ContractCallInput} {out : VMOutput}

/-- Delivering role transfers, one after the other, changes nothing. -/
theorem foldl_deliver_of_isRoleTransferIntent {is : List Intent}
    (his : ∀ i ∈ is, IsRoleTransferIntent env i) (w : World) : is.foldl (deliver env) w = w := by
  induction is with
  | nil => rfl
  | cons i is ih =>
    rw [List.foldl_cons, deliver_of_isRoleTransferIntent env (his i (List.mem_cons_self _ _)),
      ih fun j hj => his j (List.mem_cons_of_mem _ hj)]

/-- A current-owner transfer emits role transfers only. -/
theorem intentsOf_transfer (hcaller : vmInput.callerAddr = env.dcdtSCAddress)
    (hrun : runCall env w s vmInput
      (DCDTNFTCreateRoleTransfer.processBuiltinFunction env ⟨s⟩ vmInput) = .ok (out, w₁)) :
    ∀ i ∈ intentsOf out, IsRoleTransferIntent env i := by
  obtain ⟨_, -, hw₁⟩ := (runCall_eq_ok env).mp hrun
  obtain ⟨-, -, hflight, -⟩ := runCall_transfer_eq_ok env hcaller hrun
  rw [hw₁] at hflight
  rw [List.append_cancel_left hflight]
  simp only [List.mem_singleton]
  rintro i rfl
  exact ⟨rfl, _, _, rfl⟩

/-- **The cross-shard hand-off loses the role.**  A successful current-owner transfer of `t`
from the management address, run on `x` in shard `s`, to a destination `d` hosted in another
shard, strips `x`, leaves `d`'s entry in its own shard as it was, and emits a transfer whose
delivery changes nothing.  So if `d` did not hold the role, neither `d` nor `x` holds it once
the transfer is delivered. -/
theorem crossShard_handoff_loses_role (hcaller : vmInput.callerAddr = env.dcdtSCAddress)
    (hrun : runCall env w s vmInput
      (DCDTNFTCreateRoleTransfer.processBuiltinFunction env ⟨s⟩ vmInput) = .ok (out, w₁))
    (hcross : env.computeId (vmInput.arguments.getD 1 []) ≠ s)
    (hd : ¬ holdsAt env w (vmInput.arguments.getD 0 [])
      (env.computeId (vmInput.arguments.getD 1 [])) (vmInput.arguments.getD 1 [])) :
    let t := vmInput.arguments.getD 0 []
    let d := vmInput.arguments.getD 1 []
    let w₂ := (intentsOf out).foldl (deliver env) w₁
    ¬ holdsAt env w₂ t (env.computeId d) d ∧ ¬ holdsAt env w₂ t s vmInput.recipientAddr := by
  intro t d w₂
  obtain ⟨-, -, -, hstrip, -, hframe⟩ := runCall_transfer_eq_ok env hcaller hrun
  have hw₂ : w₂ = w₁ :=
    foldl_deliver_of_isRoleTransferIntent env (intentsOf_transfer env hcaller hrun) w₁
  rw [hw₂]
  refine ⟨fun hheld => hd ?_, hstrip.not_holds⟩
  unfold holdsAt at hheld ⊢
  rwa [hframe _ _ (fun h => hcross h.1) (fun h => hcross h.1)] at hheld

/-- **The same-shard hand-off grants the role.**  When the destination `d` is hosted in the
shard `s` of the holder `x` and is not `x`, `d` holds the role with `x`'s latest nonce once the
transfer is delivered, and `x` does not hold it. -/
theorem sameShard_handoff_grants_role (hcaller : vmInput.callerAddr = env.dcdtSCAddress)
    (hrun : runCall env w s vmInput
      (DCDTNFTCreateRoleTransfer.processBuiltinFunction env ⟨s⟩ vmInput) = .ok (out, w₁))
    (hsame : env.computeId (vmInput.arguments.getD 1 []) = s)
    (hdx : vmInput.arguments.getD 1 [] ≠ vmInput.recipientAddr) :
    let t := vmInput.arguments.getD 0 []
    let d := vmInput.arguments.getD 1 []
    let w₂ := (intentsOf out).foldl (deliver env) w₁
    holdsAt env w₂ t s d ∧
      latestNonce env (w₂.entry s d) t = latestNonce env (w.entry s vmInput.recipientAddr) t ∧
      ¬ holdsAt env w₂ t s vmInput.recipientAddr := by
  intro t d w₂
  obtain ⟨-, -, -, hstrip, hgrant, -⟩ := runCall_transfer_eq_ok env hcaller hrun
  have hw₂ : w₂ = w₁ :=
    foldl_deliver_of_isRoleTransferIntent env (intentsOf_transfer env hcaller hrun) w₁
  rw [hw₂]
  exact ⟨(hgrant hsame hdx).holds, (hgrant hsame hdx).latestNonce_eq, hstrip.not_holds⟩

/-- **A hand-off to the holder itself revokes the role.**  When the destination is the holder
`x`, the copy of `x` the executor loads, grants and saves is overwritten when the VM saves
`acntDst`, the stripped `x`.  Once the transfer is delivered, an entry holds the role exactly
when it held it before and is not `x`'s. -/
theorem selfHandoff_revokes_role (hcaller : vmInput.callerAddr = env.dcdtSCAddress)
    (hself : vmInput.arguments.getD 1 [] = vmInput.recipientAddr)
    (hrun : runCall env w s vmInput
      (DCDTNFTCreateRoleTransfer.processBuiltinFunction env ⟨s⟩ vmInput) = .ok (out, w₁))
    (s' : Nat) (y : Bytes) :
    holdsAt env ((intentsOf out).foldl (deliver env) w₁) (vmInput.arguments.getD 0 []) s' y ↔
      ¬ (s' = s ∧ y = vmInput.recipientAddr) ∧ holdsAt env w (vmInput.arguments.getD 0 []) s' y := by
  obtain ⟨-, -, -, hstrip, -, hframe⟩ := runCall_transfer_eq_ok env hcaller hrun
  rw [foldl_deliver_of_isRoleTransferIntent env (intentsOf_transfer env hcaller hrun) w₁]
  by_cases hx : s' = s ∧ y = vmInput.recipientAddr
  · obtain ⟨rfl, rfl⟩ := hx
    exact iff_of_false hstrip.not_holds fun h => h.1 ⟨rfl, rfl⟩
  · rw [holdsAt, holdsAt, hframe s' y hx fun hd => hx ⟨hd.1, hd.2.1.trans hself⟩]
    exact (and_iff_right hx).symm

end Handoff

/-! ## 5. A world to run -/

/-- `creator` alone, in shard 1 (its address `[1]` ends in an odd byte), nothing in flight. -/
def creatorWorld : World :=
  ⟨fun s => if s = 1 then emptyShard.saveAccount creator else emptyShard, []⟩

/-- In `creatorWorld`, `creator`'s entry is the only one holding the create role for `A`. -/
theorem creatorWorld_holdsAt_iff (s : Nat) (x : Bytes) :
    holdsAt sampleEnv creatorWorld [65] s x ↔ s = 1 ∧ x = [1] := by
  by_cases h : s = 1 ∧ x = [1]
  · obtain ⟨rfl, rfl⟩ := h
    exact iff_of_true (by decide) ⟨rfl, rfl⟩
  · refine iff_of_false ?_ h
    have hentry : creatorWorld.entry s x = ⟨x, ⟨fun _ => [], fun _ => none⟩⟩ := by
      simp only [creatorWorld, World.entry]
      split_ifs with hs
      · subst hs
        rw [ShardState.loadAccount_saveAccount_apply,
          if_neg (show x ≠ creator.address from fun hx => h ⟨rfl, hx⟩)]
        rfl
      · rfl
    rw [holdsAt, hentry]
    show ¬ HoldsRole sampleEnv (emptyAccount []) [65] sampleEnv.dcdtRoleNFTCreate
    decide

/-- The management address moving `creator`'s role for `A` to `d`. -/
def handoffCall (d : Bytes) : ContractCallInput :=
  ⟨sampleEnv.dcdtSCAddress, [1], 0, .directCall, [[65], d],
    sampleEnv.builtInFunctionDCDTNFTCreateRoleTransfer, 0, false⟩

/-- A 32-byte address ending in `b`: hosted in shard `b % 2`. -/
def addressEndingIn (b : UInt8) : Bytes := List.replicate 31 0 ++ [b]

/-- `creator`'s role for `A`, handed to an address of shard 0, is held by nobody. -/
theorem crossShard_handoff_creator :
    ∃ out w₁, runCall sampleEnv creatorWorld 1 (handoffCall (addressEndingIn 2))
        (DCDTNFTCreateRoleTransfer.processBuiltinFunction sampleEnv ⟨1⟩
          (handoffCall (addressEndingIn 2))) = .ok (out, w₁) ∧
      ¬ holdsAt sampleEnv ((intentsOf out).foldl (deliver sampleEnv) w₁) [65]
        (sampleEnv.computeId (addressEndingIn 2)) (addressEndingIn 2) ∧
      ¬ holdsAt sampleEnv ((intentsOf out).foldl (deliver sampleEnv) w₁) [65] 1 [1] :=
  have hrun : runCall sampleEnv creatorWorld 1 (handoffCall (addressEndingIn 2))
      (DCDTNFTCreateRoleTransfer.processBuiltinFunction sampleEnv ⟨1⟩
        (handoffCall (addressEndingIn 2))) = .ok _ := rfl
  ⟨_, _, hrun, crossShard_handoff_loses_role sampleEnv rfl hrun (by decide) (by decide)⟩

/-- The same role handed to `[1]`'s shard neighbour `addressEndingIn 1` is held there, with
`creator`'s latest nonce. -/
theorem sameShard_handoff_creator :
    ∃ out w₁, runCall sampleEnv creatorWorld 1 (handoffCall (addressEndingIn 1))
        (DCDTNFTCreateRoleTransfer.processBuiltinFunction sampleEnv ⟨1⟩
          (handoffCall (addressEndingIn 1))) = .ok (out, w₁) ∧
      holdsAt sampleEnv ((intentsOf out).foldl (deliver sampleEnv) w₁) [65] 1
        (addressEndingIn 1) ∧
      latestNonce sampleEnv (((intentsOf out).foldl (deliver sampleEnv) w₁).entry 1
        (addressEndingIn 1)) [65] = latestNonce sampleEnv (creatorWorld.entry 1 [1]) [65] ∧
      ¬ holdsAt sampleEnv ((intentsOf out).foldl (deliver sampleEnv) w₁) [65] 1 [1] :=
  have hrun : runCall sampleEnv creatorWorld 1 (handoffCall (addressEndingIn 1))
      (DCDTNFTCreateRoleTransfer.processBuiltinFunction sampleEnv ⟨1⟩
        (handoffCall (addressEndingIn 1))) = .ok _ := rfl
  ⟨_, _, hrun, sameShard_handoff_grants_role sampleEnv rfl hrun (by decide) (by decide)⟩

/-- The address `[2]`, of shard 0, naming `addressEndingIn 1`, of shard 1, as the next owner
of `A`, with latest nonce 7. -/
def strangerCall : ContractCallInput :=
  ⟨[2], addressEndingIn 1, 0, .directCall, [[65], [7]],
    sampleEnv.builtInFunctionDCDTNFTCreateRoleTransfer, 0, false⟩

/-- After `strangerCall`, `creator` and `addressEndingIn 1` both hold the create role for `A`. -/
theorem strangerCall_second_holder :
    ∃ out w', runCall sampleEnv creatorWorld 1 strangerCall
        (DCDTNFTCreateRoleTransfer.processBuiltinFunction sampleEnv ⟨1⟩ strangerCall) =
          .ok (out, w') ∧
      holdsAt sampleEnv w' [65] 1 (addressEndingIn 1) ∧ holdsAt sampleEnv w' [65] 1 [1] := by
  obtain ⟨out, w', hrun, hholds, -, hframe⟩ := runCall_nextOwner_grants sampleEnv
    (w := creatorWorld) (s := 1) (fun _ => rfl)
    (show strangerCall.callerAddr ≠ sampleEnv.dcdtSCAddress by decide) (by decide) (by decide)
    rfl rfl (by decide)
  refine ⟨out, w', hrun, hholds, ?_⟩
  rw [holdsAt, hframe 1 [1] (by decide)]
  exact (creatorWorld_holdsAt_iff 1 [1]).mpr ⟨rfl, rfl⟩

/-- The account `addressEndingIn 1`, of shard 1, holding the create role for `A`. -/
def heir : UserAccount :=
  (emptyAccount (addressEndingIn 1)).saveKeyValue (sampleEnv.roleKeyPrefix ++ [65])
    (sampleEnv.marshaller.marshal ⟨[sampleEnv.dcdtRoleNFTCreate]⟩)

/-- `heir` alone, in shard 1, nothing in flight. -/
def heirWorld : World :=
  ⟨fun s => if s = 1 then emptyShard.saveAccount heir else emptyShard, []⟩

/-- The management address handing `heir`'s role for `A` to `heir` itself. -/
def selfHandoffCall : ContractCallInput :=
  ⟨sampleEnv.dcdtSCAddress, addressEndingIn 1, 0, .directCall, [[65], addressEndingIn 1],
    sampleEnv.builtInFunctionDCDTNFTCreateRoleTransfer, 0, false⟩

/-- `heir` holds the role for `A`, hands it to itself, and then does not hold it. -/
theorem selfHandoff_heir :
    ∃ out w₁, runCall sampleEnv heirWorld 1 selfHandoffCall
        (DCDTNFTCreateRoleTransfer.processBuiltinFunction sampleEnv ⟨1⟩ selfHandoffCall) =
          .ok (out, w₁) ∧
      holdsAt sampleEnv heirWorld [65] 1 (addressEndingIn 1) ∧
      ¬ holdsAt sampleEnv ((intentsOf out).foldl (deliver sampleEnv) w₁) [65] 1
        (addressEndingIn 1) :=
  have hrun : runCall sampleEnv heirWorld 1 selfHandoffCall
      (DCDTNFTCreateRoleTransfer.processBuiltinFunction sampleEnv ⟨1⟩ selfHandoffCall) =
        .ok _ := rfl
  ⟨_, _, hrun, by decide,
    fun h => ((selfHandoff_revokes_role sampleEnv rfl rfl hrun 1 _).mp h).1 ⟨rfl, rfl⟩⟩

/-! ## 6. Nonces wrap -/

/-- The create `creator` makes, with no gas cost configured. -/
def freeCreate : DCDTNFTCreate := newDCDTNFTCreateFunc sampleEnv 0 ⟨0⟩

/-- `creator`'s entry up to its tokens: the stored role list for `A`, and the latest nonce
`n`. -/
def CreatorAt (w : World) (n : UInt64) : Prop :=
  (w.entry 1 [1]).trie.values (roleKey sampleEnv [65]) =
      creator.trie.values (roleKey sampleEnv [65]) ∧
    latestNonce sampleEnv (w.entry 1 [1]) [65] = n

/-- The reads of `creator`'s create pass on any account with `creator`'s role list. -/
theorem prepareCreate_createCall {a : UserAccount}
    (hroles : a.trie.values (roleKey sampleEnv [65]) =
      creator.trie.values (roleKey sampleEnv [65])) :
    ∃ p, prepareCreate sampleEnv freeCreate (createCall [] 0) a = .ok p := by
  have hcheck : checkAllowedToExecute sampleEnv a [65] sampleEnv.dcdtRoleNFTCreate = .ok () := by
    refine (checkAllowedToExecute_eq_ok sampleEnv).mpr
      ⟨rfl, [sampleEnv.dcdtRoleNFTCreate], ?_, List.mem_singleton_self _⟩
    simp only [storedRoles, hroles]
    rfl
  unfold prepareCreate
  simp only [createCall, List.getD_cons_zero, hcheck, getLatestNonce_eq, query, except_ok_bind]
  exact ⟨_, rfl⟩

/-- **One more create.**  From a world where `creator`'s entry has its role list and the
latest nonce `n`, its create of `A` is a step returning `n + 1`, to a world where the entry has
its role list and the latest nonce `n + 1`. -/
theorem createCall_step {w : World} {n : UInt64} (hw : CreatorAt w n) :
    ∃ w', Step sampleEnv [65] w [n + 1] w' ∧ CreatorAt w' (n + 1) := by
  obtain ⟨hroles, hnonce⟩ := hw
  obtain ⟨p, hprep⟩ := prepareCreate_createCall hroles
  obtain ⟨out, h', hexec⟩ := @processBuiltinFunction_ok_of_direct sampleEnv (fun _ => rfl)
    freeCreate (createCall [] 0) (callHeap sampleEnv (w.shards 1) 1 (createCall [] 0)) _ _
    rfl rfl hprep
  have hrun := (runCall_eq_ok sampleEnv).mpr ⟨h', hexec, rfl⟩
  obtain ⟨p', hprep', -, hret, hentry⟩ := runCall_create_eq_ok sampleEnv hrun
  obtain rfl : p = p' := Except.ok.inj (hprep.symm.trans hprep')
  have hp := prepareCreate_eq_ok sampleEnv hprep
  have htok : p.tokenID = [65] := hp.tokenID_eq
  have hnext : p.nextNonce = n + 1 := by rw [hp.nextNonce_eq, htok, ← hnonce]
  have hstep := Step.create (t := [65]) 1 freeCreate (createCall [] 0) hrun
  rw [if_pos (show (createCall [] 0).arguments.getD 0 [] = [65] from rfl),
    returnedNonce_of_returnData hret, hnext] at hstep
  refine ⟨_, hstep, ?_, ?_⟩
  · rw [hentry 1 [1], if_pos ⟨rfl, rfl⟩, afterCreate_values_roleKey]
    exact hroles
  · rw [hentry 1 [1], if_pos ⟨rfl, rfl⟩, latestNonce_afterCreate, if_pos htok.symm, hnext]

/-- `k` creates of `A` by `creator` from `creatorWorld` return `1, ..., k` in `uint64`. -/
theorem creatorRun (k : Nat) : ∃ w, Run sampleEnv [65] creatorWorld
    ((List.range k).map fun i => UInt64.ofNat (i + 1)) w ∧ CreatorAt w (UInt64.ofNat k) := by
  induction k with
  | zero => exact ⟨creatorWorld, Run.refl _, rfl, by decide⟩
  | succ k ih =>
    obtain ⟨w, hrun, hw⟩ := ih
    obtain ⟨w', hstep, hw'⟩ := createCall_step hw
    refine ⟨w', ?_, by rwa [u64_ofNat_succ]⟩
    rw [List.range_succ, List.map_append, List.map_singleton, u64_ofNat_succ]
    exact Run.tail hrun hstep

/-- `creator`'s first create of `A`, from `creatorWorld`, returns 1. -/
theorem createNonces_follow_latestNonce_creator :
    ∃ ns w, Run sampleEnv [65] creatorWorld ns w ∧
      ns = (List.range ns.length).map
        (fun k => latestNonce sampleEnv (creatorWorld.entry 1 [1]) [65] + UInt64.ofNat (k + 1)) ∧
      (ns.length ≤ 2 ^ 64 → ns.Nodup) :=
  have hrun : runCall sampleEnv creatorWorld 1 (createCall [] 0)
      (processBuiltinFunction sampleEnv freeCreate (createCall [] 0)) = .ok _ := rfl
  have hr := Run.tail (Run.refl creatorWorld) (Step.create 1 freeCreate (createCall [] 0) hrun)
  ⟨_, _, hr, createNonces_follow_latestNonce sampleEnv
    (fun s x h => (creatorWorld_holdsAt_iff s x).mp h) rfl hr⟩

/-- **Nonces wrap.**  In `creatorWorld` only `creator` holds the create role for `A`, with
latest nonce 0, and nothing is in flight; yet `2^64 + 1` creates of `A` by `creator` return
`1, 2, ..., 2^64 - 1, 0, 1`, the first and the last the same nonce. -/
theorem createNonces_wrap :
    creatorWorld.inFlight = [] ∧ (∀ s x, holdsAt sampleEnv creatorWorld [65] s x ↔ s = 1 ∧ x = [1]) ∧
      ∃ ns w, Run sampleEnv [65] creatorWorld ns w ∧ ns.length = 2 ^ 64 + 1 ∧ ¬ ns.Nodup := by
  obtain ⟨w, hrun, -⟩ := creatorRun (2 ^ 64 + 1)
  refine ⟨rfl, creatorWorld_holdsAt_iff, _, w, hrun, by simp, fun hnd => ?_⟩
  have h := List.inj_on_of_nodup_map hnd (List.mem_range.mpr (by norm_num : 0 < 2 ^ 64 + 1))
    (List.mem_range.mpr (by norm_num : 2 ^ 64 < 2 ^ 64 + 1)) (by decide)
  norm_num at h

end VmCommon
