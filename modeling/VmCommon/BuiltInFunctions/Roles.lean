/-
# Role lists: reading, adding and deleting the NFT-create role

An account's roles for a token are one marshalled `dcdt.DCDTRoles` value under
`roleKeyPrefix ‖ tokenID`.  `dcdtNFTCreateRoleTransfer.go` edits it with two helpers,
`addCreateRoleToAccount` and `deleteCreateRoleFromAccount`, both load-modify-marshal-save
through `saveRolesToAccount`.  The loading (`getDCDTRolesForAcnt`), the deletion
(`deleteRoles`) and the role handler's check (`CheckAllowedToExecute`) are in files outside
`src/`; they are modelled from the spec's §3, §4.2 and §4.3.

`storedRoles` is the list `getDCDTRolesForAcnt` decodes, as a plain function of the account.
The main result, `createRole_add_delete`, is the algebra of the two helpers over every stored
list that holds the create role at most once, when no collaborator fails: both helpers run
(`addCreateRoleToAccount_ok`, `deleteCreateRoleFromAccount_ok`), `add` appends the role unless
it is there, `delete` filters it out keeping the order, the role never occurs twice
afterwards, both are idempotent, and deleting after adding restores the list without the
role.  Everything is read through the marshaller, so it rests on the marshaller's round-trip
contract.
-/
import VmCommon.BuiltInFunctions.Keys
import VmCommon.Sample

namespace VmCommon

variable (env : Env)

/-! ## 1. The role key and the stored list -/

/-- `append(roleKeyPrefix, tokenID...)`: where an account's roles for a token are stored. -/
def roleKey (tokenID : Bytes) : Bytes := env.roleKeyPrefix ++ tokenID

/-- The role list `getDCDTRolesForAcnt` decodes from an account: the empty list when the value
is unset, `none` when the marshaller rejects it. -/
def storedRoles (m : Marshalizer) (a : UserAccount) (key : Bytes) : Option (List Bytes) :=
  let marshaledData := a.trie.values key
  if marshaledData.length = 0 then some [] else (m.unmarshal marshaledData).map DCDTRoles.roles

/-- Modelled from the spec: `getDCDTRolesForAcnt` (not under `src/`), "loadRoles(account,
roleKey) -> RoleSet (returns an empty set, not an error, if unset)" (§4.2).  The flag says
whether the list is new.  A read of the account. -/
def getDCDTRolesForAcnt (acnt : UserAccount) (key : Bytes) : Except Error (DCDTRoles × Bool) := do
  let marshaledData ← retrieveValue env acnt key
  if marshaledData.length = 0 then
    return (⟨[]⟩, true)
  else
    match env.marshaller.unmarshal marshaledData with
    | some roles => return (roles, false)
    | none => throw (.external (.unmarshal marshaledData) 0)

/-- Modelled from the spec: `deleteRoles` (not under `src/`), "removal is all roles except the
named one, order-preserving" (§3). -/
def deleteRoles (roles : DCDTRoles) (actions : List Bytes) : DCDTRoles :=
  ⟨roles.roles.filter fun role => !actions.contains role⟩

/-- `saveRolesToAccount`. -/
def saveRolesToAccount (r : Acnt) (key : Bytes) (roles : DCDTRoles) : Exec Unit := do
  external env (.marshal roles)
  saveKeyValue env r key (env.marshaller.marshal roles)

/-- `deleteCreateRoleFromAccount`. -/
def deleteCreateRoleFromAccount (r : Acnt) (key : Bytes) : Exec Unit := do
  let (roles, _) ← liftExcept (getDCDTRolesForAcnt env (← account r) key)
  saveRolesToAccount env r key (deleteRoles roles [env.dcdtRoleNFTCreate])

/-- `addCreateRoleToAccount`: the loop over `roles.Roles` is `List.any`. -/
def addCreateRoleToAccount (r : Acnt) (key : Bytes) : Exec Unit := do
  let (roles, _) ← liftExcept (getDCDTRolesForAcnt env (← account r) key)
  if roles.roles.any (· == env.dcdtRoleNFTCreate) then
    return ()
  else
    saveRolesToAccount env r key ⟨roles.roles ++ [env.dcdtRoleNFTCreate]⟩

/-- Modelled from the spec: the role handler's `CheckAllowedToExecute` (§4.3), which "fails
with RoleNotHeld if the account's role set for tokenID does not contain role".  A read of the
account. -/
def checkAllowedToExecute (account : UserAccount) (tokenID action : Bytes) : Except Error Unit := do
  let (roles, _) ← getDCDTRolesForAcnt env account (roleKey env tokenID)
  if roles.roles.any (· == action) then
    return ()
  else
    throw .errActionNotAllowed

/-- The stored list of the object `r` points to. -/
def rolesAt (h : Heap) (r : Acnt) (key : Bytes) : Option (List Bytes) :=
  (h.get r).bind fun a => storedRoles env.marshaller a key

/-- An account holds a role for a token when its stored list for the token contains it. -/
def HoldsRole (a : UserAccount) (tokenID role : Bytes) : Prop :=
  ∃ L, storedRoles env.marshaller a (roleKey env tokenID) = some L ∧ role ∈ L

/-- Holding a role is decided by reading the stored list. -/
instance (a : UserAccount) (tokenID role : Bytes) : Decidable (HoldsRole env a tokenID role) :=
  match h : storedRoles env.marshaller a (roleKey env tokenID) with
  | some L => decidable_of_iff (role ∈ L) (by simp [HoldsRole, h])
  | none => isFalse (by simp [HoldsRole, h])

/-! ## 2. Reading the stored list -/

/-- Once the stored list is known, holding a role is membership in it. -/
theorem holdsRole_iff_of_storedRoles {a : UserAccount} {tokenID role : Bytes} {L : List Bytes}
    (hL : storedRoles env.marshaller a (roleKey env tokenID) = some L) :
    HoldsRole env a tokenID role ↔ role ∈ L := by
  simp [HoldsRole, hL]

/-- A list marshalled and saved under `key` reads back as that list. -/
theorem storedRoles_saveKeyValue_marshal (m : Marshalizer) (a : UserAccount) (key : Bytes)
    (roles : DCDTRoles) :
    storedRoles m (a.saveKeyValue key (m.marshal roles)) key = some roles.roles := by
  simp only [storedRoles, UserAccount.saveKeyValue_values_self]
  split
  · next h => rw [m.marshal_eq_nil roles (List.length_eq_zero.mp h)]
  · rw [m.unmarshal_marshal]; rfl

theorem storedRoles_saveKeyValue_of_ne (m : Marshalizer) (a : UserAccount) {key k : Bytes}
    (value : Bytes) (hne : key ≠ k) :
    storedRoles m (a.saveKeyValue k value) key = storedRoles m a key := by
  simp only [storedRoles, UserAccount.saveKeyValue_values_of_ne _ _ hne]

/-- **`getDCDTRolesForAcnt` reads `storedRoles`.** -/
theorem getDCDTRolesForAcnt_eq_ok {a : UserAccount} {key : Bytes} {roles : DCDTRoles}
    {isNew : Bool} (hrun : getDCDTRolesForAcnt env a key = .ok (roles, isNew)) :
    env.fault (.retrieveValue a.address key) = none ∧
      storedRoles env.marshaller a key = some roles.roles := by
  obtain ⟨data, hr, hdecode⟩ := except_bind_eq_ok.mp hrun
  obtain ⟨hf, rfl⟩ := (retrieveValue_eq_ok env).mp hr
  refine ⟨hf, ?_⟩
  simp only [storedRoles]
  split at hdecode
  · next h0 => cases hdecode; simp [h0]
  · next h0 =>
    rw [if_neg h0]
    cases hu : env.marshaller.unmarshal (a.trie.values key) <;> simp only [hu] at hdecode
    · cases hdecode
    · cases hdecode; rfl

/-- When the trie answers and the stored list decodes, `getDCDTRolesForAcnt` returns it. -/
theorem getDCDTRolesForAcnt_ok {a : UserAccount} {key : Bytes} {L : List Bytes}
    (hf : env.fault (.retrieveValue a.address key) = none)
    (hL : storedRoles env.marshaller a key = some L) :
    ∃ isNew, getDCDTRolesForAcnt env a key = .ok (⟨L⟩, isNew) := by
  simp only [getDCDTRolesForAcnt, retrieveValue, query_of_none env hf, except_ok_bind]
  simp only [storedRoles] at hL
  split
  · next h0 => rw [if_pos h0] at hL; cases hL; exact ⟨true, rfl⟩
  · next h0 =>
    rw [if_neg h0] at hL
    cases hu : env.marshaller.unmarshal (a.trie.values key) with
    | none => simp [hu] at hL
    | some R =>
      simp only [hu, Option.map_some', Option.some.injEq] at hL
      subst hL
      exact ⟨false, rfl⟩

/-- **The role check.**  `checkAllowedToExecute` passes exactly when the trie answers and the
stored list holds the role. -/
theorem checkAllowedToExecute_eq_ok {a : UserAccount} {tokenID action : Bytes} {u : Unit} :
    checkAllowedToExecute env a tokenID action = .ok u ↔
      env.fault (.retrieveValue a.address (roleKey env tokenID)) = none ∧
        HoldsRole env a tokenID action := by
  constructor
  · intro hrun
    obtain ⟨⟨roles, isNew⟩, hg, hcheck⟩ := except_bind_eq_ok.mp hrun
    obtain ⟨hf, hL⟩ := getDCDTRolesForAcnt_eq_ok env hg
    refine ⟨hf, roles.roles, hL, ?_⟩
    dsimp only at hcheck
    split at hcheck
    · next hmem => simpa using hmem
    · cases hcheck
  · rintro ⟨hf, L, hL, hmem⟩
    obtain ⟨isNew, hg⟩ := getDCDTRolesForAcnt_ok env hf hL
    simp only [checkAllowedToExecute, hg, except_ok_bind]
    rw [if_pos (by simpa using hmem)]
    rfl

/-! ## 3. The two edits -/

/-- `saveRolesToAccount` writes the marshalled list under the key and nothing else. -/
theorem saveRolesToAccount_eq_ok {r : Acnt} {key : Bytes} {roles : DCDTRoles} {h h' : Heap}
    {a : UserAccount} (ha : h.get r = some a)
    (hrun : saveRolesToAccount env r key roles h = .ok () h') :
    h' = h.set r (a.saveKeyValue key (env.marshaller.marshal roles)) := by
  obtain ⟨_, h₁, hm, hsave⟩ := bind_eq_ok.mp hrun
  obtain ⟨-, rfl⟩ := (external_eq_ok env).mp hm
  obtain ⟨a', ha', -, rfl⟩ := (saveKeyValue_eq_ok env).mp hsave
  obtain rfl := Option.some.inj (ha.symm.trans ha')
  rfl

/-- Both edits start by reading the object's stored list; what follows runs on the same heap. -/
theorem roles_of_edit {r : Acnt} {key : Bytes} {h h' : Heap} {a : UserAccount} {β : Type}
    {k : DCDTRoles × Bool → Exec β} {b : β} (ha : h.get r = some a)
    (hrun : (do let roles ← liftExcept (getDCDTRolesForAcnt env (← account r) key); k roles) h =
      .ok b h') :
    ∃ roles : DCDTRoles, storedRoles env.marshaller a key = some roles.roles ∧
      ∃ isNew, k (roles, isNew) h = .ok b h' := by
  obtain ⟨a', _, hacc, hrest⟩ := bind_eq_ok.mp hrun
  obtain ⟨ha', rfl⟩ := account_eq_ok.mp hacc
  obtain rfl := Option.some.inj (ha.symm.trans ha')
  obtain ⟨⟨roles, isNew⟩, _, hg, hk⟩ := bind_eq_ok.mp hrest
  obtain ⟨hgr, rfl⟩ := liftExcept_eq_ok.mp hg
  exact ⟨roles, (getDCDTRolesForAcnt_eq_ok env hgr).2, isNew, hk⟩

/-- **What `addCreateRoleToAccount` stores.**  On success the object's list is the old one when
it held the role, and the old one followed by the role otherwise; no other key changes. -/
theorem addCreateRoleToAccount_eq_ok {r : Acnt} {key : Bytes} {h h' : Heap} {a : UserAccount}
    (ha : h.get r = some a) (hrun : addCreateRoleToAccount env r key h = .ok () h') :
    ∃ L a', storedRoles env.marshaller a key = some L ∧ h' = h.set r a' ∧
      storedRoles env.marshaller a' key =
        some (if env.dcdtRoleNFTCreate ∈ L then L else L ++ [env.dcdtRoleNFTCreate]) ∧
      (∀ k, k ≠ key → a'.trie.values k = a.trie.values k) ∧ a'.address = a.address := by
  obtain ⟨roles, hL, _, hedit⟩ := roles_of_edit env ha hrun
  refine ⟨roles.roles, ?_⟩
  dsimp only at hedit
  split at hedit
  · next hmem =>
    cases hedit
    have hc : env.dcdtRoleNFTCreate ∈ roles.roles := by simpa using hmem
    exact ⟨a, hL, (Heap.set_get ha).symm, by rw [if_pos hc, hL], fun _ _ => rfl, rfl⟩
  · next hmem =>
    have hc : env.dcdtRoleNFTCreate ∉ roles.roles := by simpa using hmem
    rw [saveRolesToAccount_eq_ok env ha hedit]
    exact ⟨_, hL, rfl, by rw [if_neg hc, storedRoles_saveKeyValue_marshal],
      fun k hk => UserAccount.saveKeyValue_values_of_ne _ _ hk, rfl⟩

/-- With no collaborator failing, adding the role succeeds on an object whose stored list
decodes. -/
theorem addCreateRoleToAccount_ok (hnf : ∀ c, env.fault c = none) {r : Acnt} {key : Bytes}
    {h : Heap} {a : UserAccount} {L : List Bytes} (ha : h.get r = some a)
    (hL : storedRoles env.marshaller a key = some L) :
    ∃ h', addCreateRoleToAccount env r key h = .ok () h' := by
  obtain ⟨isNew, hg⟩ := getDCDTRolesForAcnt_ok env (hnf _) hL
  simp only [addCreateRoleToAccount, run_bind, account_run, ha, run_liftExcept, hg]
  split
  · exact ⟨_, rfl⟩
  · simp [saveRolesToAccount, saveKeyValue, writeAccount, account_run, external_run, hnf, ha]

/-- **What `deleteCreateRoleFromAccount` stores.**  On success the object's list is the old one
with the role filtered out, the other roles in their order; no other key changes. -/
theorem deleteCreateRoleFromAccount_eq_ok {r : Acnt} {key : Bytes} {h h' : Heap}
    {a : UserAccount} (ha : h.get r = some a)
    (hrun : deleteCreateRoleFromAccount env r key h = .ok () h') :
    ∃ L a', storedRoles env.marshaller a key = some L ∧ h' = h.set r a' ∧
      storedRoles env.marshaller a' key = some (L.filter (· ≠ env.dcdtRoleNFTCreate)) ∧
      (∀ k, k ≠ key → a'.trie.values k = a.trie.values k) ∧ a'.address = a.address := by
  obtain ⟨roles, hL, _, hedit⟩ := roles_of_edit env ha hrun
  rw [saveRolesToAccount_eq_ok env ha hedit]
  refine ⟨roles.roles, _, hL, rfl, ?_,
    fun k hk => UserAccount.saveKeyValue_values_of_ne _ _ hk, rfl⟩
  rw [storedRoles_saveKeyValue_marshal]
  simp [deleteRoles]

/-- With no collaborator failing, deleting the role succeeds on an object whose stored list
decodes. -/
theorem deleteCreateRoleFromAccount_ok (hnf : ∀ c, env.fault c = none) {r : Acnt}
    {key : Bytes} {h : Heap} {a : UserAccount} {L : List Bytes} (ha : h.get r = some a)
    (hL : storedRoles env.marshaller a key = some L) :
    ∃ h', deleteCreateRoleFromAccount env r key h = .ok () h' := by
  obtain ⟨isNew, hg⟩ := getDCDTRolesForAcnt_ok env (hnf _) hL
  simp [deleteCreateRoleFromAccount, account_run, ha, hg, saveRolesToAccount, saveKeyValue,
    writeAccount, external_run, hnf]

/-- `addCreateRoleToAccount` writes the object's stored list, if anything. -/
theorem addCreateRoleToAccount_writesOnly {r : Acnt} {key : Bytes} {h h' : Heap}
    {a : UserAccount} (ha : h.get r = some a)
    (hrun : addCreateRoleToAccount env r key h = .ok () h') :
    ∃ a', h' = h.set r a' ∧ a.WritesOnly [key] a' := by
  obtain ⟨roles, -, _, hedit⟩ := roles_of_edit env ha hrun
  dsimp only at hedit
  split at hedit
  · cases hedit
    exact ⟨a, (Heap.set_get ha).symm, .refl _ _⟩
  · exact ⟨_, saveRolesToAccount_eq_ok env ha hedit,
      .saveKeyValue (List.mem_singleton_self _) _ _⟩

/-- `deleteCreateRoleFromAccount` writes the object's stored list and nothing else. -/
theorem deleteCreateRoleFromAccount_writesOnly {r : Acnt} {key : Bytes} {h h' : Heap}
    {a : UserAccount} (ha : h.get r = some a)
    (hrun : deleteCreateRoleFromAccount env r key h = .ok () h') :
    ∃ a', h' = h.set r a' ∧ a.WritesOnly [key] a' := by
  obtain ⟨roles, -, _, hedit⟩ := roles_of_edit env ha hrun
  exact ⟨_, saveRolesToAccount_eq_ok env ha hedit, .saveKeyValue (List.mem_singleton_self _) _ _⟩

/-- Holding a role reads the account's role list for the token and nothing else. -/
theorem holdsRole_of_values_eq {a a' : UserAccount} {tokenID role : Bytes}
    (h : a'.trie.values (roleKey env tokenID) = a.trie.values (roleKey env tokenID)) :
    HoldsRole env a' tokenID role ↔ HoldsRole env a tokenID role := by
  simp only [HoldsRole, storedRoles, h]

/-! ## 4. The algebra of the two edits -/

section Algebra

variable {env} {r : Acnt} {key : Bytes} {h : Heap} {L : List Bytes}

/-- With no collaborator failing, `add` runs on an object whose stored list is `L`, and leaves
`L`, or `L` followed by the role. -/
theorem rolesAt_add_ok (hnf : ∀ c, env.fault c = none) (hL : rolesAt env h r key = some L) :
    ∃ h₁, addCreateRoleToAccount env r key h = .ok () h₁ ∧
      rolesAt env h₁ r key =
        some (if env.dcdtRoleNFTCreate ∈ L then L else L ++ [env.dcdtRoleNFTCreate]) := by
  obtain ⟨a, ha, haL⟩ := Option.bind_eq_some.mp hL
  obtain ⟨h₁, hrun⟩ := addCreateRoleToAccount_ok env hnf ha haL
  obtain ⟨L', a', haL', rfl, hstored, -⟩ := addCreateRoleToAccount_eq_ok env ha hrun
  obtain rfl := Option.some.inj (haL.symm.trans haL')
  exact ⟨_, hrun, by simp [rolesAt, hstored]⟩

/-- With no collaborator failing, `delete` runs on an object whose stored list is `L`, and
leaves `L` without the role. -/
theorem rolesAt_delete_ok (hnf : ∀ c, env.fault c = none) (hL : rolesAt env h r key = some L) :
    ∃ h₁, deleteCreateRoleFromAccount env r key h = .ok () h₁ ∧
      rolesAt env h₁ r key = some (L.filter (· ≠ env.dcdtRoleNFTCreate)) := by
  obtain ⟨a, ha, haL⟩ := Option.bind_eq_some.mp hL
  obtain ⟨h₁, hrun⟩ := deleteCreateRoleFromAccount_ok env hnf ha haL
  obtain ⟨L', a', haL', rfl, hstored, -⟩ := deleteCreateRoleFromAccount_eq_ok env ha hrun
  obtain rfl := Option.some.inj (haL.symm.trans haL')
  exact ⟨_, hrun, by simp [rolesAt, hstored]⟩

end Algebra

/-- What the two edits do to an object whose stored list is `L`: `add` runs and leaves `L`, or
`L` followed by the role, holding the role once; from there `add` runs again and changes
nothing, and `delete` runs and leaves `L` without the role.  `delete` runs and leaves `L`
without the role, holding it nowhere; from there `delete` runs again and changes nothing. -/
def CreateRoleEdits (h : Heap) (r : Acnt) (key : Bytes) (L : List Bytes) : Prop :=
  let c := env.dcdtRoleNFTCreate
  let added := if c ∈ L then L else L ++ [c]
  (∃ h₁, addCreateRoleToAccount env r key h = .ok () h₁ ∧
    rolesAt env h₁ r key = some added ∧ added.count c ≤ 1 ∧
    (∃ h₂, addCreateRoleToAccount env r key h₁ = .ok () h₂ ∧
      rolesAt env h₂ r key = rolesAt env h₁ r key) ∧
    (∃ h₂, deleteCreateRoleFromAccount env r key h₁ = .ok () h₂ ∧
      rolesAt env h₂ r key = some (L.filter (· ≠ c)))) ∧
  (∃ h₁, deleteCreateRoleFromAccount env r key h = .ok () h₁ ∧
    rolesAt env h₁ r key = some (L.filter (· ≠ c)) ∧ (L.filter (· ≠ c)).count c = 0 ∧
    (∃ h₂, deleteCreateRoleFromAccount env r key h₁ = .ok () h₂ ∧
      rolesAt env h₂ r key = rolesAt env h₁ r key))

/-- **The create-role edits.**  With no collaborator failing, on an object whose stored list
holds the create role at most once, `addCreateRoleToAccount` and `deleteCreateRoleFromAccount`
run and store what `CreateRoleEdits` says. -/
theorem createRole_add_delete (hnf : ∀ c, env.fault c = none) {r : Acnt} {key : Bytes}
    {h : Heap} {L : List Bytes} (hL : rolesAt env h r key = some L)
    (hL1 : L.count env.dcdtRoleNFTCreate ≤ 1) :
    CreateRoleEdits env h r key L := by
  set c := env.dcdtRoleNFTCreate
  have hmem : c ∈ (if c ∈ L then L else L ++ [c]) := by split <;> simp [*]
  have hfilter : (if c ∈ L then L else L ++ [c]).filter (· ≠ c) = L.filter (· ≠ c) := by
    split <;> simp [List.filter_append]
  -- add, then add again or delete
  obtain ⟨h₁, hadd, h₁L⟩ := rolesAt_add_ok hnf hL
  obtain ⟨h₂, hadd₂, h₂L⟩ := rolesAt_add_ok hnf h₁L
  obtain ⟨h₃, hdel₃, h₃L⟩ := rolesAt_delete_ok hnf h₁L
  -- delete, then delete again
  obtain ⟨h₄, hdel, h₄L⟩ := rolesAt_delete_ok hnf hL
  obtain ⟨h₅, hdel₅, h₅L⟩ := rolesAt_delete_ok hnf h₄L
  refine ⟨⟨h₁, hadd, h₁L, ?_, ⟨h₂, hadd₂, ?_⟩, h₃, hdel₃, ?_⟩,
    h₄, hdel, h₄L, List.count_eq_zero_of_not_mem (by simp), h₅, hdel₅, ?_⟩
  · split
    · exact hL1
    · next hc => simp [List.count_append, List.count_eq_zero_of_not_mem hc]
  · rw [h₂L, if_pos hmem, h₁L]
  · rw [h₃L, hfilter]
  · rw [h₅L, h₄L, List.filter_filter]
    simp

/-- The account `[2]`, holding for the token `A` the add-quantity role and not the create
role. -/
def minter : UserAccount :=
  (emptyAccount [2]).saveKeyValue (roleKey sampleEnv [65])
    (sampleEnv.marshaller.marshal ⟨[sampleEnv.dcdtRoleNFTAddQuantity]⟩)

/-- `minter` calling itself, in an empty shard. -/
def minterHeap : Heap := ⟨some minter, some minter, none, emptyShard⟩

/-- The edits on `minter`: `add` appends the create role, and `delete` after it gives back the
add-quantity role alone. -/
theorem createRole_add_delete_minter :
    rolesAt sampleEnv minterHeap .snd (roleKey sampleEnv [65]) =
      some [sampleEnv.dcdtRoleNFTAddQuantity] ∧
    [sampleEnv.dcdtRoleNFTAddQuantity].count sampleEnv.dcdtRoleNFTCreate ≤ 1 ∧
    CreateRoleEdits sampleEnv minterHeap .snd (roleKey sampleEnv [65])
      [sampleEnv.dcdtRoleNFTAddQuantity] :=
  ⟨by decide, by decide, createRole_add_delete sampleEnv (fun _ => rfl) (by decide) (by decide)⟩

end VmCommon
