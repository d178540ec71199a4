/-
# Accounts, the executor's heap, and the collaborators it calls

A Go executor works on account OBJECTS: `acntSnd` and `acntDst` are pointers the VM passes in,
and an executor may load a third one from the accounts adapter (`e.getAccount`,
`e.accounts.LoadAccount`).  It mutates them in place (`SaveKeyValue` on their data tries),
writes some back itself (`SaveAccount`), and leaves the rest to the VM, which saves
`acntSnd` and `acntDst` after a successful call and reverts everything after a failed one.
An error can be returned AFTER a mutation, and the mutated objects stay mutated.

So an executor is modelled as an `EStateM Error Heap` program (`Exec`): a `Heap` holds the
three objects (`Acnt` names the pointer) and the shard's own state, and an error keeps the
heap reached so far.  `Heap.outside` is the part that outlives the call: the two objects the
VM passed in and the shard.

Every collaborator call goes through `external`, which consults `Env.fault`: a collaborator
may fail on any call, with any error code, and the model returns that error unchanged, tagged
with the call.  The executors' theorems hold for every fault pattern.
-/
import VmCommon.Types

namespace VmCommon

/-! ## 1. Account storage -/

/-- An account's data trie: the values `RetrieveValue` reads (empty when unset), and the token
records the NFT storage handler keeps in it, by full token key. -/
structure DataTrie where
  values : Bytes → Bytes
  nfts : Bytes → Option DCDigitalToken

/-- A `vmcommon.UserAccountHandler`: an address and its data trie. -/
structure UserAccount where
  address : Bytes
  trie : DataTrie

/-- `SaveKeyValue` on the account's data trie. -/
def UserAccount.saveKeyValue (a : UserAccount) (key value : Bytes) : UserAccount :=
  { a with trie := { a.trie with values := Function.update a.trie.values key value } }

@[simp] theorem UserAccount.saveKeyValue_address (a : UserAccount) (key value : Bytes) :
    (a.saveKeyValue key value).address = a.address := rfl

@[simp] theorem UserAccount.saveKeyValue_nfts (a : UserAccount) (key value : Bytes) :
    (a.saveKeyValue key value).trie.nfts = a.trie.nfts := rfl

theorem UserAccount.saveKeyValue_values (a : UserAccount) (key value k : Bytes) :
    (a.saveKeyValue key value).trie.values k = if k = key then value else a.trie.values k := by
  simp [saveKeyValue, Function.update_apply]

@[simp] theorem UserAccount.saveKeyValue_values_self (a : UserAccount) (key value : Bytes) :
    (a.saveKeyValue key value).trie.values key = value := by
  simp [saveKeyValue_values]

theorem UserAccount.saveKeyValue_values_of_ne (a : UserAccount) {key k : Bytes} (value : Bytes)
    (hne : k ≠ key) : (a.saveKeyValue key value).trie.values k = a.trie.values k := by
  simp [saveKeyValue_values, hne]

/-- The token record the NFT storage handler keeps under `key` in the account's trie. -/
def UserAccount.saveNFT (a : UserAccount) (key : Bytes) (token : DCDigitalToken) : UserAccount :=
  { a with trie := { a.trie with nfts := Function.update a.trie.nfts key (some token) } }

@[simp] theorem UserAccount.saveNFT_address (a : UserAccount) (key : Bytes) (t : DCDigitalToken) :
    (a.saveNFT key t).address = a.address := rfl

@[simp] theorem UserAccount.saveNFT_values (a : UserAccount) (key : Bytes) (t : DCDigitalToken) :
    (a.saveNFT key t).trie.values = a.trie.values := rfl

@[simp] theorem UserAccount.saveNFT_nfts_self (a : UserAccount) (key : Bytes) (t : DCDigitalToken) :
    (a.saveNFT key t).trie.nfts key = some t := by
  simp [saveNFT]

theorem UserAccount.saveNFT_nfts (a : UserAccount) (key : Bytes) (t : DCDigitalToken) (k : Bytes) :
    (a.saveNFT key t).trie.nfts k = if k = key then some t else a.trie.nfts k := by
  simp [saveNFT, Function.update_apply]

/-- `a'` is `a` with values written under `keys` at most: the same address and token records,
and every other value as it was. -/
structure UserAccount.WritesOnly (keys : List Bytes) (a a' : UserAccount) : Prop where
  address_eq : a'.address = a.address
  nfts_eq : a'.trie.nfts = a.trie.nfts
  values_eq : ∀ k ∉ keys, a'.trie.values k = a.trie.values k

namespace UserAccount.WritesOnly

variable {keys keys' : List Bytes} {a a' a'' : UserAccount}

theorem refl (keys : List Bytes) (a : UserAccount) : a.WritesOnly keys a :=
  ⟨rfl, rfl, fun _ _ => rfl⟩

theorem trans (h₁ : a.WritesOnly keys a') (h₂ : a'.WritesOnly keys a'') : a.WritesOnly keys a'' :=
  ⟨h₂.address_eq.trans h₁.address_eq, h₂.nfts_eq.trans h₁.nfts_eq,
    fun k hk => (h₂.values_eq k hk).trans (h₁.values_eq k hk)⟩

theorem mono (h : a.WritesOnly keys a') (hsub : keys ⊆ keys') : a.WritesOnly keys' a' :=
  ⟨h.address_eq, h.nfts_eq, fun k hk => h.values_eq k fun hk' => hk (hsub hk')⟩

theorem saveKeyValue {key : Bytes} (hkey : key ∈ keys) (a : UserAccount) (value : Bytes) :
    a.WritesOnly keys (a.saveKeyValue key value) :=
  ⟨rfl, rfl, fun _ hk => a.saveKeyValue_values_of_ne value fun h => hk (h ▸ hkey)⟩

end UserAccount.WritesOnly

/-- One shard's state: its accounts database, and the liquidity the system account tracks for
each token key. -/
structure ShardState where
  accounts : Bytes → DataTrie
  liquidity : Bytes → Nat

/-- `LoadAccount` on the shard's accounts database: an address never seen is a fresh account. -/
def ShardState.loadAccount (s : ShardState) (address : Bytes) : UserAccount :=
  ⟨address, s.accounts address⟩

/-- `SaveAccount`: the whole object replaces the stored account. -/
def ShardState.saveAccount (s : ShardState) (a : UserAccount) : ShardState :=
  { s with accounts := Function.update s.accounts a.address a.trie }

/-- The system account's liquidity for `key` grows by `value`. -/
def ShardState.addLiquidity (s : ShardState) (key : Bytes) (value : Nat) : ShardState :=
  { s with liquidity := Function.update s.liquidity key (s.liquidity key + value) }

@[simp] theorem ShardState.addLiquidity_accounts (s : ShardState) (key : Bytes) (value : Nat) :
    (s.addLiquidity key value).accounts = s.accounts := rfl

@[simp] theorem ShardState.loadAccount_address (s : ShardState) (address : Bytes) :
    (s.loadAccount address).address = address := rfl

@[simp] theorem ShardState.saveAccount_liquidity (s : ShardState) (a : UserAccount) :
    (s.saveAccount a).liquidity = s.liquidity := rfl

theorem ShardState.saveAccount_accounts (s : ShardState) (a : UserAccount) (address : Bytes) :
    (s.saveAccount a).accounts address =
      if address = a.address then a.trie else s.accounts address := by
  simp [saveAccount, Function.update_apply]

/-- Loading after a save: the saved account under its address, the old entry elsewhere. -/
theorem ShardState.loadAccount_saveAccount_apply (s : ShardState) (a : UserAccount)
    (address : Bytes) : (s.saveAccount a).loadAccount address =
      if address = a.address then a else s.loadAccount address := by
  simp only [loadAccount, saveAccount_accounts]
  split
  · next h => subst h; rfl
  · rfl

@[simp] theorem ShardState.loadAccount_addLiquidity (s : ShardState) (key : Bytes) (value : Nat)
    (address : Bytes) : (s.addLiquidity key value).loadAccount address = s.loadAccount address :=
  rfl

/-- An account saved and loaded back is the account itself. -/
@[simp] theorem ShardState.loadAccount_saveAccount (s : ShardState) (a : UserAccount) :
    (s.saveAccount a).loadAccount a.address = a := by
  simp [loadAccount, saveAccount_accounts]

/-! ## 2. The heap of one call -/

/-- The account pointers of a call: `acntSnd`, `acntDst`, and the one the executor loads. -/
inductive Acnt where
  | snd
  | dst
  | loaded
  deriving DecidableEq, Repr

/-- The objects one call works on, and the shard it runs in. -/
structure Heap where
  snd : Option UserAccount
  dst : Option UserAccount
  loaded : Option UserAccount
  shard : ShardState

/-- Dereference a pointer (`none` is Go's `nil`). -/
def Heap.get (h : Heap) : Acnt → Option UserAccount
  | .snd => h.snd
  | .dst => h.dst
  | .loaded => h.loaded

/-- Store an object under a pointer. -/
def Heap.set (h : Heap) : Acnt → UserAccount → Heap
  | .snd, a => { h with snd := some a }
  | .dst, a => { h with dst := some a }
  | .loaded, a => { h with loaded := some a }

/-- What outlives the call: the objects the VM passed in, and the shard. -/
def Heap.outside (h : Heap) : Option UserAccount × Option UserAccount × ShardState :=
  (h.snd, h.dst, h.shard)

@[simp] theorem Heap.get_set_self (h : Heap) (r : Acnt) (a : UserAccount) :
    (h.set r a).get r = some a := by cases r <;> rfl

theorem Heap.get_set_of_ne (h : Heap) {r r' : Acnt} (a : UserAccount) (hne : r' ≠ r) :
    (h.set r a).get r' = h.get r' := by
  cases r <;> cases r' <;> first | rfl | exact absurd rfl hne

/-- Storing back the object a pointer holds changes nothing. -/
theorem Heap.set_get {h : Heap} {r : Acnt} {a : UserAccount} (ha : h.get r = some a) :
    h.set r a = h := by
  cases h; cases r <;> simp_all [Heap.get, Heap.set]

@[simp] theorem Heap.set_shard (h : Heap) (r : Acnt) (a : UserAccount) :
    (h.set r a).shard = h.shard := by cases r <;> rfl

@[simp] theorem Heap.snd_set_snd (h : Heap) (a : UserAccount) : (h.set .snd a).snd = some a := rfl

@[simp] theorem Heap.set_set (h : Heap) (r : Acnt) (a b : UserAccount) :
    (h.set r a).set r b = h.set r b := by cases r <;> rfl

@[simp] theorem Heap.get_withShard (h : Heap) (s : ShardState) (r : Acnt) :
    ({ h with shard := s } : Heap).get r = h.get r := by cases r <;> rfl

@[simp] theorem Heap.set_withShard (h : Heap) (s : ShardState) (r : Acnt) (a : UserAccount) :
    ({ h with shard := s } : Heap).set r a = { h.set r a with shard := s } := by cases r <;> rfl

@[simp] theorem Heap.outside_set_loaded (h : Heap) (a : UserAccount) :
    (h.set .loaded a).outside = h.outside := rfl

/-! ## 3. The collaborators -/

/-- A `vmcommon.Marshalizer`, as used on role lists and token records.  Its contract, that
`Unmarshal` inverts `Marshal` and that only the empty list marshals to nothing (so that an
empty stored value, read as "unset", agrees with it), is carried as two fields. -/
structure Marshalizer where
  marshal : DCDTRoles → Bytes
  unmarshal : Bytes → Option DCDTRoles
  marshalToken : DCDigitalToken → Bytes
  unmarshal_marshal : ∀ r, unmarshal (marshal r) = some r
  marshal_eq_nil : ∀ r, marshal r = [] → r.roles = []

/-- Everything outside the executors: the protocol constants, the handlers they are built
with, the shard coordinator's `ComputeId`, and which collaborator calls fail. -/
structure Env extends Constants where
  isFlagEnabled : Flag → Bool
  marshaller : Marshalizer
  globalSettings : Bytes → UInt32
  isPayable : Bytes → Bytes → Bool
  isSmartContractAddress : Bytes → Bool
  computeId : Bytes → Nat
  fault : ExternalCall → Option Nat

/-! ## 4. Executor programs -/

/-- An executor's run: it may fail, and a failure keeps the heap reached so far. -/
abbrev Exec := EStateM Error Heap

/-- The heap a run ends with, whether it failed or not. -/
def after {α : Type} : EStateM.Result Error Heap α → Heap
  | .ok _ h => h
  | .error _ h => h

section Run

variable {α β : Type}

@[simp] theorem run_pure (a : α) (h : Heap) : (pure a : Exec α) h = .ok a h := rfl

@[simp] theorem run_bind (x : Exec α) (f : α → Exec β) (h : Heap) :
    (x >>= f) h = match x h with
      | .ok a h' => f a h'
      | .error e h' => .error e h' := by
  show EStateM.bind x f h = _
  simp only [EStateM.bind]
  cases x h <;> rfl

@[simp] theorem run_throw (e : Error) (h : Heap) : (throw e : Exec α) h = .error e h := rfl

@[simp] theorem run_get (h : Heap) : (get : Exec Heap) h = .ok h h := rfl

@[simp] theorem run_get_bind (f : Heap → Exec β) (h : Heap) : (get >>= f) h = f h h := rfl

@[simp] theorem run_modify (f : Heap → Heap) (h : Heap) :
    (modify f : Exec Unit) h = .ok () (f h) := rfl

@[simp] theorem run_liftExcept (x : Except Error α) (h : Heap) :
    (liftExcept x : Exec α) h = match x with
      | .ok a => .ok a h
      | .error e => .error e h := by
  cases x <;> rfl

end Run

variable (env : Env)

/-- Dereference an account pointer.  The executors compare a pointer with `nil` before they
use it, so the error here stands for the nil-pointer panic Go would raise and is never
reached. -/
def account (r : Acnt) : Exec UserAccount := do
  match (← get).get r with
  | some a => pure a
  | none => throw .errNilUserAccount

/-- A collaborator call: it fails exactly when `Env.fault` says so. -/
def external (c : ExternalCall) : Exec Unit :=
  match env.fault c with
  | some code => throw (.external c code)
  | none => pure ()

/-- `if cond { return nil, err }`. -/
def failIf {m : Type → Type} [Monad m] [MonadExceptOf Error m] (cond : Bool) (err : Error) :
    m Unit :=
  if cond then throw err else pure ()

/-- A read from a collaborator: it answers `v`, unless `Env.fault` says it fails.  A read
changes nothing, so it is a plain function. -/
def query {α : Type} (c : ExternalCall) (v : α) : Except Error α :=
  match env.fault c with
  | some code => .error (.external c code)
  | none => .ok v

/-- `acnt.AccountDataHandler().RetrieveValue(key)`: a read of the object. -/
def retrieveValue (a : UserAccount) (key : Bytes) : Except Error Bytes :=
  query env (.retrieveValue a.address key) (a.trie.values key)

/-- A write through an account pointer: dereference it, call the collaborator, and apply the
change.  `SaveKeyValue`, `SaveAccount` and the storage handler's `SaveDCDTNFTToken` are all of
this shape. -/
def writeAccount (r : Acnt) (call : UserAccount → ExternalCall)
    (change : UserAccount → Heap → Heap) : Exec Unit := do
  let a ← account r
  external env (call a)
  modify (change a)

/-- `acnt.AccountDataHandler().SaveKeyValue(key, value)`. -/
def saveKeyValue (r : Acnt) (key value : Bytes) : Exec Unit :=
  writeAccount env r (fun a => .saveKeyValue a.address key value)
    (fun a h => h.set r (a.saveKeyValue key value))

/-- `accounts.LoadAccount(address)`, a fresh object read from the shard. -/
def loadAccount (address : Bytes) : Exec UserAccount := do
  external env (.loadAccount address)
  return (← get).shard.loadAccount address

/-- `accounts.SaveAccount(acnt)`. -/
def saveAccount (r : Acnt) : Exec Unit :=
  writeAccount env r (fun a => .saveAccount a.address)
    (fun a h => { h with shard := h.shard.saveAccount a })

/-! ## 5. Running the primitives -/

theorem account_run (r : Acnt) (h : Heap) :
    account r h = match h.get r with
      | some a => .ok a h
      | none => .error .errNilUserAccount h := by
  simp only [account, run_bind, run_get]
  cases h.get r <;> rfl

theorem account_run_of_get {r : Acnt} {h : Heap} {a : UserAccount} (ha : h.get r = some a) :
    account r h = .ok a h := by
  rw [account_run, ha]

theorem external_run (c : ExternalCall) (h : Heap) :
    external env c h = match env.fault c with
      | some code => .error (.external c code) h
      | none => .ok () h := by
  unfold external
  cases env.fault c <;> rfl

theorem external_run_of_none {c : ExternalCall} (hc : env.fault c = none) (h : Heap) :
    external env c h = .ok () h := by
  rw [external_run, hc]

theorem query_eq_ok {α : Type} {c : ExternalCall} {v w : α} :
    query env c v = .ok w ↔ env.fault c = none ∧ w = v := by
  unfold query
  cases env.fault c <;> simp [eq_comm]

theorem query_of_none {α : Type} {c : ExternalCall} (hc : env.fault c = none) (v : α) :
    query env c v = .ok v := by
  rw [query, hc]

theorem retrieveValue_eq_ok {a : UserAccount} {key v : Bytes} :
    retrieveValue env a key = .ok v ↔
      env.fault (.retrieveValue a.address key) = none ∧ v = a.trie.values key :=
  query_eq_ok env

@[simp] theorem except_pure {α : Type} (a : α) : (pure a : Except Error α) = .ok a := rfl

@[simp] theorem except_ok_bind {α β : Type} (a : α) (f : α → Except Error β) :
    (Except.ok a >>= f) = f a := rfl

@[simp] theorem except_error_bind {α β : Type} (e : Error) (f : α → Except Error β) :
    (Except.error e >>= f) = .error e := rfl

@[simp] theorem failIf_eq_ok {c : Bool} {err : Error} {u : Unit} :
    (failIf c err : Except Error Unit) = .ok u ↔ c = false := by
  cases c <;> simp [failIf, throw, throwThe, MonadExceptOf.throw]

/-- A conditional read (`if cond { err = read }`) succeeds when the condition fails or the
read succeeds. -/
theorem ite_ok_eq_ok {c : Prop} [Decidable c] {x : Except Error Unit} {u : Unit} :
    (if c then x else .ok ()) = .ok u ↔ (c → x = .ok ()) := by
  split <;> simp [*]

/-- A `do` block of reads succeeds when each read does, in order. -/
theorem except_bind_eq_ok {α β : Type} {x : Except Error α} {f : α → Except Error β} {b : β} :
    (x >>= f) = .ok b ↔ ∃ a, x = .ok a ∧ f a = .ok b := by
  cases x <;> simp [bind, Except.bind]

/-! ## 6. Inverting successful runs

A successful run of a `do` block is a successful run of each step, in order; these lemmas peel
one step at a time, so that no proof has to unfold a whole executor. -/

section Invert

variable {α β : Type} {x : Exec α} {f : α → Exec β} {h h' : Heap}

theorem bind_eq_ok {b : β} :
    (x >>= f) h = .ok b h' ↔ ∃ a h₁, x h = .ok a h₁ ∧ f a h₁ = .ok b h' := by
  rw [run_bind]
  cases x h <;> simp [and_assoc]

theorem bind_eq_error {e : Error} :
    (x >>= f) h = .error e h' ↔
      x h = .error e h' ∨ ∃ a h₁, x h = .ok a h₁ ∧ f a h₁ = .error e h' := by
  rw [run_bind]
  cases x h <;> simp [and_assoc]

theorem liftExcept_eq_ok {y : Except Error α} {a : α} :
    (liftExcept y : Exec α) h = .ok a h' ↔ y = .ok a ∧ h' = h := by
  rw [run_liftExcept]
  cases y <;> simp [eq_comm]

theorem liftExcept_eq_error {y : Except Error α} {e : Error} :
    (liftExcept y : Exec α) h = .error e h' ↔ y = .error e ∧ h' = h := by
  rw [run_liftExcept]
  cases y <;> simp [eq_comm]

@[simp] theorem run_failIf (c : Bool) (err : Error) :
    (failIf c err : Exec Unit) h = if c then .error err h else .ok () h := by
  cases c <;> rfl

theorem failIf_run_eq_ok {c : Bool} {err : Error} {u : Unit} :
    (failIf c err : Exec Unit) h = .ok u h' ↔ c = false ∧ h' = h := by
  cases c <;> simp [eq_comm]

theorem ite_eq_ok {c : Prop} [Decidable c] {x : Exec Unit} {u : Unit} :
    (if c then x else pure ()) h = .ok u h' ↔ if c then x h = .ok u h' else h' = h := by
  split <;> simp [eq_comm]

theorem ite_eq_error {c : Prop} [Decidable c] {x : Exec Unit} {e : Error} :
    (if c then x else pure ()) h = .error e h' ↔ c ∧ x h = .error e h' := by
  split <;> simp [*]

theorem account_eq_ok {r : Acnt} {a : UserAccount} :
    account r h = .ok a h' ↔ h.get r = some a ∧ h' = h := by
  rw [account_run]
  cases h.get r <;> simp [eq_comm]

theorem account_eq_error {r : Acnt} {e : Error} :
    account r h = .error e h' ↔ h.get r = none ∧ e = .errNilUserAccount ∧ h' = h := by
  rw [account_run]
  cases h.get r <;> simp [eq_comm]

theorem external_eq_error {c : ExternalCall} {e : Error} :
    external env c h = .error e h' ↔ ∃ code, env.fault c = some code ∧ e = .external c code ∧ h' = h := by
  rw [external_run]
  cases env.fault c <;> simp [eq_comm]

theorem external_eq_ok {c : ExternalCall} {u : Unit} :
    external env c h = .ok u h' ↔ env.fault c = none ∧ h' = h := by
  rw [external_run]
  cases env.fault c <;> simp [eq_comm]

theorem writeAccount_eq_ok {r : Acnt} {call : UserAccount → ExternalCall}
    {change : UserAccount → Heap → Heap} {u : Unit} :
    writeAccount env r call change h = .ok u h' ↔
      ∃ a, h.get r = some a ∧ env.fault (call a) = none ∧ h' = change a h := by
  simp only [writeAccount, bind_eq_ok, account_eq_ok, external_eq_ok, run_modify,
    EStateM.Result.ok.injEq]
  constructor
  · rintro ⟨a, _, ⟨ha, rfl⟩, _, _, ⟨hf, rfl⟩, -, rfl⟩
    exact ⟨a, ha, hf, rfl⟩
  · rintro ⟨a, ha, hf, rfl⟩
    exact ⟨a, _, ⟨ha, rfl⟩, (), _, ⟨hf, rfl⟩, trivial, rfl⟩

/-- **A failed write changes nothing**: it failed on the pointer or in the collaborator, before
the change. -/
theorem writeAccount_eq_error {r : Acnt} {call : UserAccount → ExternalCall}
    {change : UserAccount → Heap → Heap} {e : Error} :
    writeAccount env r call change h = .error e h' ↔ h' = h ∧
      (h.get r = none ∧ e = .errNilUserAccount ∨
        ∃ a code, h.get r = some a ∧ env.fault (call a) = some code ∧ e = .external (call a) code) := by
  simp only [writeAccount, run_bind, account_run, external_run]
  rcases hr : h.get r with _ | a
  · simp [eq_comm, and_comm]
  · rcases hf : env.fault (call a) with _ | code <;> simp [hf, eq_comm, and_comm]

/-- A write through a set pointer fails only in its collaborator call. -/
theorem writeAccount_fails_in_call {r : Acnt} {call : UserAccount → ExternalCall}
    {change : UserAccount → Heap → Heap} {e : Error} (hr : (h.get r).isSome)
    (hrun : writeAccount env r call change h = .error e h') :
    ∃ a code, e = .external (call a) code := by
  obtain ⟨-, ⟨hnil, -⟩ | ⟨a, code, -, -, rfl⟩⟩ := (writeAccount_eq_error env).mp hrun
  · simp [hnil] at hr
  · exact ⟨a, code, rfl⟩

theorem saveKeyValue_eq_ok {r : Acnt} {key value : Bytes} {u : Unit} :
    saveKeyValue env r key value h = .ok u h' ↔
      ∃ a, h.get r = some a ∧ env.fault (.saveKeyValue a.address key value) = none ∧
        h' = h.set r (a.saveKeyValue key value) :=
  writeAccount_eq_ok env

theorem loadAccount_eq_ok {address : Bytes} {a : UserAccount} :
    loadAccount env address h = .ok a h' ↔
      env.fault (.loadAccount address) = none ∧ a = h.shard.loadAccount address ∧ h' = h := by
  simp only [loadAccount, bind_eq_ok, external_eq_ok, run_get, run_pure,
    EStateM.Result.ok.injEq]
  constructor
  · rintro ⟨_, _, ⟨hf, rfl⟩, _, _, ⟨rfl, rfl⟩, rfl, rfl⟩
    exact ⟨hf, rfl, rfl⟩
  · rintro ⟨hf, rfl, rfl⟩
    exact ⟨(), _, ⟨hf, rfl⟩, _, _, ⟨rfl, rfl⟩, rfl, rfl⟩

theorem loadAccount_eq_error {address : Bytes} {e : Error} :
    loadAccount env address h = .error e h' ↔ ∃ code, env.fault (.loadAccount address) = some code ∧
      e = .external (.loadAccount address) code ∧ h' = h := by
  simp only [loadAccount, run_bind, external_run, run_get, run_pure]
  cases env.fault (.loadAccount address) <;> simp [eq_comm]

theorem saveAccount_eq_ok {r : Acnt} {u : Unit} :
    saveAccount env r h = .ok u h' ↔
      ∃ a, h.get r = some a ∧ env.fault (.saveAccount a.address) = none ∧
        h' = { h with shard := h.shard.saveAccount a } :=
  writeAccount_eq_ok env

end Invert

end VmCommon
