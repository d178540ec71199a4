/-
# `DCDTNFTCreate`: the checks, the nonce it allocates, and what it writes

`dcdtNFTCreate.ProcessBuiltinFunction` (`dcdtNFTCreate.go:103-244`) is the main executor of
this package.  It runs in three phases, and the model keeps them apart because what is proved
about it is about the border between them: what is checked before the first write, and what
the writes store:

* `validateInput` (lines 110-136) looks at the call descriptor only: value, caller and
  recipient, `acntSnd`, the flat gas, the argument count and, for `ExecOnDestByCaller`, the
  trailing address of the account with roles;
* `prepareCreate` (lines 143-202) READS the account with roles: its roles, its latest nonce,
  then the gas, royalties and quantity checks and the token type.  Every call it makes is a
  read, so it is a function of the account (`Except`), and it cannot write by construction;
* `persistCreate` (lines 204-243) WRITES: the token, the liquidity, the latest nonce and, for
  `ExecOnDestByCaller`, the account itself, then builds the output.

Between the first two, `getAccount` loads the account with roles for `ExecOnDestByCaller`
(lines 124-141).  The storage handler, `checkBasicDCDTArguments` and `addDCDTEntryInVMOutput`
are in files outside `src/`; they are modelled from the spec.

The spec lemmas are `prepareCreate_eq_ok` and `persistCreate_eq_ok` (what a successful phase
has checked, and what it returns and writes) and `persistCreate_eq_error` (a failed write phase
failed in a write).  The results of sections 7 and 8 are assembled from them: a create
rejected before its writes writes nothing, a successful one allocates the next nonce, charges
its gas and saves its royalties modulo `2^64` and `2^32`.  Their converse is
`processBuiltinFunction_ok_iff`: when no collaborator fails, the executor succeeds exactly when
the first two phases accept, so no write fails on its own.
-/
import VmCommon.BuiltInFunctions.Roles

namespace VmCommon

variable (env : Env)

/-! ## 1. Helpers and collaborators outside `src/` -/

/-- Modelled from the spec: `checkBasicDCDTArguments` (not under `src/`), "transfer value must
be nil-or-zero (ValueNotExpected otherwise)" (§4.5). -/
def checkBasicDCDTArguments (vmInput : ContractCallInput) : Except Error Unit :=
  if vmInput.callValue ≠ 0 then .error .errBuiltInFunctionCalledWithValue else .ok ()

/-- Modelled from the spec: `addDCDTEntryInVMOutput` (not under `src/`), a log entry that
records "function name, token id, nonce, quantity" (§4.5) and the extra arguments: the first
is the entry's address, the others follow the three fixed topics. -/
def addDCDTEntryInVMOutput (vmOutput : VMOutput) (identifier tokenID : Bytes) (nonce : UInt64)
    (value : Nat) (args : List Bytes) : VMOutput :=
  { vmOutput with
    logs := vmOutput.logs ++
      [⟨identifier, args.headD [], [tokenID, bigBytes nonce.toNat, bigBytes value] ++ args.drop 1⟩] }

@[simp] theorem addDCDTEntryInVMOutput_gasRemaining (vmOutput : VMOutput) (identifier tokenID : Bytes)
    (nonce : UInt64) (value : Nat) (args : List Bytes) :
    (addDCDTEntryInVMOutput vmOutput identifier tokenID nonce value args).gasRemaining =
      vmOutput.gasRemaining := rfl

@[simp] theorem addDCDTEntryInVMOutput_outputAccounts (vmOutput : VMOutput)
    (identifier tokenID : Bytes) (nonce : UInt64) (value : Nat) (args : List Bytes) :
    (addDCDTEntryInVMOutput vmOutput identifier tokenID nonce value args).outputAccounts =
      vmOutput.outputAccounts := rfl

@[simp] theorem addDCDTEntryInVMOutput_returnData (vmOutput : VMOutput) (identifier tokenID : Bytes)
    (nonce : UInt64) (value : Nat) (args : List Bytes) :
    (addDCDTEntryInVMOutput vmOutput identifier tokenID nonce value args).returnData =
      vmOutput.returnData := rfl

/-- Modelled from the spec: the NFT storage handler's `SaveDCDTNFTToken`, which persists the
token in the account under "key-prefix ∥ token-identifier ∥ nonce" (§3). -/
def saveDCDTNFTToken (r : Acnt) (dcdtTokenKey : Bytes) (nonce : UInt64)
    (dcdtData : DCDigitalToken) (saveArgs : NftSaveArgs) : Exec Unit :=
  writeAccount env r (fun a => .saveDCDTNFTToken a.address dcdtTokenKey nonce dcdtData saveArgs)
    (fun a h => h.set r (a.saveNFT (computeDCDTNFTTokenKey dcdtTokenKey nonce) dcdtData))

/-- Modelled from the spec: the storage handler's `AddToLiquiditySystemAcc`, which "credits
system-wide liquidity tracking" (§4.5) for the instance. -/
def addToLiquiditySystemAcc (dcdtTokenKey : Bytes) (tokenType : UInt32) (nonce : UInt64)
    (value : Nat) (keepMetadataOnZeroLiquidity : Bool) : Exec Unit := do
  external env (.addToLiquiditySystemAcc dcdtTokenKey tokenType nonce value
    keepMetadataOnZeroLiquidity)
  modify fun h =>
    { h with shard := h.shard.addLiquidity (computeDCDTNFTTokenKey dcdtTokenKey nonce) value }

section Liquidity

variable {dcdtTokenKey : Bytes} {tokenType : UInt32} {nonce : UInt64} {value : Nat} {keep : Bool}
  {h h' : Heap}

theorem addToLiquiditySystemAcc_eq_ok {u : Unit} :
    addToLiquiditySystemAcc env dcdtTokenKey tokenType nonce value keep h = .ok u h' ↔
      env.fault (.addToLiquiditySystemAcc dcdtTokenKey tokenType nonce value keep) = none ∧
        h' = { h with
          shard := h.shard.addLiquidity (computeDCDTNFTTokenKey dcdtTokenKey nonce) value } := by
  simp only [addToLiquiditySystemAcc, bind_eq_ok, external_eq_ok, run_modify,
    EStateM.Result.ok.injEq]
  constructor
  · rintro ⟨_, _, ⟨hf, rfl⟩, -, rfl⟩
    exact ⟨hf, rfl⟩
  · rintro ⟨hf, rfl⟩
    exact ⟨(), _, ⟨hf, rfl⟩, trivial, rfl⟩

theorem addToLiquiditySystemAcc_fails_in_call {e : Error}
    (hrun : addToLiquiditySystemAcc env dcdtTokenKey tokenType nonce value keep h = .error e h') :
    ∃ code, e = .external (.addToLiquiditySystemAcc dcdtTokenKey tokenType nonce value keep) code := by
  rcases bind_eq_error.mp hrun with hfail | ⟨_, _, -, hfail⟩
  · obtain ⟨code, -, rfl, -⟩ := (external_eq_error env).mp hfail
    exact ⟨code, rfl⟩
  · simp at hfail

end Liquidity

/-! ## 2. The executor and its configuration -/

/-- `dcdtNFTCreate`: its key prefix and gas configuration.  The handlers it holds are `Env`. -/
structure DCDTNFTCreate where
  keyPrefix : Bytes
  funcGasCost : UInt64
  gasConfig : BaseOperationCost

/-- `NewDCDTNFTCreateFunc`. -/
def newDCDTNFTCreateFunc (funcGasCost : UInt64) (gasConfig : BaseOperationCost) :
    DCDTNFTCreate :=
  ⟨env.baseDCDTKeyPrefix, funcGasCost, gasConfig⟩

/-- `SetNewGasConfig`: a `nil` configuration changes nothing.  A call reads the executor once,
as a value, so it sees the configuration before or after a change, never half of one. -/
def DCDTNFTCreate.setNewGasConfig (e : DCDTNFTCreate) : Option GasCost → DCDTNFTCreate
  | none => e
  | some gasCost =>
    { e with funcGasCost := gasCost.builtInCost.dcdtNFTCreate,
             gasConfig := gasCost.baseOperationCost }

/-! ## 3. Phase one: the call descriptor -/

/-- `checkDCDTNFTCreateBurnAddInput`; `account` is `acntSnd`, `none` for `nil`. -/
def checkDCDTNFTCreateBurnAddInput (account : Option UserAccount) (vmInput : ContractCallInput)
    (funcGasCost : UInt64) : Except Error Unit := do
  checkBasicDCDTArguments vmInput
  failIf (vmInput.callerAddr ≠ vmInput.recipientAddr) .errInvalidRcvAddr
  failIf (account.isNone && vmInput.callType ≠ .execOnDestByCaller) .errNilUserAccount
  failIf (vmInput.gasProvided < funcGasCost) .errNotEnoughGas

/-- `minNumOfArgs`: one more for the trailing address of `ExecOnDestByCaller`. -/
def minNumOfArgs (callType : CallType) : Nat :=
  if callType = .execOnDestByCaller then 8 else 7

/-- `scAddressWithRoles`: the last argument. -/
def scAddressWithRoles (vmInput : ContractCallInput) : Bytes :=
  vmInput.arguments.getD (vmInput.arguments.length - 1) []

/-- Lines 110-136: the checks on the call descriptor, and for `ExecOnDestByCaller` the address
of the account with roles (`none`: it is `acntSnd`). -/
def validateInput (e : DCDTNFTCreate) (acntSnd : Option UserAccount)
    (vmInput : ContractCallInput) : Except Error (Option Bytes) := do
  checkDCDTNFTCreateBurnAddInput acntSnd vmInput e.funcGasCost
  let lenArgs := vmInput.arguments.length
  failIf (lenArgs < minNumOfArgs vmInput.callType)
    (.wrapped .errInvalidArguments ", wrong number of arguments")
  if vmInput.callType = .execOnDestByCaller then
    let scAddressWithRoles := scAddressWithRoles vmInput
    failIf (scAddressWithRoles.length ≠ vmInput.callerAddr.length) .errInvalidAddressLength
    failIf (scAddressWithRoles = vmInput.callerAddr) .errInvalidRcvAddr
    return some scAddressWithRoles
  else
    return none

/-- `getAccount`: the loaded object goes to the executor's own pointer.  Every account of the
model is a user account, so the type assertion cannot fail. -/
def getAccount (address : Bytes) : Exec Acnt := do
  let account ← loadAccount env address
  modify fun h => h.set .loaded account
  return .loaded

/-! ## 4. Phase two: the reads and the token -/

/-- `totalLength`: the argument lengths summed in `uint64`. -/
def totalLength (arguments : List Bytes) : UInt64 :=
  arguments.foldl (fun totalLength arg => totalLength + UInt64.ofNat arg.length) 0

/-- `gasToUse`, in `uint64`. -/
def gasToUse (e : DCDTNFTCreate) (arguments : List Bytes) : UInt64 :=
  totalLength arguments * e.gasConfig.storePerByte + e.funcGasCost

/-- The `uint64` sum is the byte count modulo `2^64`. -/
theorem totalLength_toNat (arguments : List Bytes) :
    (totalLength arguments).toNat = (arguments.map List.length).sum % 2 ^ 64 := by
  suffices ∀ acc : UInt64, (arguments.foldl (fun t arg => t + UInt64.ofNat arg.length) acc).toNat =
      (acc.toNat + (arguments.map List.length).sum) % 2 ^ 64 by simpa using this 0
  induction arguments with
  | nil =>
    intro acc
    simp only [List.foldl_nil, List.map_nil, List.sum_nil, Nat.add_zero]
    exact (Nat.mod_eq_of_lt (u64_toNat_lt acc)).symm
  | cons arg arguments ih =>
    intro acc
    simp only [List.foldl_cons, ih, u64_toNat_add, u64_toNat_ofNat, List.map_cons,
      List.sum_cons, Nat.add_mod_mod, Nat.mod_add_mod, Nat.add_assoc]

/-- `gasToUse` is the exact cost modulo `2^64`. -/
theorem gasToUse_toNat (e : DCDTNFTCreate) (arguments : List Bytes) :
    (gasToUse e arguments).toNat =
      ((arguments.map List.length).sum * e.gasConfig.storePerByte.toNat + e.funcGasCost.toNat) %
        2 ^ 64 := by
  rw [gasToUse, u64_toNat_add, u64_toNat_mul, totalLength_toNat, Nat.mod_mul_mod, Nat.mod_add_mod]

/-- `uint32(big.NewInt(0).SetBytes(arg).Uint64())`. -/
def royaltiesOf (arg : Bytes) : UInt32 :=
  (UInt64.ofNat (setBytes arg)).toUInt32

/-- `uris`: the arguments from the seventh on, less the trailing address of
`ExecOnDestByCaller`. -/
def uris (vmInput : ContractCallInput) : List Bytes :=
  if vmInput.callType = .execOnDestByCaller then
    (vmInput.arguments.take (vmInput.arguments.length - 1)).drop 6
  else
    vmInput.arguments.drop 6

/-- `getTokenType`: a read of the global settings, or `NonFungible` before dynamic tokens. -/
def getTokenType (tokenID : Bytes) : Except Error UInt32 :=
  if !env.isFlagEnabled .dynamicDcdtFlag then
    return env.nonFungible
  else
    let dcdtTokenKey := env.baseDCDTKeyPrefix ++ tokenID
    query env (.getTokenType dcdtTokenKey) (env.globalSettings dcdtTokenKey)

/-- What the reads hand to the writes. -/
structure Prepared where
  tokenID : Bytes
  gasToUse : UInt64
  quantity : Nat
  dcdtTokenKey : Bytes
  nextNonce : UInt64
  dcdtData : DCDigitalToken

/-- Lines 143-202: the checks that read the account with roles, and the token to save. -/
def prepareCreate (e : DCDTNFTCreate) (vmInput : ContractCallInput)
    (accountWithRoles : UserAccount) : Except Error Prepared := do
  let args := vmInput.arguments
  let tokenID := args.getD 0 []
  checkAllowedToExecute env accountWithRoles tokenID env.dcdtRoleNFTCreate
  let nonce ← getLatestNonce env accountWithRoles tokenID
  let gasToUse := gasToUse e args
  failIf (vmInput.gasProvided < gasToUse) .errNotEnoughGas
  let royalties := royaltiesOf (args.getD 3 [])
  failIf (royalties > maxRoyalty) (.wrapped .errInvalidArguments ", invalid max royality value")
  let dcdtTokenKey := e.keyPrefix ++ tokenID
  let quantity := setBytes (args.getD 1 [])
  failIf (quantity ≤ 0) (.wrapped .errInvalidArguments ", invalid quantity")
  (if quantity > 1 then
    checkAllowedToExecute env accountWithRoles tokenID env.dcdtRoleNFTAddQuantity
  else pure ())
  failIf (env.isFlagEnabled .valueLengthCheckFlag &&
      (args.getD 1 []).length > env.maxLenForAddNFTQuantity)
    (.wrapped .errInvalidArguments
      (" max length for quantity in nft create is " ++ toString env.maxLenForAddNFTQuantity))
  let dcdtType ← getTokenType env tokenID
  let nextNonce := nonce + 1
  return ⟨tokenID, gasToUse, quantity, dcdtTokenKey, nextNonce,
    ⟨dcdtType, quantity, ⟨nextNonce, args.getD 2 [], vmInput.callerAddr, royalties,
      args.getD 4 [], args.getD 5 [], uris vmInput⟩⟩⟩

/-! ## 5. Phase three: the writes -/

/-- `e.marshaller.Marshal(dcdtData)` for the log: a failure is logged and leaves no bytes. -/
def marshalForLog (dcdtData : DCDigitalToken) : Bytes :=
  match env.fault (.marshalToken dcdtData) with
  | some _ => []
  | none => env.marshaller.marshalToken dcdtData

/-- Lines 204-243: the writes, and the output. -/
def persistCreate (vmInput : ContractCallInput) (accountWithRoles : Acnt) (p : Prepared) :
    Exec VMOutput := do
  let properties : NftSaveArgs := ⟨true, vmInput.returnCallAfterError, false⟩
  saveDCDTNFTToken env accountWithRoles p.dcdtTokenKey p.nextNonce p.dcdtData properties
  addToLiquiditySystemAcc env p.dcdtTokenKey p.dcdtData.type p.nextNonce p.quantity false
  saveLatestNonce env accountWithRoles p.tokenID p.nextNonce
  (if vmInput.callType = .execOnDestByCaller then saveAccount env accountWithRoles else pure ())
  let vmOutput : VMOutput :=
    ⟨.ok, vmInput.gasProvided - p.gasToUse, [bigBytes p.nextNonce.toNat], [], []⟩
  let dcdtDataBytes := marshalForLog env p.dcdtData
  return addDCDTEntryInVMOutput vmOutput env.builtInFunctionDCDTNFTCreate
    (vmInput.arguments.getD 0 []) p.nextNonce p.quantity [vmInput.callerAddr, dcdtDataBytes]

/-- `ProcessBuiltinFunction` of `dcdtNFTCreate`. -/
def processBuiltinFunction (e : DCDTNFTCreate) (vmInput : ContractCallInput) :
    Exec VMOutput := do
  let scAddressWithRoles ← liftExcept (validateInput e (← get).snd vmInput)
  let accountWithRoles ← (match scAddressWithRoles with
    | none => pure Acnt.snd
    | some address => getAccount env address)
  let p ← liftExcept (prepareCreate env e vmInput (← account accountWithRoles))
  persistCreate env vmInput accountWithRoles p

/-! ## 6. What each phase does -/

/-- **Phase one.**  A descriptor `validateInput` accepts is a call to the caller itself, and
names the account with roles by its trailing argument exactly for `ExecOnDestByCaller`; then
that address has the caller's length and is not the caller's. -/
theorem validateInput_eq_ok {e : DCDTNFTCreate} {acntSnd : Option UserAccount}
    {vmInput : ContractCallInput} {s : Option Bytes} (hrun : validateInput e acntSnd vmInput = .ok s) :
    vmInput.callerAddr = vmInput.recipientAddr ∧
    if vmInput.callType = .execOnDestByCaller then
      s = some (scAddressWithRoles vmInput) ∧
        (scAddressWithRoles vmInput).length = vmInput.callerAddr.length ∧
        scAddressWithRoles vmInput ≠ vmInput.callerAddr
    else s = none := by
  simp only [validateInput, except_bind_eq_ok] at hrun
  obtain ⟨_, hcheck, _, -, hrest⟩ := hrun
  refine ⟨?_, ?_⟩
  · simp only [checkDCDTNFTCreateBurnAddInput, except_bind_eq_ok, failIf_eq_ok,
      decide_eq_false_iff_not, not_not] at hcheck
    obtain ⟨_, -, _, hcr, -⟩ := hcheck
    exact hcr
  split
  · next hexec =>
    simp only [hexec, ↓reduceIte, except_bind_eq_ok, failIf_eq_ok, decide_eq_false_iff_not,
      not_not, except_pure, Except.ok.injEq] at hrest
    obtain ⟨_, hlen, _, hne, rfl⟩ := hrest
    exact ⟨rfl, hlen, hne⟩
  · next hexec =>
    simp only [hexec, ↓reduceIte, except_pure, Except.ok.injEq] at hrest
    exact hrest.symm

theorem getAccount_eq_ok {address : Bytes} {r : Acnt} {h h' : Heap} :
    getAccount env address h = .ok r h' ↔
      env.fault (.loadAccount address) = none ∧ r = .loaded ∧
        h' = h.set .loaded (h.shard.loadAccount address) := by
  simp only [getAccount, bind_eq_ok, loadAccount_eq_ok, run_modify, run_pure,
    EStateM.Result.ok.injEq]
  constructor
  · rintro ⟨_, _, ⟨hf, rfl, rfl⟩, _, _, ⟨-, rfl⟩, rfl, rfl⟩
    exact ⟨hf, rfl, rfl⟩
  · rintro ⟨hf, rfl, rfl⟩
    exact ⟨_, _, ⟨hf, rfl, rfl⟩, (), _, ⟨trivial, rfl⟩, rfl, rfl⟩

/-- A failed load leaves the heap as it was. -/
theorem getAccount_eq_error {address : Bytes} {e : Error} {h h' : Heap}
    (hrun : getAccount env address h = .error e h') : h' = h := by
  rcases bind_eq_error.mp hrun with hfail | ⟨_, _, hload, hfail⟩
  · obtain ⟨_, -, -, rfl⟩ := (loadAccount_eq_error env).mp hfail
    rfl
  · simp at hfail

/-- What a successful `prepareCreate` has checked on the account with roles `a`, and what it
hands to the writes. -/
structure PrepareSpec (e : DCDTNFTCreate) (vmInput : ContractCallInput) (a : UserAccount)
    (p : Prepared) : Prop where
  holdsCreate : HoldsRole env a p.tokenID env.dcdtRoleNFTCreate
  holdsAddQuantity : 1 < p.quantity → HoldsRole env a p.tokenID env.dcdtRoleNFTAddQuantity
  quantity_pos : 0 < p.quantity
  gas_le : p.gasToUse ≤ vmInput.gasProvided
  royalties_le : p.dcdtData.tokenMetaData.royalties ≤ maxRoyalty
  tokenID_eq : p.tokenID = vmInput.arguments.getD 0 []
  gasToUse_eq : p.gasToUse = gasToUse e vmInput.arguments
  quantity_eq : p.quantity = setBytes (vmInput.arguments.getD 1 [])
  dcdtTokenKey_eq : p.dcdtTokenKey = e.keyPrefix ++ p.tokenID
  nextNonce_eq : p.nextNonce = latestNonce env a p.tokenID + 1
  dcdtData_eq : ∃ dcdtType, p.dcdtData = ⟨dcdtType, p.quantity, ⟨p.nextNonce,
    vmInput.arguments.getD 2 [], vmInput.callerAddr, royaltiesOf (vmInput.arguments.getD 3 []),
    vmInput.arguments.getD 4 [], vmInput.arguments.getD 5 [], uris vmInput⟩⟩

/-- **Phase two.**  A successful `prepareCreate` satisfies `PrepareSpec`. -/
theorem prepareCreate_eq_ok {e : DCDTNFTCreate} {vmInput : ContractCallInput} {a : UserAccount}
    {p : Prepared} (hrun : prepareCreate env e vmInput a = .ok p) :
    PrepareSpec env e vmInput a p := by
  simp only [prepareCreate, except_bind_eq_ok, failIf_eq_ok, decide_eq_false_iff_not,
    getLatestNonce_eq, query_eq_ok, checkAllowedToExecute_eq_ok, ite_ok_eq_ok, except_pure,
    Except.ok.injEq] at hrun
  obtain ⟨-, ⟨-, hcreate⟩, _, ⟨-, rfl⟩, -, hgas, -, hroyalties, -, hquantity, -, hadd, -, -,
    dcdtType, -, rfl⟩ := hrun
  exact ⟨hcreate, fun hq => (hadd hq).2, Nat.lt_of_not_le hquantity,
    by simpa using hgas, by simpa using hroyalties, rfl, rfl, rfl, rfl, rfl, dcdtType, rfl⟩

/-- The account with roles after the writes: the token under its instance key, and the new
latest nonce. -/
def afterCreate (a : UserAccount) (p : Prepared) : UserAccount :=
  (a.saveNFT (computeDCDTNFTTokenKey p.dcdtTokenKey p.nextNonce) p.dcdtData).saveKeyValue
    (getNonceKey env p.tokenID) (bigBytes p.nextNonce.toNat)

@[simp] theorem afterCreate_address (a : UserAccount) (p : Prepared) :
    (afterCreate env a p).address = a.address := rfl

theorem afterCreate_nfts (a : UserAccount) (p : Prepared) :
    (afterCreate env a p).trie.nfts (computeDCDTNFTTokenKey p.dcdtTokenKey p.nextNonce) =
      some p.dcdtData := by
  simp [afterCreate]

/-- The writes add one token record, under the instance key, and leave every other one. -/
theorem afterCreate_nfts_apply (a : UserAccount) (p : Prepared) (k : Bytes) :
    (afterCreate env a p).trie.nfts k =
      if k = computeDCDTNFTTokenKey p.dcdtTokenKey p.nextNonce then some p.dcdtData
      else a.trie.nfts k := by
  simp only [afterCreate, UserAccount.saveKeyValue_nfts, UserAccount.saveNFT_nfts]

/-- The writes leave every role list as it was. -/
theorem afterCreate_values_roleKey (a : UserAccount) (p : Prepared) (tokenID : Bytes) :
    (afterCreate env a p).trie.values (roleKey env tokenID) = a.trie.values (roleKey env tokenID) :=
  UserAccount.saveKeyValue_values_of_ne _ _ (getNonceKey_ne_roleKey env _ _).symm

theorem storedRoles_afterCreate (a : UserAccount) (p : Prepared) (tokenID : Bytes) :
    storedRoles env.marshaller (afterCreate env a p) (roleKey env tokenID) =
      storedRoles env.marshaller a (roleKey env tokenID) := by
  simp only [storedRoles, afterCreate_values_roleKey]

theorem holdsRole_afterCreate (a : UserAccount) (p : Prepared) (tokenID role : Bytes) :
    HoldsRole env (afterCreate env a p) tokenID role ↔ HoldsRole env a tokenID role := by
  simp only [HoldsRole, storedRoles_afterCreate]

/-- The writes set the latest nonce of the created token, and of no other. -/
theorem latestNonce_afterCreate (a : UserAccount) (p : Prepared) (tokenID : Bytes) :
    latestNonce env (afterCreate env a p) tokenID =
      if tokenID = p.tokenID then p.nextNonce else latestNonce env a tokenID := by
  split
  · next h => subst h; exact latestNonce_saveLatestNonce env _ _ _
  · next h => exact latestNonce_saveKeyValue_of_ne env _ _ (mt (getNonceKey_inj env).mp h)

/-- **Phase three.**  Successful writes leave the account with roles as `afterCreate`, credit
the liquidity of the instance and, for `ExecOnDestByCaller`, save the account; the output
returns the new nonce and the gas left, and logs the creation. -/
theorem persistCreate_eq_ok {vmInput : ContractCallInput} {r : Acnt} {p : Prepared}
    {h h' : Heap} {a : UserAccount} {out : VMOutput} (ha : h.get r = some a)
    (hrun : persistCreate env vmInput r p h = .ok out h') :
    h' = { h.set r (afterCreate env a p) with
      shard :=
        let s := h.shard.addLiquidity (computeDCDTNFTTokenKey p.dcdtTokenKey p.nextNonce) p.quantity
        if vmInput.callType = .execOnDestByCaller then s.saveAccount (afterCreate env a p) else s } ∧
    out = addDCDTEntryInVMOutput
      ⟨.ok, vmInput.gasProvided - p.gasToUse, [bigBytes p.nextNonce.toNat], [], []⟩
      env.builtInFunctionDCDTNFTCreate (vmInput.arguments.getD 0 []) p.nextNonce p.quantity
      [vmInput.callerAddr, marshalForLog env p.dcdtData] := by
  simp only [persistCreate, bind_eq_ok, saveDCDTNFTToken, writeAccount_eq_ok,
    addToLiquiditySystemAcc_eq_ok, saveLatestNonce, saveKeyValue_eq_ok, run_pure,
    EStateM.Result.ok.injEq] at hrun
  obtain ⟨_, _, ⟨a₁, ha₁, -, rfl⟩, _, _, ⟨-, rfl⟩, _, _, ⟨a₂, ha₂, -, rfl⟩, _, _,
    hsave, rfl, rfl⟩ := hrun
  obtain rfl := Option.some.inj (ha.symm.trans ha₁)
  simp only [Heap.get_withShard, Heap.get_set_self, Option.some.injEq] at ha₂
  subst ha₂
  refine ⟨?_, rfl⟩
  rw [ite_eq_ok] at hsave
  split at hsave
  · obtain ⟨a₃, ha₃, -, rfl⟩ := (saveAccount_eq_ok env).mp hsave
    simp only [Heap.get_set_self, Heap.set_withShard, Heap.get_withShard, Option.some.injEq] at ha₃
    subst ha₃
    simp [afterCreate, *]
  · subst hsave
    simp [afterCreate, *]

/-- The errors of the writes: those of `SaveDCDTNFTToken`, `AddToLiquiditySystemAcc`, the
trie's `SaveKeyValue` (in `saveLatestNonce`) and `SaveAccount`. -/
def IsWriteError : Error → Prop
  | .external (.saveDCDTNFTToken ..) _ => True
  | .external (.addToLiquiditySystemAcc ..) _ => True
  | .external (.saveKeyValue ..) _ => True
  | .external (.saveAccount ..) _ => True
  | _ => False

/-- **A failed write phase failed in a write.** -/
theorem persistCreate_eq_error {vmInput : ContractCallInput} {r : Acnt} {p : Prepared}
    {h h' : Heap} {a : UserAccount} {err : Error} (ha : h.get r = some a)
    (hrun : persistCreate env vmInput r p h = .error err h') : IsWriteError err := by
  rcases bind_eq_error.mp hrun with hfail | ⟨_, _, hnft, hrun⟩
  · obtain ⟨_, code, rfl⟩ := writeAccount_fails_in_call env (by simp [ha]) hfail
    trivial
  obtain ⟨_, -, -, rfl⟩ := (writeAccount_eq_ok env).mp hnft
  rcases bind_eq_error.mp hrun with hfail | ⟨_, _, hliq, hrun⟩
  · obtain ⟨code, rfl⟩ := addToLiquiditySystemAcc_fails_in_call env hfail
    trivial
  obtain ⟨-, rfl⟩ := (addToLiquiditySystemAcc_eq_ok env).mp hliq
  rcases bind_eq_error.mp hrun with hfail | ⟨_, _, hnonce, hrun⟩
  · obtain ⟨_, code, rfl⟩ := writeAccount_fails_in_call env (by simp) hfail
    trivial
  obtain ⟨_, -, -, rfl⟩ := (writeAccount_eq_ok env).mp hnonce
  rcases bind_eq_error.mp hrun with hfail | ⟨_, _, -, hrun⟩
  · obtain ⟨_, code, rfl⟩ := writeAccount_fails_in_call env (by simp) (ite_eq_error.mp hfail).2
    trivial
  · simp at hrun

/-! ## 7. The whole call -/

/-- The account whose roles a create checks and whose nonce it advances: `acntSnd`, or for
`ExecOnDestByCaller` the account stored under the trailing address. -/
def roleHolder (vmInput : ContractCallInput) (h : Heap) : Option UserAccount :=
  if vmInput.callType = .execOnDestByCaller then
    some (h.shard.loadAccount (scAddressWithRoles vmInput))
  else h.snd

/-- The pointer the executor writes the account with roles through. -/
def holderPtr (vmInput : ContractCallInput) : Acnt :=
  if vmInput.callType = .execOnDestByCaller then .loaded else .snd

/-- The shard after a create: the instance's liquidity credited and, for
`ExecOnDestByCaller`, the account with roles saved. -/
def shardAfterCreate (vmInput : ContractCallInput) (s : ShardState) (a : UserAccount)
    (p : Prepared) : ShardState :=
  let s := s.addLiquidity (computeDCDTNFTTokenKey p.dcdtTokenKey p.nextNonce) p.quantity
  if vmInput.callType = .execOnDestByCaller then s.saveAccount (afterCreate env a p) else s

/-- After the writes, the account with roles is the one `afterCreate` gives: `acntSnd`, or the
account saved under the trailing address. -/
theorem roleHolder_afterCreate {vmInput : ContractCallInput} {h : Heap} {a : UserAccount}
    (p : Prepared) (ha : roleHolder vmInput h = some a) :
    roleHolder vmInput { h.set (holderPtr vmInput) (afterCreate env a p) with
      shard := shardAfterCreate env vmInput h.shard a p } = some (afterCreate env a p) := by
  by_cases hx : vmInput.callType = .execOnDestByCaller
  · have haddr : a.address = scAddressWithRoles vmInput := by
      simp only [roleHolder, hx, ↓reduceIte, Option.some.injEq] at ha
      rw [← ha, ShardState.loadAccount_address]
    simp only [roleHolder, shardAfterCreate, hx, ↓reduceIte, ← haddr]
    rw [← afterCreate_address env a p, ShardState.loadAccount_saveAccount]
  · simp [roleHolder, holderPtr, hx]

/-- **A successful create, whole.**  The call found its account with roles, whose reads passed
(`prepareCreate`); for `ExecOnDestByCaller` the trailing address has the caller's length and is
not the caller's; the heap after it is the account with roles written as `afterCreate`, with
the shard of `shardAfterCreate`; and the output is the one of `persistCreate_eq_ok`. -/
theorem processBuiltinFunction_eq_ok {e : DCDTNFTCreate} {vmInput : ContractCallInput}
    {h h' : Heap} {out : VMOutput} (hrun : processBuiltinFunction env e vmInput h = .ok out h') :
    ∃ a p, roleHolder vmInput h = some a ∧ prepareCreate env e vmInput a = .ok p ∧
      vmInput.callerAddr = vmInput.recipientAddr ∧
      (vmInput.callType = .execOnDestByCaller →
        (scAddressWithRoles vmInput).length = vmInput.callerAddr.length ∧
        scAddressWithRoles vmInput ≠ vmInput.callerAddr) ∧
      h' = { h.set (holderPtr vmInput) (afterCreate env a p) with
        shard := shardAfterCreate env vmInput h.shard a p } ∧
      out = addDCDTEntryInVMOutput
        ⟨.ok, vmInput.gasProvided - p.gasToUse, [bigBytes p.nextNonce.toNat], [], []⟩
        env.builtInFunctionDCDTNFTCreate (vmInput.arguments.getD 0 []) p.nextNonce p.quantity
        [vmInput.callerAddr, marshalForLog env p.dcdtData] := by
  simp only [processBuiltinFunction, bind_eq_ok, run_get, liftExcept_eq_ok,
    EStateM.Result.ok.injEq] at hrun
  obtain ⟨_, _, ⟨rfl, rfl⟩, s, _, ⟨hval, rfl⟩, r, h₁, hptr, a, _, hacc, p, _, ⟨hprep, rfl⟩,
    hpersist⟩ := hrun
  obtain ⟨ha, rfl⟩ := account_eq_ok.mp hacc
  obtain ⟨rfl, rfl⟩ := persistCreate_eq_ok env ha hpersist
  obtain ⟨hcr, hval⟩ := validateInput_eq_ok hval
  by_cases hexec : vmInput.callType = .execOnDestByCaller
  · rw [if_pos hexec] at hval
    obtain ⟨rfl, hlen, hne⟩ := hval
    obtain ⟨-, rfl, rfl⟩ := (getAccount_eq_ok env).mp hptr
    obtain rfl := Option.some.inj ha.symm
    refine ⟨_, p, by simp [roleHolder, hexec], hprep, hcr, fun _ => ⟨hlen, hne⟩, ?_, rfl⟩
    simp [holderPtr, shardAfterCreate, hexec]
  · rw [if_neg hexec] at hval
    subst hval
    obtain ⟨rfl, rfl⟩ := EStateM.Result.ok.inj hptr
    refine ⟨a, p, by simpa [roleHolder, hexec] using ha, hprep, hcr, fun h => absurd h hexec, ?_,
      rfl⟩
    simp [holderPtr, shardAfterCreate, hexec]

/-- With no collaborator failing, the writes of a create through a set pointer succeed. -/
theorem persistCreate_ok_of_no_fault (hnf : ∀ c, env.fault c = none)
    {vmInput : ContractCallInput} {r : Acnt} {p : Prepared} {h : Heap} {a : UserAccount}
    (ha : h.get r = some a) : ∃ out h', persistCreate env vmInput r p h = .ok out h' := by
  by_cases hx : vmInput.callType = .execOnDestByCaller <;>
    simp [persistCreate, saveDCDTNFTToken, addToLiquiditySystemAcc, saveLatestNonce, saveKeyValue,
      saveAccount, writeAccount, account_run, external_run, hnf, ha, hx] <;>
    exact ⟨_, _, rfl⟩

/-- **A direct create that passes its checks succeeds** when no collaborator fails. -/
theorem processBuiltinFunction_ok_of_direct (hnf : ∀ c, env.fault c = none)
    {e : DCDTNFTCreate} {vmInput : ContractCallInput} {h : Heap} {a : UserAccount} {p : Prepared}
    (hsnd : h.snd = some a) (hval : validateInput e h.snd vmInput = .ok none)
    (hprep : prepareCreate env e vmInput a = .ok p) :
    ∃ out h', processBuiltinFunction env e vmInput h = .ok out h' := by
  obtain ⟨out, h', hpersist⟩ : ∃ out h', persistCreate env vmInput .snd p h = .ok out h' :=
    persistCreate_ok_of_no_fault env hnf hsnd
  refine ⟨out, h', ?_⟩
  rw [hsnd] at hval
  simp only [processBuiltinFunction, run_get_bind, run_bind, run_get, run_liftExcept, hval,
    run_pure, account_run, Heap.get, hsnd, hprep]
  exact hpersist

/-- **A create fails only at its checks.**  When no collaborator fails, `ProcessBuiltinFunction`
succeeds, in either call shape, exactly when the descriptor passes `validateInput` and the
account with roles passes the reads and checks of `prepareCreate`. -/
theorem processBuiltinFunction_ok_iff (hnf : ∀ c, env.fault c = none) {e : DCDTNFTCreate}
    {vmInput : ContractCallInput} {h : Heap} :
    (∃ out h', processBuiltinFunction env e vmInput h = .ok out h') ↔
      (∃ s, validateInput e h.snd vmInput = .ok s) ∧
        ∃ a p, roleHolder vmInput h = some a ∧ prepareCreate env e vmInput a = .ok p := by
  constructor
  · rintro ⟨out, h', hrun⟩
    obtain ⟨a, p, ha, hprep, -⟩ := processBuiltinFunction_eq_ok env hrun
    rw [processBuiltinFunction, run_get_bind, bind_eq_ok] at hrun
    obtain ⟨s, _, hval, -⟩ := hrun
    exact ⟨⟨s, (liftExcept_eq_ok.mp hval).1⟩, a, p, ha, hprep⟩
  · rintro ⟨⟨s, hval⟩, a, p, ha, hprep⟩
    have hs := (validateInput_eq_ok hval).2
    by_cases hx : vmInput.callType = .execOnDestByCaller
    · -- the account with roles is loaded into the executor's own pointer
      rw [if_pos hx] at hs
      obtain ⟨rfl, -⟩ := hs
      simp only [roleHolder, hx, ↓reduceIte, Option.some.injEq] at ha
      subst ha
      have hget : getAccount env (scAddressWithRoles vmInput) h =
          .ok .loaded (h.set .loaded (h.shard.loadAccount (scAddressWithRoles vmInput))) :=
        (getAccount_eq_ok env).mpr ⟨hnf _, rfl, rfl⟩
      obtain ⟨out, h', hpersist⟩ : ∃ out h', persistCreate env vmInput .loaded p
          (h.set .loaded (h.shard.loadAccount (scAddressWithRoles vmInput))) = .ok out h' :=
        persistCreate_ok_of_no_fault env hnf (Heap.get_set_self _ _ _)
      refine ⟨out, h', ?_⟩
      simp only [processBuiltinFunction, run_bind, run_get, run_liftExcept, hval, hget,
        account_run, Heap.get_set_self, hprep]
      exact hpersist
    · rw [if_neg hx] at hs
      subst hs
      simp only [roleHolder, hx, ↓reduceIte] at ha
      exact processBuiltinFunction_ok_of_direct env hnf ha hval hprep

/-- In the sample environment no collaborator fails, so `creator`'s create of a token with no
royalties succeeds exactly when it passes both phases of checks. -/
theorem create_ok_iff_checks_creator :
    (∃ out h', processBuiltinFunction sampleEnv (newDCDTNFTCreateFunc sampleEnv 0 ⟨0⟩)
        (createCall [] 0) creatorHeap = .ok out h') ↔
      (∃ s, validateInput (newDCDTNFTCreateFunc sampleEnv 0 ⟨0⟩) creatorHeap.snd
          (createCall [] 0) = .ok s) ∧
        ∃ a p, roleHolder (createCall [] 0) creatorHeap = some a ∧
          prepareCreate sampleEnv (newDCDTNFTCreateFunc sampleEnv 0 ⟨0⟩) (createCall [] 0) a =
            .ok p :=
  processBuiltinFunction_ok_iff sampleEnv (fun _ => rfl)

/-- **A create rejected before its writes writes nothing.**  When `ProcessBuiltinFunction`
fails with an error that did not come from one of its writes, the objects the VM passed in and
the shard are as they were: every check runs before the first write. -/
theorem processBuiltinFunction_rejects_without_writes {e : DCDTNFTCreate}
    {vmInput : ContractCallInput} {h h' : Heap} {err : Error}
    (hrun : processBuiltinFunction env e vmInput h = .error err h') (hw : ¬ IsWriteError err) :
    h'.outside = h.outside := by
  rw [processBuiltinFunction, run_get_bind] at hrun
  rcases bind_eq_error.mp hrun with hfail | ⟨s, _, hval, hrun⟩
  · rw [(liftExcept_eq_error.mp hfail).2]
  rw [(liftExcept_eq_ok.mp hval).2] at hrun
  -- the only heap change before the writes is the load into the executor's own pointer
  rcases bind_eq_error.mp hrun with hfail | ⟨r, h₁, hptr, hrun⟩
  · cases s with
    | none => simp at hfail
    | some address => rw [getAccount_eq_error env hfail]
  have hout : h₁.outside = h.outside := by
    cases s with
    | none => rw [(EStateM.Result.ok.inj hptr).2]
    | some address => rw [((getAccount_eq_ok env).mp hptr).2.2, Heap.outside_set_loaded]
  rcases bind_eq_error.mp hrun with hfail | ⟨a, _, hacc, hrun⟩
  · rw [(account_eq_error.mp hfail).2.2, hout]
  rw [(account_eq_ok.mp hacc).2] at hrun
  rcases bind_eq_error.mp hrun with hfail | ⟨p, _, hprep, hrun⟩
  · rw [(liftExcept_eq_error.mp hfail).2, hout]
  rw [(liftExcept_eq_ok.mp hprep).2] at hrun
  exact absurd (persistCreate_eq_error env (account_eq_ok.mp hacc).1 hrun) hw

/-- `creator` asking for royalties of 10001 is rejected after its reads, and writes nothing. -/
theorem create_rejected_royalties_writes_nothing :
    ∃ err h', processBuiltinFunction sampleEnv (newDCDTNFTCreateFunc sampleEnv 0 ⟨0⟩)
        (createCall [39, 17] 0) creatorHeap = .error err h' ∧
      ¬ IsWriteError err ∧ h'.outside = creatorHeap.outside :=
  have hrun : processBuiltinFunction sampleEnv (newDCDTNFTCreateFunc sampleEnv 0 ⟨0⟩)
      (createCall [39, 17] 0) creatorHeap = .error _ _ := rfl
  ⟨_, _, hrun, nofun, processBuiltinFunction_rejects_without_writes sampleEnv hrun nofun⟩

/-! ## 8. What a successful create did -/

/-- What a successful create has checked and allocated.  The quantity is positive and the
account with roles `a` (`acntSnd`, or for `ExecOnDestByCaller` the account of the trailing
address, of the caller's length and not the caller's) holds the create role for the token, and
the add-quantity role when the quantity exceeds one.  With `L` its latest nonce for the token,
the token is saved in the account `a'` it becomes under `keyPrefix ‖ tokenID` with nonce
`L + 1`, which is the latest nonce afterwards; the latest nonces of other tokens are unchanged;
and the one return value is the minimal big-endian encoding of `L + 1`, which is `L + 1`
itself below `2^64 - 1`. -/
def AllocatesNextNonce (e : DCDTNFTCreate) (vmInput : ContractCallInput) (h : Heap)
    (out : VMOutput) (h' : Heap) : Prop :=
  let tokenID := vmInput.arguments.getD 0 []
  let quantity := setBytes (vmInput.arguments.getD 1 [])
  ∃ a a', roleHolder vmInput h = some a ∧ roleHolder vmInput h' = some a' ∧
    0 < quantity ∧ HoldsRole env a tokenID env.dcdtRoleNFTCreate ∧
    (1 < quantity → HoldsRole env a tokenID env.dcdtRoleNFTAddQuantity) ∧
    (vmInput.callType = .execOnDestByCaller →
      (scAddressWithRoles vmInput).length = vmInput.callerAddr.length ∧
      scAddressWithRoles vmInput ≠ vmInput.callerAddr) ∧
    (∃ token, a'.trie.nfts (computeDCDTNFTTokenKey (e.keyPrefix ++ tokenID)
        (latestNonce env a tokenID + 1)) = some token ∧
      token.tokenMetaData.nonce = latestNonce env a tokenID + 1) ∧
    latestNonce env a' tokenID = latestNonce env a tokenID + 1 ∧
    (∀ t, t ≠ tokenID → latestNonce env a' t = latestNonce env a t) ∧
    out.returnData = [bigBytes (latestNonce env a tokenID + 1).toNat] ∧
    ((latestNonce env a tokenID).toNat < 2 ^ 64 - 1 →
      (latestNonce env a tokenID + 1).toNat = (latestNonce env a tokenID).toNat + 1)

/-- **Authorization and nonce allocation.**  A successful `DCDTNFTCreate` satisfies
`AllocatesNextNonce`. -/
theorem processBuiltinFunction_allocates_next_nonce {e : DCDTNFTCreate}
    {vmInput : ContractCallInput} {h h' : Heap} {out : VMOutput}
    (hrun : processBuiltinFunction env e vmInput h = .ok out h') :
    AllocatesNextNonce env e vmInput h out h' := by
  obtain ⟨a, p, ha, hprep, -, hexec, rfl, rfl⟩ := processBuiltinFunction_eq_ok env hrun
  have hp := prepareCreate_eq_ok env hprep
  refine ⟨a, _, ha, roleHolder_afterCreate env p ha, ?_⟩
  rw [← hp.tokenID_eq, ← hp.dcdtTokenKey_eq, ← hp.nextNonce_eq]
  refine ⟨hp.quantity_eq ▸ hp.quantity_pos, hp.holdsCreate, hp.quantity_eq ▸ hp.holdsAddQuantity,
    hexec, ⟨p.dcdtData, afterCreate_nfts env a p, ?_⟩, by simp [latestNonce_afterCreate],
    fun t ht => by simp [latestNonce_afterCreate, ht], rfl, ?_⟩
  · obtain ⟨dcdtType, hdata⟩ := hp.dcdtData_eq
    rw [hdata]
  · intro hlt
    rw [hp.nextNonce_eq, u64_toNat_add]
    exact Nat.mod_eq_of_lt (by simp; omega)

/-- `creator`'s first create of `A` succeeds, and allocates as `AllocatesNextNonce` says. -/
theorem create_allocates_first_nonce :
    ∃ out h', processBuiltinFunction sampleEnv (newDCDTNFTCreateFunc sampleEnv 0 ⟨0⟩)
        (createCall [] 0) creatorHeap = .ok out h' ∧
      AllocatesNextNonce sampleEnv (newDCDTNFTCreateFunc sampleEnv 0 ⟨0⟩) (createCall [] 0)
        creatorHeap out h' :=
  have hrun : processBuiltinFunction sampleEnv (newDCDTNFTCreateFunc sampleEnv 0 ⟨0⟩)
      (createCall [] 0) creatorHeap = .ok _ _ := rfl
  ⟨_, _, hrun, processBuiltinFunction_allocates_next_nonce sampleEnv hrun⟩

/-- The gas a successful create charged, as the code computes it: the cost `S * Σ len + F`
modulo `2^64` was available and the rest is returned exactly; below `2^64` the cost is the
exact one. -/
def ChargesGasMod (e : DCDTNFTCreate) (vmInput : ContractCallInput) (out : VMOutput) : Prop :=
  let cost := (vmInput.arguments.map List.length).sum * e.gasConfig.storePerByte.toNat +
    e.funcGasCost.toNat
  cost % 2 ^ 64 ≤ vmInput.gasProvided.toNat ∧
    out.gasRemaining.toNat = vmInput.gasProvided.toNat - cost % 2 ^ 64 ∧
    (cost < 2 ^ 64 →
      cost ≤ vmInput.gasProvided.toNat ∧ out.gasRemaining.toNat = vmInput.gasProvided.toNat - cost)

/-- **Gas, as the code computes it.**  A successful create satisfies `ChargesGasMod`: the cost
is computed in `uint64`. -/
theorem processBuiltinFunction_gas_mod {e : DCDTNFTCreate} {vmInput : ContractCallInput}
    {h h' : Heap} {out : VMOutput} (hrun : processBuiltinFunction env e vmInput h = .ok out h') :
    ChargesGasMod e vmInput out := by
  obtain ⟨a, p, -, hprep, -, -, -, rfl⟩ := processBuiltinFunction_eq_ok env hrun
  have hp := prepareCreate_eq_ok env hprep
  have hle : gasToUse e vmInput.arguments ≤ vmInput.gasProvided := hp.gasToUse_eq ▸ hp.gas_le
  have hrem : (vmInput.gasProvided - p.gasToUse).toNat =
      vmInput.gasProvided.toNat - (gasToUse e vmInput.arguments).toNat := by
    rw [hp.gasToUse_eq, u64_toNat_sub hle]
  rw [u64_le_iff, gasToUse_toNat] at hle
  rw [gasToUse_toNat] at hrem
  refine ⟨hle, hrem, fun hlt => ?_⟩
  rw [Nat.mod_eq_of_lt hlt] at hle hrem
  exact ⟨hle, hrem⟩

/-- With a per-byte cost of `2^63`, the two argument bytes of a bare create cost `2^64`, which
wraps to 0: the create succeeds with no gas. -/
theorem create_gas_wraps_to_zero :
    ∃ out h', processBuiltinFunction sampleEnv (newDCDTNFTCreateFunc sampleEnv 0 ⟨9223372036854775808⟩)
        (createCall [] 0) creatorHeap = .ok out h' ∧
      ChargesGasMod (newDCDTNFTCreateFunc sampleEnv 0 ⟨9223372036854775808⟩) (createCall [] 0) out :=
  have hrun : processBuiltinFunction sampleEnv
      (newDCDTNFTCreateFunc sampleEnv 0 ⟨9223372036854775808⟩) (createCall [] 0) creatorHeap =
        .ok _ _ := rfl
  ⟨_, _, hrun, processBuiltinFunction_gas_mod sampleEnv hrun⟩

/-- **Gas is not exact.**  The same create succeeds with no gas although its exact cost,
`2 * 2^63 + 0`, is `2^64`. -/
theorem create_succeeds_below_exact_cost :
    ∃ out h', processBuiltinFunction sampleEnv (newDCDTNFTCreateFunc sampleEnv 0 ⟨9223372036854775808⟩)
        (createCall [] 0) creatorHeap = .ok out h' ∧
      (createCall [] 0).gasProvided.toNat <
        ((createCall [] 0).arguments.map List.length).sum * 9223372036854775808 + 0 :=
  ⟨_, _, rfl, by decide⟩

/-- **Royalties, as the code reads them.**  A successful create saved, in the token it
created, the royalties argument modulo `2^32` (`uint32` of the low 64 bits of the big-endian
value), and that is at most `MaxRoyalty`. -/
theorem processBuiltinFunction_royalties_mod {e : DCDTNFTCreate} {vmInput : ContractCallInput}
    {h h' : Heap} {out : VMOutput} (hrun : processBuiltinFunction env e vmInput h = .ok out h') :
    ∃ a a' token, roleHolder vmInput h = some a ∧ roleHolder vmInput h' = some a' ∧
      a'.trie.nfts (computeDCDTNFTTokenKey (e.keyPrefix ++ vmInput.arguments.getD 0 [])
        (latestNonce env a (vmInput.arguments.getD 0 []) + 1)) = some token ∧
      token.tokenMetaData.royalties.toNat = setBytes (vmInput.arguments.getD 3 []) % 2 ^ 32 ∧
      token.tokenMetaData.royalties.toNat ≤ 10000 := by
  obtain ⟨a, p, ha, hprep, -, -, rfl, -⟩ := processBuiltinFunction_eq_ok env hrun
  have hp := prepareCreate_eq_ok env hprep
  obtain ⟨dcdtType, hdata⟩ := hp.dcdtData_eq
  have hroyalties := hp.royalties_le
  refine ⟨a, _, p.dcdtData, ha, roleHolder_afterCreate env p ha, ?_, ?_, ?_⟩
  · rw [← hp.tokenID_eq, ← hp.dcdtTokenKey_eq, ← hp.nextNonce_eq]
    exact afterCreate_nfts env a p
  · rw [hdata, royaltiesOf, u64_toNat_toUInt32, u64_toNat_ofNat, Nat.mod_mod_of_dvd _ (by norm_num)]
  · exact hroyalties

/-- `creator` asking for royalties `2^32 + 5` saves royalties 5. -/
theorem create_royalties_mod_sample :
    ∃ out h', processBuiltinFunction sampleEnv (newDCDTNFTCreateFunc sampleEnv 0 ⟨0⟩)
        (createCall [1, 0, 0, 0, 5] 0) creatorHeap = .ok out h' ∧
      ∃ a a' token, roleHolder (createCall [1, 0, 0, 0, 5] 0) creatorHeap = some a ∧
        roleHolder (createCall [1, 0, 0, 0, 5] 0) h' = some a' ∧
        a'.trie.nfts (computeDCDTNFTTokenKey (sampleEnv.baseDCDTKeyPrefix ++ [65])
          (latestNonce sampleEnv a [65] + 1)) = some token ∧
        token.tokenMetaData.royalties.toNat = setBytes [1, 0, 0, 0, 5] % 2 ^ 32 ∧
        token.tokenMetaData.royalties.toNat ≤ 10000 :=
  have hrun : processBuiltinFunction sampleEnv (newDCDTNFTCreateFunc sampleEnv 0 ⟨0⟩)
      (createCall [1, 0, 0, 0, 5] 0) creatorHeap = .ok _ _ := rfl
  ⟨_, _, hrun, processBuiltinFunction_royalties_mod sampleEnv hrun⟩

/-- **The royalties check misses values above `2^32`.**  `creator` asking for royalties
`2^32`, far above `MaxRoyalty`, succeeds, and the token it saves has royalties 0. -/
theorem create_accepts_royalties_above_max :
    ∃ out h', processBuiltinFunction sampleEnv (newDCDTNFTCreateFunc sampleEnv 0 ⟨0⟩)
        (createCall [1, 0, 0, 0, 0] 0) creatorHeap = .ok out h' ∧
      maxRoyalty.toNat < setBytes [1, 0, 0, 0, 0] ∧
      ((roleHolder (createCall [1, 0, 0, 0, 0] 0) h').bind fun a =>
        a.trie.nfts (computeDCDTNFTTokenKey (sampleEnv.baseDCDTKeyPrefix ++ [65]) 1)).map
          (fun token => token.tokenMetaData.royalties) = some 0 :=
  ⟨_, _, rfl, by decide, by decide⟩

end VmCommon
