/-
# What a built-in function receives, returns and stores

The executors of `builtInFunctions` read a call descriptor (`vmcommon.ContractCallInput`)
and answer with a `vmcommon.VMOutput` or an error; what they persist is `dcdt.DCDigitalToken`
records, role lists (`dcdt.DCDTRoles`) and latest-nonce counters.  These types live in
`vmcommon` and `drt-go-chain-core`, outside `src/`; this module gives them with exactly the
fields the modelled functions read or write (the others are listed in `MODEL_MAP.json`).

Two more things are fixed here because every later module is stated over them:

* `Constants`, the protocol constants of `core` the code refers to by name
  (`core.DCDTSCAddress`, the role names, the key prefixes, ...).  Their values are not in
  `src/`, so they are a parameter, and the two facts about them that the cross-shard results
  need are fields of the structure: the management address is longer than any `uint64`
  nonce encoding, the nonce and role key prefixes do not extend each other, and the name of
  the role transfer holds no `@`, so that it is one field of a data string.
* `Error`, the errors the executors return.  A collaborator's error carries the call it came
  from (`Error.external`): Go returns such an error unchanged, and the tag only records its
  origin, which is what "an error from `SaveDCDTNFTToken`" means.

`gasCost.go` also holds `SafeSubUint64`, the subtraction that refuses to wrap
(`safeSubUint64_eq_ok`).
-/
import VmCommon.Encoding

namespace VmCommon

/-! ## 1. The call descriptor -/

/-- `vm.CallType` (`drt-go-chain-core/data/vm`). -/
inductive CallType where
  | directCall
  | asynchronousCall
  | asynchronousCallBack
  | dcdtTransferAndExecute
  | execOnDestByCaller
  deriving DecidableEq, Repr

/-- `vmcommon.ContractCallInput`, with its embedded `VMInput`: the fields the modelled
executors read. -/
structure ContractCallInput where
  callerAddr : Bytes
  recipientAddr : Bytes
  callValue : Int
  callType : CallType
  arguments : List Bytes
  function : Bytes
  gasProvided : UInt64
  returnCallAfterError : Bool

/-! ## 2. The execution result -/

/-- `vmcommon.OutputTransfer`: a transfer intent, carried out later by the destination's
shard. -/
structure OutputTransfer where
  index : UInt32
  value : Nat
  data : Bytes
  senderAddress : Bytes

/-- `vmcommon.OutputAccount`. -/
structure OutputAccount where
  address : Bytes
  balance : Nat
  balanceDelta : Int
  outputTransfers : List OutputTransfer

/-- `vmcommon.LogEntry`. -/
structure LogEntry where
  identifier : Bytes
  address : Bytes
  topics : List Bytes

/-- `vmcommon.ReturnCode`; the executors only ever return `Ok`. -/
inductive ReturnCode where
  | ok
  deriving DecidableEq, Repr

/-- `vmcommon.VMOutput`.  Go's `map[string]*OutputAccount` is the list of its entries, each
keyed by the account's own address. -/
structure VMOutput where
  returnCode : ReturnCode
  gasRemaining : UInt64
  returnData : List Bytes
  outputAccounts : List OutputAccount
  logs : List LogEntry

/-! ## 3. Gas configuration (`gasCost.go`) -/

/-- `vmcommon.BaseOperationCost`: the per-byte storage cost is the one field read. -/
structure BaseOperationCost where
  storePerByte : UInt64

/-- `vmcommon.BuiltInCost`: the flat cost of `DCDTNFTCreate` is the one field read. -/
structure BuiltInCost where
  dcdtNFTCreate : UInt64

/-- `vmcommon.GasCost`. -/
structure GasCost where
  baseOperationCost : BaseOperationCost
  builtInCost : BuiltInCost

/-! ## 4. Tokens and roles (`drt-go-chain-core/data/dcdt`) -/

/-- `dcdt.MetaData`. -/
structure MetaData where
  nonce : UInt64
  name : Bytes
  creator : Bytes
  royalties : UInt32
  hash : Bytes
  attributes : Bytes
  uris : List Bytes

/-- `dcdt.DCDigitalToken`. -/
structure DCDigitalToken where
  type : UInt32
  value : Nat
  tokenMetaData : MetaData

/-- `vmcommon.NftSaveArgs`. -/
structure NftSaveArgs where
  mustUpdateAllFields : Bool
  isReturnWithError : Bool
  keepMetaDataOnZeroLiquidity : Bool

/-- `dcdt.DCDTRoles`: an account's roles for one token, in stored order. -/
structure DCDTRoles where
  roles : List Bytes

/-! ## 5. Protocol constants -/

/-- The constants of `core` (and of this package's files outside `src/`) the executors use.
The `Prop` fields are facts about their real values: `core.DCDTSCAddress` is a 32-byte
address, the nonce prefix (`ProtectedKeyPrefix ++ "nonce"`) and the role prefix
(`ProtectedKeyPrefix ++ "role" ++ "dcdt"`) part after the protected prefix, and
`DCDTNFTCreateRoleTransfer` is a plain name. -/
structure Constants where
  dcdtSCAddress : Bytes
  dcdtRoleNFTCreate : Bytes
  dcdtRoleNFTAddQuantity : Bytes
  baseDCDTKeyPrefix : Bytes
  roleKeyPrefix : Bytes
  noncePrefix : Bytes
  builtInFunctionDCDTNFTCreate : Bytes
  builtInFunctionDCDTNFTCreateRoleTransfer : Bytes
  builtInFunctionDCDTTransfer : Bytes
  builtInFunctionDCDTNFTTransfer : Bytes
  builtInFunctionDCDTBurn : Bytes
  nonFungible : UInt32
  maxLenForAddNFTQuantity : Nat
  dcdtSCAddress_length : 8 < dcdtSCAddress.length
  noncePrefix_roleKeyPrefix : ¬ noncePrefix <+: roleKeyPrefix ∧ ¬ roleKeyPrefix <+: noncePrefix
  separator_not_mem_roleTransfer : separator ∉ builtInFunctionDCDTNFTCreateRoleTransfer

/-- Modelled from the spec: `core.MaxRoyalty`, "royalties: uint32 (0–10000)" (§3). -/
def maxRoyalty : UInt32 := 10000

/-- The feature flags of the enable-epochs handler that the modelled code consults. -/
inductive Flag where
  | valueLengthCheckFlag
  | dynamicDcdtFlag
  | fixAsyncCallbackCheckFlag
  | checkFunctionArgumentFlag
  deriving DecidableEq, Repr

/-! ## 6. Errors -/

/-- A call to a collaborator that can fail: the accounts adapter, an account's data trie, the
marshaller, the global settings handler, the NFT storage handler and the payable handler. -/
inductive ExternalCall where
  | retrieveValue (address key : Bytes)
  | saveKeyValue (address key value : Bytes)
  | loadAccount (address : Bytes)
  | saveAccount (address : Bytes)
  | marshal (roles : DCDTRoles)
  | marshalToken (token : DCDigitalToken)
  | unmarshal (data : Bytes)
  | getTokenType (tokenKey : Bytes)
  | saveDCDTNFTToken (address tokenKey : Bytes) (nonce : UInt64) (dcdtData : DCDigitalToken)
      (saveArgs : NftSaveArgs)
  | addToLiquiditySystemAcc (tokenKey : Bytes) (tokenType : UInt32) (nonce : UInt64) (value : Nat)
      (keepMetadataOnZeroLiquidity : Bool)
  | isPayable (caller destination : Bytes)

/-- The errors the executors return.  `wrapped e d` is `fmt.Errorf("%w" ++ d, e)`. -/
inductive Error where
  | errInvalidArguments
  | errInvalidAddressLength
  | errInvalidRcvAddr
  | errNilUserAccount
  | errNotEnoughGas
  | errAccountNotPayable
  | errBuiltInFunctionCalledWithValue
  | errActionNotAllowed
  | errSubtractionOverflow
  | wrapped (base : Error) (detail : String)
  | external (call : ExternalCall) (code : Nat)

/-! ## 7. `SafeSubUint64` (`gasCost.go`) -/

/-- `SafeSubUint64`: the difference, or `ErrSubtractionOverflow` where it would wrap. -/
def safeSubUint64 (a b : UInt64) : Except Error UInt64 :=
  if a < b then .error .errSubtractionOverflow else .ok (a - b)

/-- `SafeSubUint64` never wraps: it succeeds exactly when `b ≤ a`, and then with the exact
difference. -/
theorem safeSubUint64_eq_ok {a b c : UInt64} :
    safeSubUint64 a b = .ok c ↔ b ≤ a ∧ c.toNat = a.toNat - b.toNat := by
  unfold safeSubUint64
  split_ifs with hlt
  · simp only [reduceCtorEq, false_iff, not_and]
    rw [u64_lt_iff] at hlt
    intro hle
    exact absurd hle (by rw [u64_le_iff]; omega)
  · have hle : b ≤ a := by rw [u64_lt_iff] at hlt; rw [u64_le_iff]; omega
    rw [Except.ok.injEq, u64_eq_iff, u64_toNat_sub hle]
    exact ⟨fun h => ⟨hle, h.symm⟩, fun h => h.2.symm⟩

end VmCommon
