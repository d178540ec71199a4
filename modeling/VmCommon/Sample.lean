/-
# A concrete environment

Every theorem about the executors is stated for an arbitrary `Env`: any constants with the two
facts `Constants` carries, any marshaller that honours its contract, any flags, handlers and
faults.  To run the executors on concrete calls the development needs one `Env` whose `Prop`
fields are discharged, and this module builds it.

* `hexMarshalizer` writes a role list as its roles hex-encoded, each closed by `@`, and reads it
  back by splitting on `@`; its contract follows from the two round trips of `Encoding.lean`.
* `sampleConstants` gives the constants the shape `core` gives them: a 32-byte management
  address, and key prefixes that share the protected prefix and part right after it.
* `sampleEnv` has every flag off, two shards told apart by the last address byte, the
  management address in the metachain, and no collaborator that fails.
* `creator` holds the create role for the token `A`; `createCall` is a create it makes.
-/
import VmCommon.Accounts

namespace VmCommon

/-! ## 1. A marshaller for role lists -/

/-- Each role hex-encoded and closed by the separator. -/
def hexMarshal (roles : DCDTRoles) : Bytes :=
  (roles.roles.map fun role => encodeToString role ++ [separator]).flatten

/-- Split on the separator, drop the empty segment after the last one, decode each role. -/
def hexUnmarshal (data : Bytes) : Option DCDTRoles :=
  ((data.splitOn separator).dropLast.mapM decodeString).map DCDTRoles.mk

theorem hexMarshal_eq_joinData (l : List Bytes) :
    hexMarshal ⟨l⟩ = joinData (l.map encodeToString ++ [[]]) := by
  induction l with
  | nil => rfl
  | cons role l ih =>
    simp only [hexMarshal, List.map_cons, List.flatten_cons] at ih ⊢
    rw [ih]
    cases l <;> simp [joinData, List.intercalate, List.intersperse]

theorem mapM_decodeString_encodeToString (l : List Bytes) :
    (l.map encodeToString).mapM decodeString = some l := by
  induction l with
  | nil => rfl
  | cons role l ih =>
    rw [List.map_cons, List.mapM_cons, decodeString_encodeToString, ih]
    rfl

/-- The hex marshaller: both laws of the `Marshalizer` contract hold. -/
def hexMarshalizer : Marshalizer where
  marshal := hexMarshal
  unmarshal := hexUnmarshal
  marshalToken _ := []
  unmarshal_marshal := fun ⟨l⟩ => by
    have hsep : ∀ p ∈ l.map encodeToString ++ [[]], separator ∉ p := by
      simp only [List.mem_append, List.mem_map, List.mem_singleton]
      rintro p (⟨role, -, rfl⟩ | rfl)
      · exact at_not_mem_encodeToString role
      · simp
    rw [hexUnmarshal, hexMarshal_eq_joinData, splitOn_joinData hsep (by simp),
      List.dropLast_concat, mapM_decodeString_encodeToString]
    rfl
  marshal_eq_nil := fun ⟨l⟩ h => by
    cases l with
    | nil => rfl
    | cons role l => simp [hexMarshal] at h

/-! ## 2. Constants and the environment -/

/-- Constants of the shape `core` gives them: a 32-byte management address, and the nonce and
role prefixes parting right after the protected prefix. -/
def sampleConstants : Constants where
  dcdtSCAddress := List.replicate 30 0 ++ [255, 255]
  dcdtRoleNFTCreate := ascii "DCDTRoleNFTCreate"
  dcdtRoleNFTAddQuantity := ascii "DCDTRoleNFTAddQuantity"
  baseDCDTKeyPrefix := ascii "PROTECTEDdcdt"
  roleKeyPrefix := ascii "PROTECTEDroledcdt"
  noncePrefix := ascii "PROTECTEDnonce"
  builtInFunctionDCDTNFTCreate := ascii "DCDTNFTCreate"
  builtInFunctionDCDTNFTCreateRoleTransfer := ascii "DCDTNFTCreateRoleTransfer"
  builtInFunctionDCDTTransfer := ascii "DCDTTransfer"
  builtInFunctionDCDTNFTTransfer := ascii "DCDTNFTTransfer"
  builtInFunctionDCDTBurn := ascii "DCDTBurn"
  nonFungible := 1
  maxLenForAddNFTQuantity := 32
  dcdtSCAddress_length := by decide
  noncePrefix_roleKeyPrefix := by decide
  separator_not_mem_roleTransfer := by decide

/-- Every flag off, two shards told apart by the parity of the last address byte, the
management address in the metachain (`core.MetachainShardId`), and no collaborator that
fails. -/
def sampleEnv : Env where
  toConstants := sampleConstants
  isFlagEnabled _ := false
  marshaller := hexMarshalizer
  globalSettings _ := 1
  isPayable _ _ := true
  isSmartContractAddress _ := false
  computeId address :=
    if address = sampleConstants.dcdtSCAddress then 4294967295
    else (address.getLast?.getD 0).toNat % 2
  fault _ := none

/-- An account with nothing stored. -/
def emptyAccount (address : Bytes) : UserAccount := ⟨address, ⟨fun _ => [], fun _ => none⟩⟩

/-- A shard with nothing stored. -/
def emptyShard : ShardState := ⟨fun _ => ⟨fun _ => [], fun _ => none⟩, fun _ => 0⟩

/-! ## 3. A caller -/

/-- The account `[1]`, holding the create role for the token `A` (its role list is stored
under `roleKeyPrefix ‖ A`). -/
def creator : UserAccount :=
  (emptyAccount [1]).saveKeyValue (sampleEnv.roleKeyPrefix ++ [65])
    (sampleEnv.marshaller.marshal ⟨[sampleEnv.dcdtRoleNFTCreate]⟩)

/-- `creator` calling itself, in an empty shard. -/
def creatorHeap : Heap := ⟨some creator, some creator, none, emptyShard⟩

/-- `creator` creating one `A`, directly, with the royalties argument `royalties` and no URI. -/
def createCall (royalties : Bytes) (gasProvided : UInt64) : ContractCallInput :=
  ⟨[1], [1], 0, .directCall, [[65], [1], [], royalties, [], [], []], [], gasProvided, false⟩

end VmCommon
