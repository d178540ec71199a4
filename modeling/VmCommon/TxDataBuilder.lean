/-
# The transaction data builder

`txDataBuilder/builder.go` assembles a data field `function@arg1@arg2...`: `Func` sets the
function, and each append (`Byte`, `Bytes`, `Str`, `Bool`, `Int`, `Int64`, `BigInt`, and the
composites built from them) adds one hex-encoded element.  `ToString` joins the function and
the elements with the builder's separator, which `NewBuilder` sets to `@` and nothing changes;
the model carries that as a field of the builder.  A Go `string` is a byte string, so it is
`Bytes` here; Go's `int` and `int64` are 64-bit, so they are `BitVec 64`.

`splitOn_toString_appends` is the round trip the data field is built for: after `Func f` and
any appends on a fresh builder, splitting on `@` gives `f` and one segment per append, and
each segment hex-decodes to the appended bytes.  The bytes of an integer append are
`big.Int.Bytes()` of the value, which is its ABSOLUTE value: a negative `Int`, `Int64` or
`BigInt` reads back as its magnitude (`int64_minus_one_reads_one`).
-/
import VmCommon.Types

namespace VmCommon

/-! ## 1. The builder -/

/-- `txDataBuilder`.  The separator is fixed at `@`. -/
structure TxDataBuilder where
  function : Bytes
  elements : List Bytes
  separator : Bytes
  separator_eq : separator = [VmCommon.separator]

/-- `NewBuilder`. -/
def newBuilder : TxDataBuilder := ⟨[], [], [separator], rfl⟩

namespace TxDataBuilder

/-- `Clear`. -/
def clear (builder : TxDataBuilder) : TxDataBuilder :=
  { builder with function := [], elements := [] }

/-- `ToString`. -/
def toString (builder : TxDataBuilder) : Bytes :=
  builder.elements.foldl (fun data element => data ++ builder.separator ++ element)
    builder.function

/-- `ToBytes`. -/
def toBytes (builder : TxDataBuilder) : Bytes := builder.toString

/-- `GetLast`: the empty string when there is no element. -/
def getLast (builder : TxDataBuilder) : Bytes := builder.elements.getLastD []

/-- `SetLast`: with no element, the element becomes the only one. -/
def setLast (builder : TxDataBuilder) (element : Bytes) : TxDataBuilder :=
  { builder with
    elements := if builder.elements.length = 0 then [element]
      else builder.elements.dropLast ++ [element] }

/-- `Func`. -/
def func (builder : TxDataBuilder) (function : Bytes) : TxDataBuilder :=
  { builder with function := function }

/-- `append(builder.elements, element)`. -/
def push (builder : TxDataBuilder) (element : Bytes) : TxDataBuilder :=
  { builder with elements := builder.elements ++ [element] }

/-- `Byte`. -/
def byte (builder : TxDataBuilder) (value : UInt8) : TxDataBuilder :=
  builder.push (encodeToString [value])

/-- `Bytes`. -/
def bytes (builder : TxDataBuilder) (bytes : Bytes) : TxDataBuilder :=
  builder.push (encodeToString bytes)

/-- `Str`. -/
def str (builder : TxDataBuilder) (str : Bytes) : TxDataBuilder :=
  builder.push (encodeToString str)

/-- `Int`: `big.NewInt(int64(value)).Bytes()`, the bytes of the absolute value. -/
def int (builder : TxDataBuilder) (value : BitVec 64) : TxDataBuilder :=
  builder.push (encodeToString (bigBytes value.toInt.natAbs))

/-- `Int64`: `big.NewInt(value).Bytes()`, the bytes of the absolute value. -/
def int64 (builder : TxDataBuilder) (value : BitVec 64) : TxDataBuilder :=
  builder.push (encodeToString (bigBytes value.toInt.natAbs))

/-- `True`. -/
def true (builder : TxDataBuilder) : TxDataBuilder := builder.str (ascii "true")

/-- `False`. -/
def false (builder : TxDataBuilder) : TxDataBuilder := builder.str (ascii "false")

/-- `Bool`. -/
def bool (builder : TxDataBuilder) (value : Bool) : TxDataBuilder :=
  if value then builder.true else builder.false

/-- `BigInt`: `value.Bytes()`, the bytes of the absolute value. -/
def bigInt (builder : TxDataBuilder) (value : Int) : TxDataBuilder :=
  builder.bytes (bigBytes value.natAbs)

/-- `IssueDCDT`. -/
def issueDCDT (builder : TxDataBuilder) (token ticker : Bytes) (supply : BitVec 64)
    (numDecimals : UInt8) : TxDataBuilder :=
  ((((builder.func (ascii "issue")).str token).str ticker).int64 supply).byte numDecimals

/-- `TransferDCDT`. -/
def transferDCDT (c : Constants) (builder : TxDataBuilder) (token : Bytes) (value : BitVec 64) :
    TxDataBuilder :=
  ((builder.func c.builtInFunctionDCDTTransfer).str token).int64 value

/-- `TransferDCDTNFT`. -/
def transferDCDTNFT (c : Constants) (builder : TxDataBuilder) (token : Bytes) (nonce : BitVec 64)
    (value : BitVec 64) : TxDataBuilder :=
  (((builder.func c.builtInFunctionDCDTNFTTransfer).str token).int nonce).int64 value

/-- `BurnDCDT`. -/
def burnDCDT (c : Constants) (builder : TxDataBuilder) (token : Bytes) (value : BitVec 64) :
    TxDataBuilder :=
  ((builder.func c.builtInFunctionDCDTBurn).str token).int64 value

/-- The `CanX` family: the property's name, then its value. -/
def canProperty (name : Bytes) (builder : TxDataBuilder) (prop : Bool) : TxDataBuilder :=
  (builder.str name).bool prop

/-- `CanFreeze`. -/
def canFreeze : TxDataBuilder → Bool → TxDataBuilder := canProperty (ascii "canFreeze")

/-- `CanWipe`. -/
def canWipe : TxDataBuilder → Bool → TxDataBuilder := canProperty (ascii "canWipe")

/-- `CanPause`. -/
def canPause : TxDataBuilder → Bool → TxDataBuilder := canProperty (ascii "canPause")

/-- `CanMint`. -/
def canMint : TxDataBuilder → Bool → TxDataBuilder := canProperty (ascii "canMint")

/-- `CanBurn`. -/
def canBurn : TxDataBuilder → Bool → TxDataBuilder := canProperty (ascii "canBurn")

/-- `CanTransferNFTCreateRole`. -/
def canTransferNFTCreateRole : TxDataBuilder → Bool → TxDataBuilder :=
  canProperty (ascii "canTransferNFTCreateRole")

/-- `CanAddSpecialRoles`. -/
def canAddSpecialRoles : TxDataBuilder → Bool → TxDataBuilder :=
  canProperty (ascii "canAddSpecialRoles")

end TxDataBuilder

/-! ## 2. The data string -/

/-- The separated fold of `ToString` is the separator between the parts. -/
theorem foldl_separated (sep : Bytes) :
    ∀ (data : Bytes) (elements : List Bytes),
      elements.foldl (fun data element => data ++ sep ++ element) data =
        sep.intercalate (data :: elements)
  | data, [] => by simp [List.intercalate]
  | data, element :: elements => by
    rw [List.foldl_cons, foldl_separated sep _ elements]
    cases elements <;> simp [List.intercalate, List.intersperse_cons_cons]

/-- `ToString` is the function and the elements joined by `@`. -/
theorem TxDataBuilder.toString_eq (builder : TxDataBuilder) :
    builder.toString = joinData (builder.function :: builder.elements) := by
  rw [toString, foldl_separated, builder.separator_eq, joinData]

/-! ## 3. Appends and what they encode -/

/-- One append of the builder's argument methods. -/
inductive Append where
  | byte (value : UInt8)
  | bytes (value : Bytes)
  | str (value : Bytes)
  | bool (value : Bool)
  | int (value : BitVec 64)
  | int64 (value : BitVec 64)
  | bigInt (value : Int)

/-- Run one append on the builder. -/
def Append.apply (builder : TxDataBuilder) : Append → TxDataBuilder
  | .byte value => builder.byte value
  | .bytes value => builder.bytes value
  | .str value => builder.str value
  | .bool value => builder.bool value
  | .int value => builder.int value
  | .int64 value => builder.int64 value
  | .bigInt value => builder.bigInt value

/-- The bytes an append's segment encodes: the byte, the bytes, the string's bytes, `true` or
`false`, and for an integer `big.Int.Bytes()` of it. -/
def Append.bytesOf : Append → Bytes
  | .byte value => [value]
  | .bytes value => value
  | .str value => value
  | .bool value => if value then ascii "true" else ascii "false"
  | .int value => bigBytes value.toInt.natAbs
  | .int64 value => bigBytes value.toInt.natAbs
  | .bigInt value => bigBytes value.natAbs

/-- The value of an integer append. -/
def Append.intValue : Append → Option Int
  | .int value => some value.toInt
  | .int64 value => some value.toInt
  | .bigInt value => some value
  | _ => none

/-- Every append adds the hex encoding of its bytes as one element. -/
@[simp] theorem Append.apply_elements (builder : TxDataBuilder) (a : Append) :
    (Append.apply builder a).elements = builder.elements ++ [encodeToString a.bytesOf] := by
  cases a with
  | bool value => cases value <;> rfl
  | _ => rfl

@[simp] theorem Append.apply_function (builder : TxDataBuilder) (a : Append) :
    (Append.apply builder a).function = builder.function := by
  cases a with
  | bool value => cases value <;> rfl
  | _ => rfl

/-- A run of appends adds their elements in order. -/
theorem foldl_apply_elements (appends : List Append) (builder : TxDataBuilder) :
    (appends.foldl Append.apply builder).elements =
      builder.elements ++ appends.map (fun a => encodeToString a.bytesOf) := by
  induction appends generalizing builder with
  | nil => simp
  | cons a appends ih => simp [ih]

theorem foldl_apply_function (appends : List Append) (builder : TxDataBuilder) :
    (appends.foldl Append.apply builder).function = builder.function := by
  induction appends generalizing builder with
  | nil => rfl
  | cons a appends ih => simp [ih]

/-- After `Func f` on a cleared builder, with `f` free of `@`, the data string splits into `f`
and one hex segment per append. -/
theorem splitOn_toString_foldl (builder : TxDataBuilder) {f : Bytes} (hf : separator ∉ f)
    (appends : List Append) :
    (appends.foldl Append.apply (builder.clear.func f)).toString.splitOn separator =
      f :: appends.map (fun a => encodeToString a.bytesOf) := by
  simp only [TxDataBuilder.toString_eq, foldl_apply_elements, foldl_apply_function]
  refine splitOn_joinData ?_ (List.cons_ne_nil _ _)
  simp only [TxDataBuilder.func, TxDataBuilder.clear, List.nil_append, List.mem_cons,
    List.mem_map]
  rintro p (rfl | ⟨a, -, rfl⟩)
  · exact hf
  · exact at_not_mem_encodeToString _

/-- **Decoding the data string.**  After `Func f`, with `f` free of `@`, and any appends on a
builder fresh from `NewBuilder` or `Clear`, splitting the data string on `@` gives `f` and one
segment per append; each segment hex-decodes to the append's bytes (the string's for `Str`,
`true` or `false` for `Bool`); and an integer append reads back, as an unsigned big-endian
integer, as the ABSOLUTE value of the appended integer. -/
theorem splitOn_toString_appends (builder : TxDataBuilder) (f : Bytes) (hf : separator ∉ f)
    (appends : List Append) :
    let data := (appends.foldl Append.apply (builder.clear.func f)).toString
    data.splitOn separator = f :: appends.map (fun a => encodeToString a.bytesOf) ∧
    (data.splitOn separator).tail.map decodeString = appends.map (fun a => some a.bytesOf) ∧
    ∀ a ∈ appends, ∀ v, a.intValue = some v → setBytes a.bytesOf = v.natAbs := by
  intro data
  have hsplit : data.splitOn separator = f :: appends.map (fun a => encodeToString a.bytesOf) :=
    splitOn_toString_foldl builder hf appends
  refine ⟨hsplit, by simp [hsplit, decodeString_encodeToString], ?_⟩
  rintro a - v hv
  cases a <;> simp only [Append.intValue, Option.some.injEq, reduceCtorEq] at hv <;>
    simp [Append.bytesOf, setBytes_bigBytes, ← hv]

/-- `Func f`, then `Int64(-1)` and `Bool(true)`: the segments are `01` and `true`, hex-encoded. -/
theorem splitOn_toString_int64_bool :
    separator ∉ ascii "f" ∧
      ([Append.int64 (-1), .bool true].foldl Append.apply
          (newBuilder.clear.func (ascii "f"))).toString.splitOn separator =
        [ascii "f", ascii "01", ascii "74727565"] :=
  ⟨by decide, by rw [(splitOn_toString_appends newBuilder (ascii "f") (by decide) _).1]; decide⟩

/-- **An integer append drops the sign.**  `Int64(-1)` after `Func f` gives the segment `01`,
which reads back as 1. -/
theorem int64_minus_one_reads_one :
    ((newBuilder.func (ascii "f")).int64 (-1)).toString.splitOn separator =
        [ascii "f", ascii "01"] ∧
      (decodeString (ascii "01")).map setBytes = some 1 ∧ (-1 : BitVec 64).toInt = -1 := by
  decide

end VmCommon
