/-
# The data-field parser: a single DCDT transfer

`parseSingleDCDTTransfer` (`parsers/dataField/parseSingleDCDTTransfer.go:8-28`) is what an
indexer reports for a transfer payload.  `extractDCDTData` (lines 30-41) sets the operation to
the function name and hands the arguments to the transfer-args extractor; when that fails the
response is the operation alone.  Otherwise the response names the function called after the
transfer, when the receiver is a contract and the name is ASCII, and the FIRST transfer only:
its token name and its value in decimal, when the name is ASCII.

The extractor (`ParseDCDTTransfers`), `isASCIIString`, and the split of a payload into a
function and hex arguments are outside `src/`; the first is a field of the parser, and the
other two, with the single-transfer extractor used in section 3, are modelled from the spec
(§4.6).

`parseSingleDCDTTransfer_eq` is the parser's equation lemma: the response in closed form, as a
function of what the extractor returned (`surfaced` is the transfer it reports), so that later
proofs never unfold the parser.

The result is `parseSingleDCDTTransfer_transferDCDT`: what `TxDataBuilder.TransferDCDT` writes,
the parser reads back: the token, and the decimal of the value's ABSOLUTE value, since the
builder encodes an `int64` as `big.Int.Bytes()` of it.  A transfer of `-5` is reported as `5`
(`parseSingleDCDTTransfer_transferDCDT_negative`).
-/
import VmCommon.Sample
import VmCommon.TxDataBuilder

namespace VmCommon

/-! ## 1. The parser -/

/-- The fields of `vmcommon.DCDTTransfer` the parser reads. -/
structure DCDTTransfer where
  dcdtValue : Nat
  dcdtTokenName : Bytes
  deriving DecidableEq

/-- The fields of `vmcommon.ParsedDCDTTransfers` the parser reads. -/
structure ParsedDCDTTransfers where
  dcdtTransfers : List DCDTTransfer
  callFunction : Bytes
  deriving DecidableEq

/-- The fields of `ResponseParseData` this parser sets; the others keep their zero value. -/
structure ResponseParseData where
  operation : Bytes
  function : Bytes := []
  tokens : List Bytes := []
  dcdtValues : List Bytes := []
  deriving DecidableEq

/-- `operationDataFieldParser`, with the transfer-args extractor it delegates to
(`ParseDCDTTransfers sender receiver function args`). -/
structure OperationDataFieldParser where
  dcdtTransferParser : Bytes → Bytes → Bytes → List Bytes → Except Error ParsedDCDTTransfers

/-- Modelled from the spec: `isASCIIString` (not under `src/`), which the spec calls
"printable" (§4.6); as its name says, no byte is above 127. -/
def isASCIIString (input : Bytes) : Bool := input.all fun c => c ≤ 127

/-- `big.Int.String()`: the value in decimal. -/
def decimalString (value : Nat) : Bytes := ascii (Nat.repr value)

namespace OperationDataFieldParser

/-- `extractDCDTData`: the response with the operation set, and the parsed transfers unless the
extractor failed. -/
def extractDCDTData (odp : OperationDataFieldParser) (args : List Bytes)
    (function sender receiver : Bytes) : ResponseParseData × Option ParsedDCDTTransfers :=
  let responseParse : ResponseParseData := { operation := function }
  match odp.dcdtTransferParser sender receiver function args with
  | .error _ => (responseParse, none)
  | .ok parsedDCDTTransfers => (responseParse, some parsedDCDTTransfers)

/-- `parseSingleDCDTTransfer`. -/
def parseSingleDCDTTransfer (env : Env) (odp : OperationDataFieldParser) (args : List Bytes)
    (function sender receiver : Bytes) : ResponseParseData :=
  match odp.extractDCDTData args function sender receiver with
  | (responseParse, none) => responseParse
  | (responseParse, some parsedDCDTTransfers) =>
    let responseParse :=
      if env.isSmartContractAddress receiver && isASCIIString parsedDCDTTransfers.callFunction then
        { responseParse with function := parsedDCDTTransfers.callFunction }
      else responseParse
    match parsedDCDTTransfers.dcdtTransfers with
    | [] => responseParse
    | firstTransfer :: _ =>
      if !isASCIIString firstTransfer.dcdtTokenName then responseParse
      else
        { responseParse with
          tokens := responseParse.tokens ++ [firstTransfer.dcdtTokenName]
          dcdtValues := responseParse.dcdtValues ++ [decimalString firstTransfer.dcdtValue] }

end OperationDataFieldParser

/-! ## 2. The response -/

/-- The transfer a response reports: the first, when its token name is ASCII. -/
def surfaced (parsed : ParsedDCDTTransfers) : Option DCDTTransfer :=
  parsed.dcdtTransfers.head?.filter fun firstTransfer => isASCIIString firstTransfer.dcdtTokenName

/-- The response in closed form.  The operation is always the function name.  When the extractor fails
nothing else is set.  Otherwise the function is the called function when the receiver is a
contract and the name is ASCII, and the tokens and values are those of `surfaced`: at most one
transfer, the first, with its value in decimal. -/
theorem parseSingleDCDTTransfer_eq (env : Env) (odp : OperationDataFieldParser)
    (args : List Bytes) (function sender receiver : Bytes) :
    odp.parseSingleDCDTTransfer env args function sender receiver =
      match odp.dcdtTransferParser sender receiver function args with
      | .error _ => { operation := function }
      | .ok parsed =>
        { operation := function
          function :=
            if env.isSmartContractAddress receiver && isASCIIString parsed.callFunction then
              parsed.callFunction
            else []
          tokens := (surfaced parsed).toList.map DCDTTransfer.dcdtTokenName
          dcdtValues := (surfaced parsed).toList.map fun t => decimalString t.dcdtValue } := by
  unfold OperationDataFieldParser.parseSingleDCDTTransfer OperationDataFieldParser.extractDCDTData
  cases odp.dcdtTransferParser sender receiver function args with
  | error => rfl
  | ok parsed =>
    obtain ⟨_ | ⟨firstTransfer, _⟩, callFunction⟩ := parsed <;> dsimp only
    · split_ifs <;> rfl
    · split_ifs <;> simp_all [surfaced, Option.filter]

/-! ## 3. What the builder writes, the parser reads -/

/-- Modelled from the spec: the payload "is split on a fixed separator byte into a
function-name segment followed by zero or more hex-encoded argument segments" (§4.6). -/
def parseData (data : Bytes) : Option (Bytes × List Bytes) :=
  match data.splitOn separator with
  | [] => none
  | function :: args => (args.mapM decodeString).map fun args => (function, args)

/-- Modelled from the spec: the extractor for a single transfer, which reads the token and
the value, then the function called after the transfer, if any (§4.6). -/
def parseSingleTransferArgs (args : List Bytes) : Except Error ParsedDCDTTransfers :=
  match args with
  | token :: value :: rest => .ok ⟨[⟨setBytes value, token⟩], rest.headD []⟩
  | _ => .error .errInvalidArguments

/-- The parser with the single-transfer extractor. -/
def singleTransferParser : OperationDataFieldParser := ⟨fun _ _ _ => parseSingleTransferArgs⟩

/-- **The round trip through the indexer.**  `TransferDCDT(token, value)` on a cleared builder,
split and decoded, then parsed, reports the token and the decimal of `|value|`. -/
theorem parseSingleDCDTTransfer_transferDCDT (env : Env) (builder : TxDataBuilder)
    (token : Bytes) (value : BitVec 64) (hf : separator ∉ env.builtInFunctionDCDTTransfer)
    (htoken : isASCIIString token = true) (sender receiver : Bytes) :
    ∃ args, parseData (builder.clear.transferDCDT env.toConstants token value).toString =
        some (env.builtInFunctionDCDTTransfer, args) ∧
      singleTransferParser.parseSingleDCDTTransfer env args env.builtInFunctionDCDTTransfer
          sender receiver =
        { operation := env.builtInFunctionDCDTTransfer, tokens := [token],
          dcdtValues := [decimalString value.toInt.natAbs] } := by
  have hsplit := splitOn_toString_foldl builder hf [.str token, .int64 value]
  refine ⟨[token, bigBytes value.toInt.natAbs], ?_, ?_⟩
  · have hdecode := mapM_decodeString_encodeToString [token, bigBytes value.toInt.natAbs]
    simp only [TxDataBuilder.transferDCDT]
    rw [show ((builder.clear.func env.builtInFunctionDCDTTransfer).str token).int64 value =
      [Append.str token, .int64 value].foldl Append.apply
        (builder.clear.func env.builtInFunctionDCDTTransfer) from rfl, parseData, hsplit]
    exact congrArg (Option.map _) hdecode
  · rw [parseSingleDCDTTransfer_eq]
    simp [singleTransferParser, parseSingleTransferArgs, surfaced, Option.filter, htoken,
      setBytes_bigBytes]

/-- A transfer of `-5` of `A`, read back by the indexer, is reported as a transfer of `5`. -/
theorem parseSingleDCDTTransfer_transferDCDT_negative :
    ∃ args, parseData (newBuilder.clear.transferDCDT sampleEnv.toConstants [65] (-5)).toString =
        some (sampleEnv.builtInFunctionDCDTTransfer, args) ∧
      singleTransferParser.parseSingleDCDTTransfer sampleEnv args
          sampleEnv.builtInFunctionDCDTTransfer [1] [2] =
        { operation := sampleEnv.builtInFunctionDCDTTransfer, tokens := [[65]],
          dcdtValues := [ascii "5"] } :=
  parseSingleDCDTTransfer_transferDCDT sampleEnv newBuilder [65] (-5) (by decide) rfl [1] [2]

end VmCommon
