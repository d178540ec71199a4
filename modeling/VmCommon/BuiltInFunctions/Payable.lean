/-
# The payable guard and the call-after detector

`payable.go` holds two decision procedures written separately:

* `mustVerifyPayable` / `CheckPayable`: a transfer into a contract must be checked against the
  payable handler, unless it is a callback (or, before `FixAsyncCallbackCheck`, an
  asynchronous call), a transfer-and-execute, a transfer from the DCDT system address, or it
  carries extra arguments (with `CheckFunctionArgument`: a non-empty first extra argument);
* `DetermineIsSCCallAfter`: a contract call follows the transfer when there are extra
  arguments, the call is not an error return (except a callback), the destination is a
  contract, and (with `CheckFunctionArgument`) the first extra argument is non-empty.

The two must agree: a transfer that is followed by a contract call needs no payable check,
since the called function decides, and a plain transfer into a contract does.
`payable_checked_iff_no_call_after` proves both directions, the second under the conditions
where the call type, the error-return flag and the caller do not already exempt the transfer.

The payable handler is `Env.isPayable`, with the fault oracle for its errors, and
`vmcommon.IsSmartContractAddress` (outside `src/`) is `Env.isSmartContractAddress`.
-/
import VmCommon.Sample

namespace VmCommon

variable (env : Env)

/-! ## 1. The two procedures -/

/-- `mustVerifyPayable`.  The type a callback is recognised by is `AsynchronousCall` until
`FixAsyncCallbackCheck`, and `AsynchronousCallBack` (not an error return) after it. -/
def mustVerifyPayable (vmInput : ContractCallInput) (minLenArguments : Nat) : Bool :=
  let fixAsyncCallbackCheck := env.isFlagEnabled .fixAsyncCallbackCheckFlag
  let typeToVerify := if fixAsyncCallbackCheck then CallType.asynchronousCallBack
    else CallType.asynchronousCall
  if fixAsyncCallbackCheck && vmInput.returnCallAfterError then false
  else if vmInput.callType = typeToVerify ∨ vmInput.callType = .dcdtTransferAndExecute then false
  else if vmInput.callerAddr = env.dcdtSCAddress then false
  else if vmInput.arguments.length > minLenArguments then
    if env.isFlagEnabled .checkFunctionArgumentFlag then
      if (vmInput.arguments.getD minLenArguments []).length > 0 then false else true
    else false
  else true

/-- `CheckPayable`: when the transfer must be verified, the payable handler is asked. -/
def checkPayable (vmInput : ContractCallInput) (dstAddress : Bytes) (minLenArguments : Nat) :
    Except Error Unit :=
  if !mustVerifyPayable env vmInput minLenArguments then
    return ()
  else do
    let isPayable ← query env (.isPayable vmInput.callerAddr dstAddress)
      (env.isPayable vmInput.callerAddr dstAddress)
    failIf (!isPayable) .errAccountNotPayable

/-- `DetermineIsSCCallAfter`. -/
def determineIsSCCallAfter (vmInput : ContractCallInput) (destAddress : Bytes)
    (minLenArguments : Nat) : Bool :=
  if vmInput.arguments.length ≤ minLenArguments then false
  else if vmInput.returnCallAfterError ∧ vmInput.callType ≠ .asynchronousCallBack then false
  else if !env.isSmartContractAddress destAddress then false
  else if env.isFlagEnabled .checkFunctionArgumentFlag then
    if (vmInput.arguments.getD minLenArguments []).length = 0 then false else true
  else true

/-! ## 2. What each decides -/

section Decide

variable {vmInput : ContractCallInput} {destAddress : Bytes} {minLenArguments : Nat}

/-- **A call after the transfer**: extra arguments, no error return outside a callback, a
contract destination and, with `CheckFunctionArgument`, a non-empty first extra argument. -/
theorem determineIsSCCallAfter_eq_true :
    determineIsSCCallAfter env vmInput destAddress minLenArguments = true ↔
      minLenArguments < vmInput.arguments.length ∧
      ¬ (vmInput.returnCallAfterError ∧ vmInput.callType ≠ .asynchronousCallBack) ∧
      env.isSmartContractAddress destAddress = true ∧
      (env.isFlagEnabled .checkFunctionArgumentFlag = true →
        (vmInput.arguments.getD minLenArguments []).length ≠ 0) := by
  unfold determineIsSCCallAfter
  split_ifs <;> simp_all

/-- Extra arguments that signal a call exempt the transfer from the payable check. -/
theorem mustVerifyPayable_of_call_args
    (hlen : minLenArguments < vmInput.arguments.length)
    (harg : env.isFlagEnabled .checkFunctionArgumentFlag = true →
      (vmInput.arguments.getD minLenArguments []).length ≠ 0) :
    mustVerifyPayable env vmInput minLenArguments = false := by
  unfold mustVerifyPayable
  split_ifs <;> simp_all [Nat.pos_iff_ne_zero]

/-- With none of the exemptions of call type, error return and caller, the check is needed
exactly when the extra arguments do not signal a call. -/
theorem mustVerifyPayable_eq_true
    (htype : vmInput.callType ≠ .asynchronousCall ∧ vmInput.callType ≠ .asynchronousCallBack ∧
      vmInput.callType ≠ .dcdtTransferAndExecute)
    (herr : vmInput.returnCallAfterError = false) (hcaller : vmInput.callerAddr ≠ env.dcdtSCAddress) :
    mustVerifyPayable env vmInput minLenArguments = true ↔
      (minLenArguments < vmInput.arguments.length →
        env.isFlagEnabled .checkFunctionArgumentFlag = true ∧
        (vmInput.arguments.getD minLenArguments []).length = 0) := by
  obtain ⟨h1, h2, h3⟩ := htype
  have htype : ¬ (vmInput.callType = (if env.isFlagEnabled .fixAsyncCallbackCheckFlag then
      CallType.asynchronousCallBack else .asynchronousCall) ∨
      vmInput.callType = .dcdtTransferAndExecute) := by
    split <;> simp [*]
  simp only [mustVerifyPayable, herr, Bool.and_false, Bool.false_eq_true, ↓reduceIte, htype,
    hcaller]
  split_ifs <;> simp_all [List.length_pos]

/-- An unverified transfer passes without asking the handler. -/
theorem checkPayable_of_not_must (h : mustVerifyPayable env vmInput minLenArguments = false) :
    checkPayable env vmInput destAddress minLenArguments = .ok () := by
  simp [checkPayable, h]

/-- A verified transfer gets the handler's answer: its error, or `ErrAccountNotPayable` when the
destination is not payable. -/
theorem checkPayable_of_must (h : mustVerifyPayable env vmInput minLenArguments = true) :
    checkPayable env vmInput destAddress minLenArguments =
      match env.fault (.isPayable vmInput.callerAddr destAddress) with
      | some code => .error (.external (.isPayable vmInput.callerAddr destAddress) code)
      | none => if env.isPayable vmInput.callerAddr destAddress then .ok ()
        else .error .errAccountNotPayable := by
  simp only [checkPayable, h, Bool.not_true, Bool.false_eq_true, ↓reduceIte, query]
  cases env.fault _ with
  | some code => rfl
  | none => cases env.isPayable vmInput.callerAddr destAddress <;> rfl

end Decide

/-- **The guard and the detector agree.**  (1) When a contract call follows the transfer, the
payable check is not needed and passes without asking the handler, whatever it would answer.
(2) For a call that is no callback, asynchronous call or transfer-and-execute, not an error
return and not from the DCDT system address, into a contract: when no call follows, the check
is needed, and it is the handler's answer, `ErrAccountNotPayable` for a destination it does not
call payable. -/
theorem payable_checked_iff_no_call_after (vmInput : ContractCallInput) (destAddress : Bytes)
    (minLenArguments : Nat) :
    (determineIsSCCallAfter env vmInput destAddress minLenArguments = true →
      mustVerifyPayable env vmInput minLenArguments = false ∧
      checkPayable env vmInput destAddress minLenArguments = .ok ()) ∧
    (vmInput.callType ≠ .asynchronousCall → vmInput.callType ≠ .asynchronousCallBack →
      vmInput.callType ≠ .dcdtTransferAndExecute → vmInput.returnCallAfterError = false →
      vmInput.callerAddr ≠ env.dcdtSCAddress → env.isSmartContractAddress destAddress = true →
      determineIsSCCallAfter env vmInput destAddress minLenArguments = false →
      mustVerifyPayable env vmInput minLenArguments = true ∧
      checkPayable env vmInput destAddress minLenArguments =
        match env.fault (.isPayable vmInput.callerAddr destAddress) with
        | some code => .error (.external (.isPayable vmInput.callerAddr destAddress) code)
        | none => if env.isPayable vmInput.callerAddr destAddress then .ok ()
          else .error .errAccountNotPayable) := by
  constructor
  · intro hcall
    obtain ⟨hlen, -, -, harg⟩ := (determineIsSCCallAfter_eq_true env).mp hcall
    have hmust := mustVerifyPayable_of_call_args env hlen harg
    exact ⟨hmust, checkPayable_of_not_must env hmust⟩
  · intro h1 h2 h3 herr hcaller hsc hnocall
    have hmust : mustVerifyPayable env vmInput minLenArguments = true := by
      refine (mustVerifyPayable_eq_true env ⟨h1, h2, h3⟩ herr hcaller).mpr fun hlen => ?_
      by_contra hno
      have hcall : determineIsSCCallAfter env vmInput destAddress minLenArguments = true :=
        (determineIsSCCallAfter_eq_true env).mpr
          ⟨hlen, by simp [herr], hsc, fun hf => fun h0 => hno ⟨hf, h0⟩⟩
      simp [hcall] at hnocall
    exact ⟨hmust, checkPayable_of_must env hmust⟩

/-- `sampleEnv` with every address a contract, none of them payable. -/
def nonPayableEnv : Env :=
  { sampleEnv with isSmartContractAddress := fun _ => true, isPayable := fun _ _ => false }

/-- A direct transfer of one `A` from `[1]` to `[2]`, with no extra argument. -/
def transferCall : ContractCallInput :=
  ⟨[1], [2], 0, .directCall, [[65], [1]], [], 0, false⟩

/-- A plain transfer into a contract that is not payable is rejected by the handler's answer. -/
theorem transfer_to_nonpayable_contract_rejected :
    determineIsSCCallAfter nonPayableEnv transferCall [2] 2 = false ∧
      checkPayable nonPayableEnv transferCall [2] 2 = .error .errAccountNotPayable :=
  ⟨rfl, ((payable_checked_iff_no_call_after nonPayableEnv transferCall [2] 2).2 (by decide)
    (by decide) (by decide) rfl (by decide) rfl rfl).2⟩

end VmCommon
