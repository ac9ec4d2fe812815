import HttpDispatch.Failure.Value

/-!
# Faults

A fault is an error of this library: a report together with what caused it.  Any failure can be
made one without losing the text by which it is reported (`message_ofValue`).
-/

namespace HttpDispatch

/-- An error of this library: a report, and what caused it. -/
structure Fault where
  report : Report
  cause : Value

namespace Fault

/-- The error as a value. -/
def toValue (f : Fault) : Value := .fault f.report f.cause

/-- The error with a code, a message and details, that nothing caused. -/
def make (message : String) (code : ErrorCode) (details : Option Json) (traceId : Option String)
    (cause : Value) : Fault :=
  ⟨Report.make message code details none traceId, cause⟩

/-- Any failure as an error of this library.  One that is such an error already stays as it is,
another error keeps its message and gets the code, and anything else becomes an error of unknown
kind with the text by which it is reported. -/
def ofValue (v : Value) (code : ErrorCode) (traceId : Option String) : Fault :=
  match v with
  | .fault r cause => ⟨r, cause⟩
  | v =>
    if v.isError then make v.display code none traceId v
    else make v.display .unknownError none traceId v

@[simp] theorem ofValue_toValue (f : Fault) (code : ErrorCode) (traceId : Option String) :
    ofValue f.toValue code traceId = f := rfl

/-- An error made from a failure is reported by the text of the failure. -/
theorem message_ofValue (v : Value) (code : ErrorCode) (traceId : Option String) :
    (ofValue v code traceId).report.message = v.display := by
  cases v <;> rfl

end Fault

end HttpDispatch
