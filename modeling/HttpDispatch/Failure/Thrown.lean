import HttpDispatch.Log.Logger

/-!
# What can be thrown

Not everything that is thrown answers when it is asked what it is.  An object may throw where its
tag is read, and an error where its message is read; the message of an error may be no text; an
error of this library may be of a derived kind, with a name of its own; and of some objects one
cannot even ask whether they are errors.  Such a failure is no `Value`, but it is known by what it
answers, which is the same each time it is asked.

`display` is what a failure is reported by.  Of a value it is a text; of the others it may be
something else, or asking for it may throw.  `summary` is what an entry says of the failure, once
that has been made an error of this library, and `label` is the name in it: one of a derived kind
keeps its own.
-/

namespace HttpDispatch

namespace Value

/-- The error of a conversion that the platform does not know how to make. -/
def typeError : Value := .platformError "TypeError"

mutual

/-- What the conversion of a value to text throws, where it fails. -/
def refusal : Value → Value
  | array items => itemsRefusal items
  | selfConverting (some (.throws v)) _ _ => v
  | selfConverting (some (.yields yielded)) (some (.throws v)) _ =>
    if yielded.isPrimitive then typeError else v
  | _ => typeError

/-- What the conversion of the first item throws that has no text. -/
def itemsRefusal : List Value → Value
  | [] => typeError
  | v :: rest => if v.text?.isSome then itemsRefusal rest else refusal v

end

/-- The text that a value converts to where it is part of another text, or what that throws. -/
def convert (v : Value) : Except Value String :=
  match v.text? with
  | some s => .ok s
  | none => .error v.refusal

end Value

/-- What can be thrown: a value, or something that is known only by what it answers. -/
inductive Thrown
  | value (v : Value)
  /-- An error of this library of a derived kind: its name, its message and its stack, if any. -/
  | derived (name message : Except Value String) (stack : Except Value (Option String))
  /-- Another error, whose message may be anything. -/
  | error (message : Except Value Value)
  /-- An object that is no error: the text that it converts to, and its tag in written form. -/
  | object (text tagged : Except Value String)
  /-- Something that throws where it is asked whether it is an error. -/
  | revoked (v : Value)

namespace Thrown

/-- What a failure is reported by: a text, as a rule.  The message of an error is taken as it is,
and the tag of an object only where its conversion fails. -/
def display : Thrown → Except Value Value
  | value v => .ok (.text v.display)
  | derived _ message _ => message.map .text
  | error message => message
  | object (.ok s) _ => .ok (.text s)
  | object (.error _) tagged => tagged.map .text
  | revoked v => .error v

/-- What a failure is reported by as part of a text. -/
def text (t : Thrown) : Except Value String := do (← t.display).convert

/-- The message of an error that is made of something: nothing, if there is nothing. -/
def messageOf : Value → Except Value String
  | .undefined => .ok ""
  | v => v.convert

/-- What an entry says of a failure that is made an error of this library, as `Fault.ofValue` does
with a value: an error gets the code, and what is none becomes one of unknown kind. -/
def summary (code : ErrorCode) (traceId : Option String) (t : Thrown) :
    Except Value ErrorSummary := do
  match t with
  | value v => return (Fault.ofValue v code traceId).toValue.summary
  | derived name message stack => return ⟨some (← name), some (← message), ← stack⟩
  | error message =>
    return (Report.make (← messageOf (← message)) code none none traceId).summary
  | object .. =>
    return (Report.make (← messageOf (← t.display)) .unknownError none none traceId).summary
  | revoked v => throw v

/-- The name under which a failure is logged.  One of a derived kind is asked for its name and for
its stack, and either may throw. -/
def label : Thrown → Except Value String
  | derived (.error v) _ _ => .error v
  | derived (.ok _) _ (.error v) => .error v
  | derived (.ok name) _ (.ok _) => .ok name
  | _ => .ok Report.errorName

/-- A failure is reported by a text if what it is displayed as is something and converts to the
text. -/
structure ReportedBy (t : Thrown) (s : String) : Prop where
  text : t.text = .ok s
  something : t.display ≠ .ok .undefined

@[simp] theorem label_value (v : Value) : label (.value v) = .ok Report.errorName := rfl

theorem reportedBy_value (v : Value) : ReportedBy (.value v) v.display := ⟨rfl, nofun⟩

theorem messageOf_of_ne {v : Value} (h : v ≠ .undefined) : messageOf v = v.convert := by
  rw [messageOf]
  exact h

/-- What is said of a failure is its label and the text that it is reported by, unless asking for
the label throws. -/
theorem ReportedBy.exists_summary_eq {t : Thrown} {s : String} (h : t.ReportedBy s)
    (code : ErrorCode) (traceId : Option String) :
    ∃ stack, t.summary code traceId = t.label.map fun name => ⟨some name, some s, stack⟩ := by
  obtain ⟨htext, hsomething⟩ := h
  cases t with
  | value v =>
    obtain rfl : v.display = s := Except.ok.inj htext
    refine ⟨some (Fault.ofValue v code traceId).report.stack, ?_⟩
    rw [← Fault.message_ofValue v code traceId]
    rfl
  | derived name message stack =>
    cases message with
    | error v => nomatch htext
    | ok text =>
      obtain rfl : text = s := Except.ok.inj htext
      cases name with
      | error v => exact ⟨none, rfl⟩
      | ok name =>
        cases stack with
        | error v => exact ⟨none, rfl⟩
        | ok stack => exact ⟨stack, rfl⟩
  | error message =>
    cases message with
    | error v => nomatch htext
    | ok m =>
      have hm : messageOf m = .ok s :=
        (messageOf_of_ne fun hm => hsomething (congrArg _ hm)).trans htext
      refine ⟨some (Report.make s code none none traceId).stack, ?_⟩
      show (do return (Report.make (← messageOf m) code none none traceId).summary) = _
      rw [hm]
      rfl
  | object text tagged =>
    obtain ⟨s', hs'⟩ : ∃ s', (object text tagged).display = .ok (.text s') := by
      cases text with
      | ok s' => exact ⟨s', rfl⟩
      | error v =>
        cases tagged with
        | ok s' => exact ⟨s', rfl⟩
        | error v' => nomatch htext
    obtain rfl : s' = s := by
      rw [Thrown.text, hs'] at htext
      exact Except.ok.inj htext
    refine ⟨some (Report.make s' .unknownError none none traceId).stack, ?_⟩
    rw [summary, hs']
    rfl
  | revoked v => nomatch htext

end Thrown

end HttpDispatch
