/-!
# Log levels

Four levels, from the least to the most severe.  A logger lets an entry pass if its level is at
or above the logger's own, so `passes` is the order of the levels.
-/

namespace HttpDispatch

/-- The severity of a log entry. -/
inductive Level
  | debug
  | info
  | warn
  | error
deriving DecidableEq, Repr, Inhabited

namespace Level

/-- All levels, the least severe first. -/
def all : List Level := [debug, info, warn, error]

/-- The name of a level, as it is written in entries. -/
def name : Level → String
  | debug => "debug"
  | info => "info"
  | warn => "warn"
  | error => "error"

/-- The name of a level in capitals, as it stands in a line for people. -/
def heading : Level → String
  | debug => "DEBUG"
  | info => "INFO"
  | warn => "WARN"
  | error => "ERROR"

/-- The level of a name. -/
def ofName? (name : String) : Option Level :=
  all.find? (·.name == name)

/-- The rank of a level. -/
def priority : Level → Nat
  | debug => 0
  | info => 1
  | warn => 2
  | error => 3

/-- Whether an entry of this level passes a filter at a threshold. -/
def passes (level threshold : Level) : Bool :=
  threshold.priority ≤ level.priority

theorem ofName?_name (l : Level) : ofName? l.name = some l := by
  cases l <;> rfl

theorem ofName?_eq_some_iff {name : String} {l : Level} : ofName? name = some l ↔ name = l.name := by
  constructor
  · intro h
    have := List.find?_some h
    exact (beq_iff_eq.1 this).symm
  · intro h
    rw [h, ofName?_name]

/-- Entries of the highest level pass every filter. -/
@[simp] theorem passes_error (threshold : Level) : passes error threshold = true := by
  cases threshold <;> rfl

/-- The lowest threshold lets every entry pass. -/
@[simp] theorem passes_debug (level : Level) : passes level debug = true := by
  cases level <;> rfl

end Level

end HttpDispatch
