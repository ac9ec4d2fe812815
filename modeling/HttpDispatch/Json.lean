import HttpDispatch.Number

/-!
# JSON values

The members of an object keep the order in which they were written: the text of a log line or of
a response body depends on it.
-/

namespace HttpDispatch

/-- A JSON value. -/
inductive Json
  | null
  | bool (value : Bool)
  | num (value : Number)
  | str (value : String)
  | arr (items : List Json)
  | obj (members : List (String × Json))
deriving Inhabited

namespace Json

/-- The value of the last member of a name. -/
def member? (name : String) : List (String × Json) → Option Json
  | [] => none
  | (k, v) :: rest =>
    match member? name rest with
    | some w => some w
    | none => if k = name then some v else none

/-- Whether a value counts for nothing. -/
def isVoid : Json → Bool
  | null => true
  | bool b => !b
  | num x => x.isZero
  | str s => s.isEmpty
  | _ => false

/-- A member that is left out where there is no value for it. -/
def optional (name : String) (value : Option Json) : List (String × Json) :=
  match value with
  | some v => [(name, v)]
  | none => []

/-- A text member that is left out where there is no text for it. -/
def optionalText (name : String) (value : Option String) : List (String × Json) :=
  optional name (value.map .str)

/-- A natural number as a value. -/
def nat (n : Nat) : Json := .num (.ofNat n)

/-- A list of texts as a value. -/
def texts (items : List String) : Json := .arr (items.map .str)

end Json

end HttpDispatch
