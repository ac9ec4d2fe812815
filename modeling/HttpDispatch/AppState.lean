import HttpDispatch.Dict
import HttpDispatch.Failure.Value.Data
import HttpDispatch.Http.Params
import HttpDispatch.Text.Units

/-!
# The state of an application

An application may have a state, which is data: all its handlers see it, on every connection, and
may count in it.  `bump` adds one to a member.  The members of a list are its items and its length:
counting beyond the end fills the list up with nulls, and counting in the length appends one.  In
a state that is neither an object nor a list there is nothing to count in, and counting fails.

Counting goes by what a member is.  One that is missing or null starts at one, a number or a truth
goes on from there, and anything else is converted to text, with one written behind it.
-/

namespace HttpDispatch

/-- The state that an application hands to its handlers; an application may have none. -/
structure AppState where
  value : Option Json
deriving Inhabited

/-- Why counting fails. -/
inductive BumpError
  /-- There is no state, or it is null. -/
  | noState (written key : String)
  /-- The state is a text, a number or a truth, which takes no members. -/
  | noMembers (kind written key : String)
  /-- The state is a text, and the member is one that texts have. -/
  | readOnly (written key : String)
  /-- The member does not convert to text. -/
  | unconvertible
deriving DecidableEq, Repr

namespace BumpError

/-- The message of the error. -/
def message : BumpError → String
  | noState written key =>
    "Cannot read properties of " ++ written ++ " (reading '" ++ key ++ "')"
  | noMembers kind written key =>
    "Cannot create property '" ++ key ++ "' on " ++ kind ++ " '" ++ written ++ "'"
  | readOnly written key =>
    "Cannot assign to read only property '" ++ key ++ "' of string '" ++ written ++ "'"
  | unconvertible => "Cannot convert object to primitive value"

/-- The error as a value that can be thrown. -/
def toValue (e : BumpError) : Value := .error (some "TypeError") e.message none

end BumpError

namespace AppState

/-- One more than a member. -/
def oneMore : Json → Except BumpError Json
  | .null => .ok (.nat 1)
  | .num x => .ok (.num x.succ)
  | .bool b => .ok (.nat (if b then 2 else 1))
  | member =>
    match (Value.ofData member).text? with
    | some s => .ok (.str (s ++ "1"))
    | none => .error .unconvertible

/-- The functions that every object has as members, unless it has others of their names. -/
def methodNames : List String :=
  ["__defineGetter__", "__defineSetter__", "__lookupGetter__", "__lookupSetter__",
    "hasOwnProperty", "isPrototypeOf", "propertyIsEnumerable", "toLocaleString", "toString",
    "valueOf"]

/-- A function in its written form. -/
def functionText (name : String) : String := "function " ++ name ++ "() \x7b [native code] \x7d"

/-- The member of an object that has none of this name. -/
def missing (key : String) : Json :=
  if methodNames.contains key then .str (functionText key)
  else if key = "constructor" then .str (functionText "Object")
  else .null

/-- Counts in the members of an object.  The reserved key is no member unless it is one already. -/
def bumpMembers (key : String) (members : List (String × Json)) :
    Except BumpError (List (String × Json)) :=
  let d : Dict Json := ⟨members⟩
  if key = Params.reserved && !d.contains key then .ok members
  else do return (d.set key (← oneMore ((d.get? key).getD (missing key)))).entries

/-- The name of the length of a list or a text. -/
def lengthKey : String := "length"

/-- Counts in the items of a list. -/
def bumpItems (key : String) (items : List Json) : Except BumpError (List Json) :=
  match Text.index? key with
  | some n => do
    let item ← oneMore (items[n]?.getD .null)
    return (items ++ List.replicate (n + 1 - items.length) Json.null).set n item
  | none => .ok (if key = lengthKey then items ++ [.null] else items)

/-- Whether texts of this content have a member of this name. -/
def isTextMember (s key : String) : Bool :=
  key = lengthKey || (Text.index? key).any (· < Text.unitCount s.toList)

/-- Adds one to a member of a state. -/
def bump (key : String) (s : AppState) : Except BumpError AppState :=
  match s.value with
  | none => .error (.noState "undefined" key)
  | some .null => .error (.noState "null" key)
  | some (.obj members) => do return ⟨some (.obj (← bumpMembers key members))⟩
  | some (.arr items) => do return ⟨some (.arr (← bumpItems key items))⟩
  | some primitive =>
    if key = Params.reserved then .ok s
    else
      match primitive with
      | .str text =>
        .error (if isTextMember text key then .readOnly text key
          else .noMembers "string" text key)
      | .num x => .error (.noMembers "number" x.text key)
      | .bool b => .error (.noMembers "boolean" (if b then "true" else "false") key)
      | _ => .ok s

end AppState

end HttpDispatch
