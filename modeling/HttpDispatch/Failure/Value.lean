import HttpDispatch.Number.Shortest
import HttpDispatch.Failure.Report

/-!
# Dynamic values

A handler may fail with any value of a dynamically typed world: not only with an error, but with
a text, a number, a list, or an object that converts itself to text in its own way or refuses to.
`Value` is that world as far as a failure can be told apart, and `display` is the text by which
a failure is reported.

An error is reported by its message and a text as it is.  Any other value is converted to text,
and where the conversion fails, the value is reported by its tag: `[object <tag>]`.  Conversion
fails for an object without conversions, for one whose own conversions throw or yield no
primitive, and for a list one of whose items, at any depth, fails to convert.  A symbol converts
only where it stands alone.
-/

namespace HttpDispatch

/-- What a conversion comes to when it is asked: it yields a value or throws one. -/
inductive Conversion (α : Type)
  | yields (v : α)
  | throws (v : α)

/-- A dynamic value. -/
inductive Value
  | undefined
  | null
  | bool (b : Bool)
  | text (s : String)
  | number (x : Number)
  | bigint (n : Int)
  | symbol (description : Option String)
  | array (items : List Value)
  /-- An object with the common conversions, and a tag of its own or not. -/
  | object (tag : Option String)
  /-- An object without conversions. -/
  | bare (tag : Option String)
  /-- An object with conversions of its own: one to text, and one to a primitive, which is asked
  where the first yields an object.  Where it has none of its own, the common one stands. -/
  | selfConverting (toText toPrimitive : Option (Conversion Value)) (tag : Option String)
  /-- An object that looks like a promise, but has nothing to ask. -/
  | inert
  /-- An error, with a name of its own or the common one. -/
  | error (ownName : Option String) (message : String) (stack : Option String)
  /-- An error that the platform itself raises, known by its name alone. -/
  | platformError (name : String)
  /-- An error of this library, and what caused it: `undefined`, if nothing did. -/
  | fault (report : Report) (cause : Value)
deriving Inhabited

namespace Value

/-- An object whose own conversion to text yields a value. -/
def converting (yielded : Value) (tag : Option String) : Value :=
  .selfConverting (some (.yields yielded)) none tag

/-- An object whose own conversion to text throws. -/
def refusing (thrown : Value) (tag : Option String) : Value :=
  .selfConverting (some (.throws thrown)) none tag

/-- Whether a value is no object. -/
def isPrimitive : Value → Bool
  | undefined | null | bool _ | text _ | number _ | bigint _ | symbol _ => true
  | _ => false

/-- Whether a value counts for nothing. -/
def isVoid : Value → Bool
  | undefined | null => true
  | bool b => !b
  | text s => s.isEmpty
  | number x => x.isZero || x.isNaN
  | bigint n => n == 0
  | _ => false

/-- The name of an error that has none of its own. -/
def commonErrorName : String := "Error"

/-- Whether a value is an error of any kind. -/
def isError : Value → Bool
  | error .. | platformError _ | fault .. => true
  | _ => false

/-- Whether a value is an error of this library. -/
def isFault : Value → Bool
  | fault .. => true
  | _ => false

/-- The tag by which a value is reported if it does not convert to text. -/
def tag : Value → String
  | array _ => "Array"
  | object t | bare t | selfConverting _ _ t => t.getD "Object"
  | inert => "Object"
  | error .. | platformError _ | fault .. => "Error"
  | undefined => "Undefined"
  | null => "Null"
  | bool _ => "Boolean"
  | text _ => "String"
  | number _ => "Number"
  | bigint _ => "BigInt"
  | symbol _ => "Symbol"

/-- A tag in its written form. -/
def tagged (tag : String) : String := "[object " ++ tag ++ "]"

/-- The text of a primitive, unless it is a symbol. -/
def primitiveText? : Value → Option String
  | undefined => some "undefined"
  | null => some "null"
  | bool b => some (if b then "true" else "false")
  | text s => some s
  | number x => some x.text
  | bigint n => some (toString n)
  | _ => none

/-- The text of what a conversion yields, unless it throws or yields no primitive with a text. -/
def yieldedText? : Conversion Value → Option String
  | .yields v => v.primitiveText?
  | .throws _ => none

/-- The text of an object that has a conversion to text of its own: that of the first primitive that
its conversions yield. -/
def ownText? (toText : Conversion Value) (toPrimitive : Option (Conversion Value)) :
    Option String :=
  match toText with
  | .throws _ => none
  | .yields v => if v.isPrimitive then v.primitiveText? else toPrimitive.bind yieldedText?

mutual

/-- The text that a value converts to where it is part of another text. -/
def text? : Value → Option String
  | array items => (itemTexts? items).map (String.intercalate ",")
  | object t | selfConverting none _ t => some (tagged (t.getD "Object"))
  | selfConverting (some toText) toPrimitive _ => ownText? toText toPrimitive
  | bare _ => none
  | inert => some (tagged "Object")
  | error ownName message _ => some (Report.headline (ownName.getD commonErrorName) message)
  | platformError name => some name
  | fault r _ => some (Report.headline Report.errorName r.message)
  | v => primitiveText? v

/-- The texts of the items of a list; an item that is nothing has an empty text. -/
def itemTexts? : List Value → Option (List String)
  | [] => some []
  | undefined :: rest => (itemTexts? rest).map ("" :: ·)
  | null :: rest => (itemTexts? rest).map ("" :: ·)
  | v :: rest =>
    match text? v with
    | some s => (itemTexts? rest).map (s :: ·)
    | none => none

end

/-- The text by which a value is reported as a failure. -/
def display : Value → String
  | error _ message _ => message
  | platformError _ => ""
  | fault r _ => r.message
  | symbol description => "Symbol(" ++ description.getD "" ++ ")"
  | v => (text? v).getD (tagged v.tag)

@[simp] theorem display_text (s : String) : display (.text s) = s := rfl

@[simp] theorem display_error (ownName : Option String) (message : String)
    (stack : Option String) : display (.error ownName message stack) = message := rfl

@[simp] theorem display_fault (r : Report) (cause : Value) :
    display (.fault r cause) = r.message := rfl

end Value

end HttpDispatch
