import HttpDispatch.Http.Params
import HttpDispatch.Text.Blank

/-!
# Headers

The headers of a request are names, in small letters, and the values that came under them, in the
order in which they came.  A name is a token of ASCII; a value has no character above U+00FF and
no line break or NUL, once the blanks around it are gone.  Of several values under one name the
header is all of them in a row, with a comma between them, or a semicolon in a cookie.

Headers arrive one after the other or as the members of a record.  The reserved key is no member
of a record: its value must be one that headers can be written in, and is then passed over.

Listed, the headers are sorted by name, and each cookie that is set is listed for itself.
-/

namespace HttpDispatch

/-- Headers as they arrive. -/
inductive HeadersInit
  /-- One after the other. -/
  | list (headers : List (String × String))
  /-- The members of a record. -/
  | record (members : List (String × String))

/-- Names in small letters and trimmed values, in order of arrival. -/
structure Headers where
  entries : List (String × String)
deriving DecidableEq, Repr

namespace Headers

/-- The marks that a header name may hold beside letters and digits. -/
def nameMarks : List Char :=
  ['!', '#', '$', '%', '&', '\'', '*', '+', '-', '.', '^', '_', '\u0060', '|', '~']

/-- Whether a text is a header name. -/
def isName (name : String) : Bool :=
  !name.isEmpty && name.toList.all fun c => c.isAlphanum || nameMarks.contains c

/-- The blanks around a value that do not belong to it. -/
def isPadding (c : Char) : Bool :=
  c = '\t' || c = '\n' || c = '\r' || c = ' '

/-- A value without the blanks around it. -/
def trimValue (value : String) : String :=
  String.ofList
    ((value.toList.dropWhile isPadding).reverse.dropWhile isPadding).reverse

/-- Whether a text can be written with one octet for each character. -/
def isOctets (s : String) : Bool := s.toList.all fun c => c.toNat ≤ 0xFF

/-- Whether a trimmed text is a header value. -/
def isValue (value : String) : Bool :=
  isOctets value && value.toList.all fun c => c != '\x00' && c != '\r' && c != '\n'

/-- A name in small letters. -/
def lowerName (name : String) : String :=
  String.ofList (name.toList.map Char.toLower)

/-- One header as it is kept, if it is valid. -/
def entry? (name value : String) : Option (String × String) :=
  if isName name && isValue (trimValue value) then some (lowerName name, trimValue value)
  else none

/-- The headers given by a list, if all are valid. -/
def ofList? (headers : List (String × String)) : Option Headers :=
  (headers.mapM fun h => entry? h.1 h.2).map Headers.mk

/-- The headers given by the members of a record, if all are valid. -/
def ofRecord? (members : List (String × String)) : Option Headers :=
  if members.all fun m => isOctets m.2 then
    ofList? (members.filter fun m => m.1 != Params.reserved)
  else none

/-- The headers of what arrived, if all are valid. -/
def ofInit? : HeadersInit → Option Headers
  | .list headers => ofList? headers
  | .record members => ofRecord? members

/-- What stands between two values under one name. -/
def separator (name : String) : String :=
  if name = "cookie" then "; " else ", "

/-- The values under a name in small letters. -/
def values (h : Headers) (name : String) : List String :=
  (h.entries.filter (·.1 == name)).map (·.2)

/-- The header of a name in small letters. -/
def get? (h : Headers) (name : String) : Option String :=
  match h.values name with
  | [] => none
  | vs => some (String.intercalate (separator name) vs)

/-- The header of a name, or nothing where the name is not valid. -/
def lookup? (h : Headers) (name : String) : Option (Option String) :=
  if isName name then some (h.get? (lowerName name)) else none

/-- The header that lists one value for each of its entries. -/
def listedApart : String := "set-cookie"

/-- The headers of one name, as they are listed. -/
def listed (h : Headers) (name : String) : List (String × String) :=
  if name = listedApart then (h.values name).map fun v => (name, v)
  else [(name, String.intercalate (separator name) (h.values name))]

/-- The names of the headers, sorted. -/
def names (h : Headers) : List String :=
  ((h.entries.map (·.1)).eraseDups).mergeSort fun a b => decide (a ≤ b)

/-- The headers, sorted by name. -/
def toList (h : Headers) : List (String × String) :=
  h.names.flatMap h.listed

end Headers

end HttpDispatch
