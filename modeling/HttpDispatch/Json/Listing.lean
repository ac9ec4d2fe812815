import HttpDispatch.Dict
import HttpDispatch.Json

/-!
# The order of members

An object that is read from a text keeps its members as a dictionary does: of two members of one
name the later one holds, and members whose names are indices come first.  `listed` brings a value
and all that is in it into this order, in which it will be written again.
-/

namespace HttpDispatch.Json

mutual

/-- The value with the members of every object in the order in which they are listed. -/
def listed : Json → Json
  | arr items => .arr (listedItems items)
  | obj members => .obj (Dict.ofList (listedMembers members)).listed
  | null => .null
  | bool b => .bool b
  | num x => .num x
  | str s => .str s

/-- The items of an array, each brought into order. -/
def listedItems : List Json → List Json
  | [] => []
  | v :: rest => v.listed :: listedItems rest

/-- The members of an object, the value of each brought into order. -/
def listedMembers : List (String × Json) → List (String × Json)
  | [] => []
  | (k, v) :: rest => (k, v.listed) :: listedMembers rest

end

end HttpDispatch.Json
