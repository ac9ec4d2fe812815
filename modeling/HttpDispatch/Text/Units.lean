/-!
# Units

Where the length of a text matters, it is counted in units of sixteen bits: a character beyond
U+FFFF counts as two.
-/

namespace HttpDispatch.Text

/-- The units of a character. -/
def units (c : Char) : Nat := if c.toNat < 0x10000 then 1 else 2

/-- The units of a text. -/
def unitCount : List Char → Nat
  | [] => 0
  | c :: rest => units c + unitCount rest

/-- The longest beginning of a text that has no more units than this. -/
def takeUnits (limit : Nat) : List Char → List Char
  | [] => []
  | c :: rest => if units c ≤ limit then c :: takeUnits (limit - units c) rest else []

end HttpDispatch.Text
