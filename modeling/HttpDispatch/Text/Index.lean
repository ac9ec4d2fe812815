/-!
# Indices

An index is a number below 2^32 - 1 in decimal digits, without a sign and without a needless
zero.  Texts that are indices are ordered as numbers.
-/

namespace HttpDispatch.Text

/-- The number that a row of digits writes. -/
def digitsValue (digits : List Char) : Nat :=
  digits.foldl (fun n c => n * 10 + (c.toNat - 0x30)) 0

/-- The first number that is no index. -/
def indexLimit : Nat := 4294967295

/-- Whether a row of digits starts with a zero that it does not need. -/
def isPadded : List Char → Bool
  | '0' :: _ :: _ => true
  | _ => false

/-- The number that a text is as an index, if it is one. -/
def index? (s : String) : Option Nat :=
  let digits := s.toList
  if digits.isEmpty || !digits.all Char.isDigit || isPadded digits then none
  else if digitsValue digits < indexLimit then some (digitsValue digits)
  else none

end HttpDispatch.Text
