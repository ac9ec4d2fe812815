/-!
# Hexadecimal digits

Escapes in request targets and in JSON texts name numbers by hexadecimal digits.  Both cases of
the letters are read; which case is written is the writer's choice.
-/

namespace HttpDispatch.Text

/-- The value of a hexadecimal digit. -/
def hexValue? (c : Char) : Option Nat :=
  let n := c.toNat
  if 0x30 ≤ n ∧ n ≤ 0x39 then some (n - 0x30)
  else if 0x41 ≤ n ∧ n ≤ 0x46 then some (n - 0x37)
  else if 0x61 ≤ n ∧ n ≤ 0x66 then some (n - 0x57)
  else none

/-- The digit of a value below sixteen, in capitals. -/
def hexDigitUpper (n : Nat) : Char :=
  if n < 10 then .ofNat (0x30 + n) else .ofNat (0x37 + n)

/-- The digit of a value below sixteen, in small letters. -/
def hexDigitLower (n : Nat) : Char :=
  if n < 10 then .ofNat (0x30 + n) else .ofNat (0x57 + n)

theorem hexValue?_hexDigitUpper : ∀ n, n < 16 → hexValue? (hexDigitUpper n) = some n := by
  decide

theorem hexValue?_hexDigitLower : ∀ n, n < 16 → hexValue? (hexDigitLower n) = some n := by
  decide

end HttpDispatch.Text
