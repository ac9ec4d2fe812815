/-!
# Base 36

Identifiers are written with the ten digits and the twenty-six small letters.  Integers have
their usual form with a minus sign in front; a fraction, given as a numerator over 2^16, is
written by the digits after its point, without zeros at the end, so that zero is written by
nothing.
-/

namespace HttpDispatch.Base36

/-- The digit of a value below 36. -/
def digit (n : Nat) : Char :=
  if n < 10 then .ofNat (0x30 + n) else .ofNat (0x57 + n)

/-- The digits of a natural number. -/
def natDigits (n : Nat) : List Char :=
  if n < 36 then [digit n] else natDigits (n / 36) ++ [digit (n % 36)]
termination_by n
decreasing_by omega

/-- The digits of an integer, after a minus sign if it is negative. -/
def intDigits (n : Int) : List Char :=
  if n < 0 then '-' :: natDigits n.natAbs else natDigits n.natAbs

/-- The numerators over 2^16 have at most this many digits, and more are never written. -/
def fractionWidth : Nat := 13

/-- The first `width` digits after the point of `n / 65536`. -/
def fractionDigits : Nat → Nat → List Char
  | 0, _ => []
  | width + 1, n =>
    if n = 0 then [] else digit (n * 36 / 65536) :: fractionDigits width (n * 36 % 65536)

end HttpDispatch.Base36
