/-!
# Numbers

A number is an IEEE 754 double, held as its 64 bits, so that equal numbers are equal values and
negative zero is not zero.  A finite number is a fraction whose denominator is a power of two,
and everything here is done on fractions of natural numbers: `magnitudeRatio` gives the fraction,
`ofRatio` rounds any fraction to the nearest number, of two that are equally near to the one
with an even last bit.
-/

namespace HttpDispatch

/-- A power of two. -/
def twoPow (n : Nat) : Nat := Nat.pow 2 n

/-- A power of ten. -/
def tenPow (n : Nat) : Nat := Nat.pow 10 n

/-- A double. -/
structure Number where
  bits : UInt64
deriving DecidableEq, Repr

namespace Number

/-- The bits without the sign. -/
def magnitudeBits (x : Number) : Nat := x.bits.toNat % twoPow 63

/-- Whether the sign bit is set. -/
def isNegative (x : Number) : Bool := twoPow 63 ≤ x.bits.toNat

/-- The bits of infinity. -/
def infinityBits : Nat := 2047 * twoPow 52

def isNaN (x : Number) : Bool := infinityBits < x.magnitudeBits

def isInfinite (x : Number) : Bool := x.magnitudeBits == infinityBits

def isFinite (x : Number) : Bool := x.magnitudeBits < infinityBits

/-- Whether the number is zero, of either sign. -/
def isZero (x : Number) : Bool := x.magnitudeBits == 0

/-- The number with this sign and these bits. -/
def ofBits (negative : Bool) (magnitude : Nat) : Number :=
  ⟨.ofNat ((if negative then twoPow 63 else 0) + magnitude)⟩

def zero : Number := ofBits false 0

def negativeZero : Number := ofBits true 0

def infinity (negative : Bool) : Number := ofBits negative infinityBits

def nan : Number := ofBits false (infinityBits + twoPow 51)

instance : Inhabited Number := ⟨zero⟩

/-- The integer `m` for which a finite number has the magnitude `m * 2 ^ q`. -/
def significand (x : Number) : Nat :=
  if x.magnitudeBits < twoPow 52 then x.magnitudeBits else twoPow 52 + x.magnitudeBits % twoPow 52

/-- The integer `q` for which a finite number has the magnitude `m * 2 ^ q`. -/
def scale (x : Number) : Int :=
  (max (x.magnitudeBits / twoPow 52) 1 : Nat) - (1075 : Int)

/-- The magnitude of a finite number as a numerator and a denominator. -/
def magnitudeRatio (x : Number) : Nat × Nat :=
  (x.significand * twoPow x.scale.toNat, twoPow (-x.scale).toNat)

/-- The quotient rounded to the nearest integer, a half to the even one. -/
def roundDiv (num den : Nat) : Nat :=
  let q := num / den
  let twice := 2 * (num % den)
  if twice < den then q
  else if den < twice then q + 1
  else q + q % 2

/-- The largest `e` with `2 ^ e ≤ num / den`, for a positive fraction. -/
def binaryExponent (num den : Nat) : Int :=
  let e : Int := (Nat.log2 num : Int) - Nat.log2 den
  if den * twoPow e.toNat ≤ num * twoPow (-e).toNat then e else e - 1

/-- The number nearest to a fraction, with a sign. -/
def ofRatio (negative : Bool) (num den : Nat) : Number :=
  if num = 0 ∨ den = 0 then ofBits negative 0
  else
    let e := max (binaryExponent num den - 52) (-1074)
    let m := roundDiv (num * twoPow (-e).toNat) (den * twoPow e.toNat)
    ofBits negative (min ((e + 1074).toNat * twoPow 52 + m) infinityBits)

/-- The number nearest to `digits * 10 ^ exponent`.  Exponents so large or so small that nothing
but infinity or zero is near are cut off first. -/
def ofDecimal (negative : Bool) (digits : Nat) (exponent : Int) : Number :=
  if digits = 0 then ofBits negative 0
  else
    let size : Int := (Nat.log2 digits : Int) / 3
    if 400 < exponent then infinity negative
    else if exponent + size < -800 then ofBits negative 0
    else ofRatio negative (digits * tenPow exponent.toNat) (tenPow (-exponent).toNat)

/-- The number nearest to a natural number. -/
def ofNat (n : Nat) : Number := ofRatio false n 1

/-- The integer that a number is, if it is one. -/
def toInt? (x : Number) : Option Int :=
  if x.isFinite then
    let (num, den) := x.magnitudeRatio
    if num % den = 0 then
      some (if x.isNegative then -((num / den : Nat) : Int) else ((num / den : Nat) : Int))
    else none
  else none

/-- The number one greater, rounded. -/
def succ (x : Number) : Number :=
  if x.isFinite then
    let (num, den) := x.magnitudeRatio
    if x.isNegative then
      if den ≤ num then
        if num = den then zero else ofRatio true (num - den) den
      else ofRatio false (den - num) den
    else ofRatio false (num + den) den
  else x

end Number

end HttpDispatch
