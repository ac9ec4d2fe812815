import HttpDispatch.Number

/-!
# Shortest decimals

A double is written with the fewest decimal digits that still read back as it.  The reals that
round to a number form an interval, whose ends belong to it if the significand is even.  For one
digit, two digits and so on, the two neighbours of the number on that decimal grid are tested;
the first grid with a neighbour inside the interval decides, and of two neighbours inside it the
nearer one, or the even one if both are equally near.  Seventeen digits always suffice.

How the digits are laid out is a separate decision, `Layout`: up to which size a number is
written positionally, and with an exponent otherwise.
-/

namespace HttpDispatch

/-- The decimal `digits * 10 ^ exponent`. -/
structure Decimal where
  digits : Nat
  exponent : Int
deriving DecidableEq, Repr

namespace Decimal

/-- The digits of a natural number, as text. -/
def digitChars (n : Nat) : List Char := Nat.toDigits 10 n

/-- Drops trailing zeros, as many as `fuel` allows. -/
def strip : Nat → Decimal → Decimal
  | 0, d => d
  | fuel + 1, d =>
    if d.digits % 10 = 0 ∧ d.digits ≠ 0 then strip fuel ⟨d.digits / 10, d.exponent + 1⟩ else d

/-- The number `j`, from `start` on, with `den ≤ num * 10 ^ j`, if `fuel` reaches it. -/
def raise (num den : Nat) : Nat → Nat → Nat
  | 0, j => j
  | fuel + 1, j => if den ≤ num * tenPow j then j else raise num den fuel (j + 1)

/-- The exponent `e` with `10 ^ (e - 1) ≤ num / den < 10 ^ e`, for a positive fraction. -/
def pointOf (num den : Nat) : Int :=
  if den ≤ num then (digitChars (num / den)).length
  else 1 - (raise num den 400 1 : Int)

/-- The interval of a number: the ends and the number itself in a common unit, the unit as a
fraction, and whether the ends belong to it. -/
structure Interval where
  low : Nat
  value : Nat
  high : Nat
  unitNum : Nat
  unitDen : Nat
  closed : Bool

/-- The interval of reals that round to a positive finite number. -/
def intervalOf (x : Number) : Interval :=
  let m := x.significand
  let q := x.scale - 2
  { low := 4 * m - (if m = twoPow 52 ∧ -1074 < x.scale then 1 else 2)
    value := 4 * m
    high := 4 * m + 2
    unitNum := twoPow q.toNat
    unitDen := twoPow (-q).toNat
    closed := m % 2 == 0 }

namespace Interval

/-- Whether `k * 10 ^ t` lies in the interval. -/
def contains (i : Interval) (k : Nat) (t : Int) : Bool :=
  let point := k * tenPow t.toNat * i.unitDen
  let scaled (n : Nat) := n * i.unitNum * tenPow (-t).toNat
  if i.closed then scaled i.low ≤ point && point ≤ scaled i.high
  else scaled i.low < point && point < scaled i.high

/-- The nearer of `k * 10 ^ t` and the next point of the grid; the even one, if both are equally
near. -/
def nearer (i : Interval) (k : Nat) (t : Int) : Nat :=
  let p := tenPow t.toNat * i.unitDen
  let twice := 2 * (i.value * i.unitNum * tenPow (-t).toNat)
  let middle := (2 * k + 1) * p
  if twice < middle then k else if middle < twice then k + 1 else k + k % 2

/-- The best point of the grid of step `10 ^ t` inside the interval, if it has one. -/
def pick? (i : Interval) (t : Int) : Option Decimal :=
  let k := i.value * i.unitNum * tenPow (-t).toNat / (tenPow t.toNat * i.unitDen)
  match i.contains k t, i.contains (k + 1) t with
  | true, true => some ⟨i.nearer k t, t⟩
  | true, false => some ⟨k, t⟩
  | false, true => some ⟨k + 1, t⟩
  | false, false => none

/-- The first grid, from `n` digits on, that has a point inside the interval. -/
def search (i : Interval) (point : Int) : Nat → Nat → Decimal
  | 0, n =>
    let t := point - n
    ⟨i.nearer (i.value * i.unitNum * tenPow (-t).toNat / (tenPow t.toNat * i.unitDen)) t, t⟩
  | fuel + 1, n =>
    match i.pick? (point - n) with
    | some d => d
    | none => search i point fuel (n + 1)

end Interval

/-- The shortest decimal that reads back as a positive finite number. -/
def shortest (x : Number) : Decimal :=
  let i := intervalOf x
  strip 20 (i.search (pointOf (i.value * i.unitNum) i.unitDen) 17 1)

/-- Which decimals are written without an exponent: those with at most `places` digits before
the point, and those below one with at most `leadingZeros` zeros after it. -/
structure Layout where
  places : Int
  leadingZeros : Int

/-- A decimal in a layout. -/
def chars (l : Layout) (d : Decimal) : List Char :=
  let ds := digitChars d.digits
  let k : Int := ds.length
  let n := k + d.exponent
  if k ≤ n ∧ n ≤ l.places then ds ++ List.replicate (n - k).toNat '0'
  else if 0 < n ∧ n ≤ l.places then ds.take n.toNat ++ '.' :: ds.drop n.toNat
  else if -l.leadingZeros ≤ n ∧ n ≤ 0 then '0' :: '.' :: List.replicate (-n).toNat '0' ++ ds
  else
    let e := n - 1
    let mark := (if e < 0 then '-' else '+') :: digitChars e.natAbs
    match ds with
    | [c] => c :: 'e' :: mark
    | c :: rest => c :: '.' :: rest ++ 'e' :: mark
    | [] => []

/-! ### What a number is written with -/

/-- A word that a computation finds free of control characters is free of them. -/
theorem toNat_of_mem_word {w : List Char} {c : Char}
    (hw : w.all (fun c => decide (0x20 ≤ c.toNat)) = true) (h : c ∈ w) : 0x20 ≤ c.toNat :=
  of_decide_eq_true (List.all_eq_true.1 hw c h)

theorem toNat_of_mem_digitChars {n : Nat} {c : Char} (h : c ∈ digitChars n) :
    0x20 ≤ c.toNat := by
  have := Nat.isDigit_of_mem_toDigits (by decide) (by decide) h
  simp only [Char.isDigit, Bool.and_eq_true, decide_eq_true_eq] at this
  have := this.1
  rw [ge_iff_le, UInt32.le_iff_toNat_le] at this
  exact Nat.le_trans (by decide) this

theorem toNat_of_mem_chars {l : Layout} {d : Decimal} {c : Char}
    (h : c ∈ chars l d) : 0x20 ≤ c.toNat := by
  have hd : ∀ {c}, c ∈ digitChars d.digits → 0x20 ≤ c.toNat := toNat_of_mem_digitChars
  have hz : ∀ {n} {c}, c ∈ List.replicate n '0' → 0x20 ≤ c.toNat := by
    intro n c h
    rw [List.eq_of_mem_replicate h]
    decide
  simp only [Decimal.chars] at h
  split at h
  · rcases List.mem_append.1 h with h | h
    · exact hd h
    · exact hz h
  · split at h
    · rcases List.mem_append.1 h with h | h
      · exact hd (List.mem_of_mem_take h)
      · rcases List.mem_cons.1 h with rfl | h
        · decide
        · exact hd (List.mem_of_mem_drop h)
    · split at h
      · rcases List.mem_append.1 h with h | h
        · rcases List.mem_cons.1 h with rfl | h
          · decide
          · rcases List.mem_cons.1 h with rfl | h
            · decide
            · exact hz h
        · exact hd h
      · have hm : ∀ {c e}, c ∈ (if (e : Int) < 0 then '-' else '+') :: digitChars e.natAbs →
            0x20 ≤ c.toNat := by
          intro c e h
          rcases List.mem_cons.1 h with rfl | h
          · split <;> decide
          · exact toNat_of_mem_digitChars h
        generalize hds : digitChars d.digits = ds at h hd
        split at h
        · rcases List.mem_cons.1 h with rfl | h
          · exact hd List.mem_cons_self
          · rcases List.mem_cons.1 h with rfl | h
            · decide
            · exact hm h
        · rcases List.mem_cons.1 h with rfl | h
          · exact hd List.mem_cons_self
          · rcases List.mem_cons.1 h with rfl | h
            · decide
            · rcases List.mem_append.1 h with h | h
              · exact hd (List.mem_cons_of_mem _ h)
              · rcases List.mem_cons.1 h with rfl | h
                · decide
                · exact hm h
        · simp at h

end Decimal

namespace Number

/-- Numbers are written positionally below 10^21, with up to five zeros after the point. -/
def layout : Decimal.Layout := ⟨21, 5⟩

/-- The text of a number. -/
def chars (x : Number) : List Char :=
  if x.isNaN then "NaN".toList
  else if x.magnitudeBits = 0 then ['0']
  else
    (if x.isNegative then ['-'] else []) ++
      (if x.isInfinite then "Infinity".toList else (Decimal.shortest x).chars layout)

/-- The text of a number. -/
def text (x : Number) : String := String.ofList x.chars

/-- A number is written without control characters. -/
theorem toNat_of_mem_chars {x : Number} {c : Char} (h : c ∈ x.chars) : 0x20 ≤ c.toNat := by
  rw [chars] at h
  split at h
  · exact Decimal.toNat_of_mem_word (by decide) h
  · split at h
    · exact Decimal.toNat_of_mem_word (by decide) h
    · rcases List.mem_append.1 h with h | h
      · split at h
        · exact Decimal.toNat_of_mem_word (by decide) h
        · simp at h
      · split at h
        · exact Decimal.toNat_of_mem_word (by decide) h
        · exact Decimal.toNat_of_mem_chars h

end Number

end HttpDispatch
