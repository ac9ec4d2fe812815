import HttpDispatch.Base36
import Mathlib.Algebra.Order.Ring.Int
import Mathlib.Data.List.Basic

/-!
# Reading base 36

What is written in base 36 can be read again: a natural number by its digits from the left, an
integer by its sign and the rest, and a fraction by its digits from the right, where every digit
is put in front of the numerator that the digits behind it stand for.  So no two numbers are
written in the same way (`readInt_intDigits`, `readFraction_fractionDigits`).

That a fraction is cut off after so many digits loses nothing: with every digit the numerator is
multiplied by 36 and so gains two factors of two, and what has sixteen of them is a multiple of
the denominator, behind which nothing is left to write.
-/

namespace HttpDispatch.Base36

/-! ### Digits -/

/-- A digit: one of ten figures or twenty-six small letters. -/
def IsDigit (c : Char) : Prop := ('0' ≤ c ∧ c ≤ '9') ∨ ('a' ≤ c ∧ c ≤ 'z')

instance (c : Char) : Decidable (IsDigit c) := inferInstanceAs (Decidable (_ ∨ _))

/-- What a digit stands for. -/
def value (c : Char) : Nat := if c ≤ '9' then c.toNat - 0x30 else c.toNat - 0x57

theorem isDigit_digit : ∀ {n : Nat}, n < 36 → IsDigit (digit n) := by decide

theorem value_digit : ∀ {n : Nat}, n < 36 → value (digit n) = n := by decide

/-! ### Integers -/

/-- The number that the digits stand for. -/
def readNat (digits : List Char) : Nat := digits.foldl (fun n c => n * 36 + value c) 0

theorem readNat_concat (digits : List Char) (c : Char) :
    readNat (digits ++ [c]) = readNat digits * 36 + value c := by
  rw [readNat, List.foldl_append]
  rfl

theorem readNat_natDigits (n : Nat) : readNat (natDigits n) = n := by
  fun_induction natDigits n with
  | case1 n hlt =>
    have hread : readNat [digit n] = 0 * 36 + value (digit n) := rfl
    rw [hread, value_digit hlt]
    omega
  | case2 n _ ih =>
    have hlast : n % 36 < 36 := Nat.mod_lt n (by decide)
    rw [readNat_concat, ih, value_digit hlast]
    omega

theorem natDigits_ne_nil (n : Nat) : natDigits n ≠ [] := by
  rw [natDigits]
  split
  · exact List.cons_ne_nil _ _
  · exact List.append_ne_nil_of_right_ne_nil _ (List.cons_ne_nil _ _)

theorem isDigit_of_mem_natDigits {n : Nat} {c : Char} (h : c ∈ natDigits n) : IsDigit c := by
  fun_induction natDigits n with
  | case1 n hlt => exact List.mem_singleton.1 h ▸ isDigit_digit hlt
  | case2 n _ ih =>
    rcases List.mem_append.1 h with hfirst | hlast
    · exact ih hfirst
    · exact List.mem_singleton.1 hlast ▸ isDigit_digit (Nat.mod_lt n (by decide))

/-- An integer in base 36: one or more digits, after a minus sign or without one. -/
def IsInteger (text : List Char) : Prop :=
  ∃ digits, digits ≠ [] ∧ (∀ c ∈ digits, IsDigit c) ∧ (text = digits ∨ text = '-' :: digits)

/-- The integer that a text stands for. -/
def readInt : List Char → Int
  | '-' :: digits => -readNat digits
  | digits => readNat digits

theorem readInt_of_isDigit {digits : List Char} (h : ∀ c ∈ digits, IsDigit c) :
    readInt digits = readNat digits := by
  have hnot : ∀ rest, digits ≠ '-' :: rest := by
    intro rest heq
    have hminus : IsDigit '-' := h '-' (heq ▸ List.mem_cons_self)
    exact absurd hminus (by decide)
  exact readInt.eq_2 digits hnot

theorem isInteger_intDigits (n : Int) : IsInteger (intDigits n) := by
  refine ⟨natDigits n.natAbs, natDigits_ne_nil _, fun _ => isDigit_of_mem_natDigits, ?_⟩
  rw [intDigits]
  split
  · exact .inr rfl
  · exact .inl rfl

theorem readInt_intDigits (n : Int) : readInt (intDigits n) = n := by
  rw [intDigits]
  split
  · next hneg =>
    rw [readInt, readNat_natDigits]
    omega
  · next hnonneg =>
    rw [readInt_of_isDigit fun _ => isDigit_of_mem_natDigits, readNat_natDigits]
    omega

theorem notMem_of_isInteger {text : List Char} (h : IsInteger text) {mark : Char}
    (hmark : ¬ IsDigit mark) (hminus : mark ≠ '-') : mark ∉ text := by
  obtain ⟨digits, -, hdigits, htext⟩ := h
  have hnot : mark ∉ digits := fun hmem => hmark (hdigits mark hmem)
  rcases htext with rfl | rfl
  · exact hnot
  · rw [List.mem_cons, not_or]
    exact ⟨hminus, hnot⟩

/-! ### Fractions -/

/-- The numerator over 2^16 that the digits after the point stand for. -/
def readFraction : List Char → Nat
  | [] => 0
  | c :: rest => (value c * 65536 + readFraction rest) / 36

/-- The next digit of a fraction is one. -/
theorem next_lt {n : Nat} (h : n < 65536) : n * 36 / 65536 < 36 := by omega

/-- A fraction is read again if its digits are enough to write all of it. -/
theorem readFraction_of_dvd {width n : Nat} (hlt : n < 65536) (hdvd : 65536 ∣ n * 36 ^ width) :
    readFraction (fractionDigits width n) = n := by
  induction width generalizing n with
  | zero =>
    have hzero : n = 0 := by omega
    rw [fractionDigits, readFraction, hzero]
  | succ width ih =>
    by_cases hn : n = 0
    · rw [fractionDigits, if_pos hn, readFraction, hn]
    · have hrest : 65536 ∣ n * 36 % 65536 * 36 ^ width := by
        have hsplit : n * 36 ^ (width + 1) = n * 36 * 36 ^ width := by
          rw [Nat.pow_succ', Nat.mul_assoc]
        rw [hsplit] at hdvd
        rwa [Nat.dvd_iff_mod_eq_zero, Nat.mod_mul_mod, ← Nat.dvd_iff_mod_eq_zero]
      rw [fractionDigits, if_neg hn, readFraction, value_digit (next_lt hlt),
        ih (Nat.mod_lt _ (by decide)) hrest, Nat.div_add_mod']
      omega

theorem readFraction_fractionDigits {n : Nat} (h : n < 65536) :
    readFraction (fractionDigits fractionWidth n) = n :=
  readFraction_of_dvd h (Nat.dvd_mul_left_of_dvd (by decide) n)

theorem isDigit_of_mem_fractionDigits {width n : Nat} (hlt : n < 65536) {c : Char}
    (h : c ∈ fractionDigits width n) : IsDigit c := by
  induction width generalizing n with
  | zero => exact absurd h List.not_mem_nil
  | succ width ih =>
    rw [fractionDigits] at h
    split at h
    · exact absurd h List.not_mem_nil
    · rcases List.mem_cons.1 h with hfirst | hrest
      · exact hfirst ▸ isDigit_digit (next_lt hlt)
      · exact ih (Nat.mod_lt _ (by decide)) hrest

end HttpDispatch.Base36
