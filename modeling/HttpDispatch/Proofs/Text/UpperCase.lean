import HttpDispatch.Http.Method
import Mathlib.Algebra.Group.Nat.Defs
import Mathlib.Data.List.Basic

/-!
# Upper case is final

Nothing that an upper case is made of has an upper case of its own, and none of it is a blank
(`upperChar_of_mem`).  So a text in upper case stays as it is in upper case (`upper_upper`), and
upper-casing brings no blank to the ends of a trimmed text.  Main statement: the canonical form of
a method token is its own canonical form (`normalize_normalize`).

About the tables this is one fact: the characters that occur in upper cases are apart from those
that are mapped and from the blanks (`images_apart`).  Two lists of numbers are compared here as sets
of bits, since comparing their members pair by pair would take long.
-/

namespace HttpDispatch.Text

/-! ### Numbers as bits -/

/-- The number that has these bits. -/
def bits : List Nat → Nat
  | [] => 0
  | n :: ns => 2 ^ n ||| bits ns

theorem testBit_bits {n : Nat} {ns : List Nat} : (bits ns).testBit n = true ↔ n ∈ ns := by
  induction ns with
  | nil => simp [bits]
  | cons m ns ih =>
    rw [bits, Nat.testBit_or, Bool.or_eq_true, ih, Nat.testBit_two_pow, decide_eq_true_eq,
      List.mem_cons, eq_comm]

/-- Lists without a common bit have no common member. -/
theorem notMem_of_bits {ms ns : List Nat} (h : bits ms &&& bits ns = 0) {n : Nat} (hn : n ∈ ms) :
    n ∉ ns := by
  intro hn'
  have hbit : (bits ms &&& bits ns).testBit n = true := by
    rw [Nat.testBit_and, testBit_bits.2 hn, testBit_bits.2 hn']
    rfl
  rw [h, Nat.zero_testBit] at hbit
  exact absurd hbit (by decide)

/-! ### What a mapping reads and writes -/

namespace CaseRun

/-- The code points that the run pairs. -/
def sources (r : CaseRun) : List Nat := List.range' r.source r.count r.step

/-- Their partners. -/
def images (r : CaseRun) : List Nat := List.range' r.target r.count r.step

/-- A code point that the run pairs is some steps behind the first one. -/
theorem exists_of_covers {r : CaseRun} (hr : 0 < r.count) {n : Nat} (h : r.covers n = true) :
    ∃ k < r.count, n - r.source = r.step * k ∧ r.source ≤ n := by
  simp only [covers, Bool.and_eq_true, decide_eq_true_eq, beq_iff_eq] at h
  obtain ⟨⟨hlow, hhigh⟩, hmod⟩ := h
  obtain ⟨k, hk⟩ := Nat.dvd_of_mod_eq_zero hmod
  rcases Nat.eq_zero_or_pos r.step with hstep | hstep
  · refine ⟨0, hr, ?_, hlow⟩
    rw [hk, hstep, Nat.zero_mul, Nat.zero_mul]
  · refine ⟨k, ?_, hk, hlow⟩
    have hle : r.step * k ≤ r.step * (r.count - 1) := by
      rw [← hk, Nat.mul_comm]
      omega
    have hk' : k ≤ r.count - 1 := Nat.le_of_mul_le_mul_left hle hstep
    omega

theorem mem_sources {r : CaseRun} (hr : 0 < r.count) {n : Nat} (h : r.covers n = true) :
    n ∈ r.sources := by
  obtain ⟨k, hk, hn, hlow⟩ := exists_of_covers hr h
  exact List.mem_range'.2 ⟨k, hk, by omega⟩

theorem image_mem_images {r : CaseRun} (hr : 0 < r.count) {n : Nat} (h : r.covers n = true) :
    r.image n ∈ r.images := by
  obtain ⟨k, hk, hn, -⟩ := exists_of_covers hr h
  exact List.mem_range'.2 ⟨k, hk, by rw [image, hn]⟩

end CaseRun

/-- The code points that a mapping changes. -/
def sources (runs : List CaseRun) (expansions : List (Nat × List Nat)) : List Nat :=
  runs.flatMap CaseRun.sources ++ expansions.map (·.1)

/-- The code points that a mapping puts in their place. -/
def images (runs : List CaseRun) (expansions : List (Nat × List Nat)) : List Nat :=
  runs.flatMap CaseRun.images ++ expansions.flatMap (·.2)

section Mapping

variable {runs : List CaseRun} {expansions : List (Nat × List Nat)}

theorem mapCodePoint_of_notMem (hr : ∀ r ∈ runs, 0 < r.count) {n : Nat}
    (h : n ∉ sources runs expansions) : mapCodePoint runs expansions n = [n] := by
  obtain ⟨hruns, hexpansions⟩ := not_or.1 (mt List.mem_append.2 h)
  have hlookup : expansions.lookup n = none := by
    rw [List.lookup_eq_none_iff]
    rintro e he
    rw [bne_iff_ne]
    rintro rfl
    exact hexpansions (List.mem_map_of_mem he)
  have hfind : runs.find? (·.covers n) = none := by
    rw [List.find?_eq_none]
    intro r hmem hcov
    exact hruns (List.mem_flatMap.2 ⟨r, hmem, CaseRun.mem_sources (hr r hmem) hcov⟩)
  simp only [mapCodePoint, hlookup, hfind]

/-- What a mapping answers it has in its tables, or else it leaves the code point as it is. -/
theorem mem_images_or_eq (hr : ∀ r ∈ runs, 0 < r.count) {m n : Nat}
    (h : m ∈ mapCodePoint runs expansions n) :
    m ∈ images runs expansions ∨ m = n ∧ mapCodePoint runs expansions n = [n] := by
  rw [mapCodePoint] at h ⊢
  cases hlookup : expansions.lookup n with
  | some image =>
    rw [hlookup] at h
    obtain ⟨before, after, rfl, -⟩ := List.lookup_eq_some_iff.1 hlookup
    exact .inl (List.mem_append_right _ (List.mem_flatMap.2 ⟨(n, image), by simp, h⟩))
  | none =>
    cases hfind : runs.find? (·.covers n) with
    | some r =>
      simp only [hlookup, hfind, List.mem_singleton] at h
      have hmem := List.mem_of_find?_eq_some hfind
      have hcov : r.covers n = true := by simpa using List.find?_some hfind
      have himage := CaseRun.image_mem_images (hr r hmem) hcov
      exact .inl (List.mem_append_left _ (List.mem_flatMap.2 ⟨r, hmem, h ▸ himage⟩))
    | none =>
      simp only [hlookup, hfind, List.mem_singleton] at h
      exact .inr ⟨h, rfl⟩

end Mapping

/-! ### The tables of the upper case -/

/-- The code points of the blanks. -/
def blanks : List Nat :=
  List.range' 0x09 5 ++ List.range' 0x2000 11 ++
    [0x20, 0xA0, 0x1680, 0x2028, 0x2029, 0x202F, 0x205F, 0x3000, 0xFEFF]

theorem toNat_mem_blanks {c : Char} (h : isBlank c = true) : c.toNat ∈ blanks := by
  simp only [isBlank, Bool.or_eq_true, Bool.and_eq_true, decide_eq_true_eq, beq_iff_eq] at h
  simp only [blanks, List.mem_append, List.mem_range'_1, List.mem_cons, List.not_mem_nil, or_false]
  omega

theorem count_pos_of_mem_upperRuns : ∀ r ∈ upperRuns, 0 < r.count := by decide +kernel

theorem expansion_ne_nil : ∀ e ∈ upperExpansions, e.2 ≠ [] := by decide +kernel

theorem images_valid : ∀ n ∈ images upperRuns upperExpansions, n.isValidChar := by
  decide +kernel

theorem images_apart :
    bits (images upperRuns upperExpansions) &&&
      bits (sources upperRuns upperExpansions ++ blanks) = 0 := by
  decide +kernel

theorem upperChar_ne_nil (c : Char) : upperChar c ≠ [] := by
  rw [upperChar, mapCodePoint, ne_eq, List.map_eq_nil_iff]
  cases hlookup : upperExpansions.lookup c.toNat with
  | some image =>
    obtain ⟨before, after, hlist, -⟩ := List.lookup_eq_some_iff.1 hlookup
    exact expansion_ne_nil (c.toNat, image) (by rw [hlist]; simp)
  | none => cases upperRuns.find? (·.covers c.toNat) <;> exact List.cons_ne_nil _ _

/-- What an upper case is made of has no other upper case, and is no blank where the character was
none. -/
theorem upperChar_of_mem {c d : Char} (h : d ∈ upperChar c) :
    upperChar d = [d] ∧ (isBlank c = false → isBlank d = false) := by
  obtain ⟨n, hn, rfl⟩ := List.mem_map.1 h
  rcases mem_images_or_eq count_pos_of_mem_upperRuns hn with himage | ⟨rfl, hself⟩
  · have hchar : (Char.ofNat n).toNat = n := by
      rw [Char.ofNat, dif_pos (images_valid n himage)]
      rfl
    obtain ⟨hsource, hblank⟩ := not_or.1 (mt List.mem_append.2 (notMem_of_bits images_apart himage))
    constructor
    · rw [upperChar, hchar, mapCodePoint_of_notMem count_pos_of_mem_upperRuns hsource]
      rfl
    · intro _
      refine eq_false_of_ne_true fun hb => hblank ?_
      rw [← hchar]
      exact toNat_mem_blanks hb
  · rw [Char.ofNat_toNat]
    exact ⟨by rw [upperChar, hself, List.map_singleton, Char.ofNat_toNat], id⟩

/-- A text in upper case is its own upper case. -/
theorem upper_upper (s : String) : upper (upper s) = upper s := by
  have hown : ∀ c : Char, (upperChar c).flatMap upperChar = upperChar c := by
    intro c
    rw [List.flatMap_congr fun d hd => (upperChar_of_mem hd).1]
    exact List.flatMap_singleton' _
  rw [upper, upper, String.toList_ofList, List.flatMap_assoc,
    List.flatMap_congr fun c _ => hown c]

/-! ### Trimming -/

theorem trimChars_getLast {cs : List Char} {c : Char} (h : (trimChars cs).getLast? = some c) :
    isBlank c = false := by
  rw [trimChars, trimEndChars, List.getLast?_reverse] at h
  have hnot := List.head?_dropWhile_not isBlank (cs.dropWhile isBlank).reverse
  rw [h] at hnot
  simpa using hnot

/-- There is nothing to trim where neither end is a blank. -/
theorem trimChars_eq_self {cs : List Char} (hhead : ∀ c, cs.head? = some c → isBlank c = false)
    (hlast : ∀ c, cs.getLast? = some c → isBlank c = false) : trimChars cs = cs := by
  have hdrop : ∀ l : List Char, (∀ c, l.head? = some c → isBlank c = false) →
      l.dropWhile isBlank = l := by
    intro l hl
    cases l with
    | nil => rfl
    | cons c l => rw [List.dropWhile_cons, hl c rfl, if_neg (by decide)]
  rw [trimChars, hdrop cs hhead, trimEndChars, hdrop cs.reverse, List.reverse_reverse]
  intro c hc
  rw [List.head?_reverse] at hc
  exact hlast c hc

/-- Upper-casing brings no blank to the ends of a trimmed text. -/
theorem trim_upper_trim (s : String) : trim (upper (trim s)) = upper (trim s) := by
  rw [trim, upper, trim, String.toList_ofList, String.toList_ofList]
  refine congrArg String.ofList (trimChars_eq_self ?_ ?_)
  · intro d hd
    cases hcs : trimChars s.toList with
    | nil => simp [hcs] at hd
    | cons c cs =>
      have hsolid : isBlank c = false := trimChars_head (by rw [hcs]; rfl)
      rw [hcs, List.flatMap_cons, List.head?_append_of_ne_nil _ (upperChar_ne_nil c)] at hd
      exact (upperChar_of_mem (List.mem_of_mem_head? hd)).2 hsolid
  · intro d hd
    rcases List.eq_nil_or_concat' (trimChars s.toList) with hcs | ⟨cs, c, hcs⟩
    · simp [hcs] at hd
    · have hsolid : isBlank c = false := trimChars_getLast (by rw [hcs]; simp)
      rw [hcs, List.flatMap_append, List.flatMap_singleton,
        List.getLast?_append_of_ne_nil _ (upperChar_ne_nil c)] at hd
      exact (upperChar_of_mem (List.mem_of_getLast? hd)).2 hsolid

end HttpDispatch.Text

namespace HttpDispatch.Method

/-- The canonical form of a token is its own canonical form. -/
theorem normalize_normalize (token : String) : normalize (normalize token) = normalize token := by
  rw [normalize, normalize, Text.trim_upper_trim, Text.upper_upper]

end HttpDispatch.Method
