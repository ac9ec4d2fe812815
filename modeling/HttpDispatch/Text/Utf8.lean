/-!
# UTF-8

`encodeChar` writes a character as one to four octets.  Reading goes by `next`, which takes one
character off the front of a list of octets; where the octets there begin no character, it takes
the longest piece that could have begun one, or a single octet.  A strict reader (`decode?`)
refuses such a piece, a lenient one (`decodeLossy`) puts the replacement character U+FFFD in its
place.  Overlong forms, surrogates and numbers beyond U+10FFFF begin no character: the first
octet fixes a range for the second that leaves them out.

Main statement: what is written reads back, whatever follows (`next_encodeChar_append`), so both
readers undo writing (`decode?_encode`, `decodeLossy_encode`).
-/

namespace HttpDispatch.Utf8

/-- The octets of a character. -/
def encodeChar (c : Char) : List UInt8 :=
  let n := c.toNat
  if n < 0x80 then [.ofNat n]
  else if n < 0x800 then [.ofNat (0xC0 + n / 64), .ofNat (0x80 + n % 64)]
  else if n < 0x10000 then
    [.ofNat (0xE0 + n / 4096), .ofNat (0x80 + n / 64 % 64), .ofNat (0x80 + n % 64)]
  else
    [.ofNat (0xF0 + n / 262144), .ofNat (0x80 + n / 4096 % 64), .ofNat (0x80 + n / 64 % 64),
      .ofNat (0x80 + n % 64)]

/-- The octets of a text. -/
def encode (cs : List Char) : List UInt8 :=
  cs.flatMap encodeChar

/-- What a first octet announces: how many more octets follow, the bits it adds, and the range
of the octet after it. -/
structure Lead where
  more : Nat
  bits : Nat
  low : Nat
  high : Nat

/-- What an octet announces, or nothing where it cannot come first. -/
def lead? (octet : UInt8) : Option Lead :=
  let n := octet.toNat
  if n < 0x80 then some ⟨0, n, 0x80, 0xBF⟩
  else if n < 0xC2 then none
  else if n < 0xE0 then some ⟨1, n - 0xC0, 0x80, 0xBF⟩
  else if n = 0xE0 then some ⟨2, 0, 0xA0, 0xBF⟩
  else if n = 0xED then some ⟨2, 0xD, 0x80, 0x9F⟩
  else if n < 0xF0 then some ⟨2, n - 0xE0, 0x80, 0xBF⟩
  else if n = 0xF0 then some ⟨3, 0, 0x90, 0xBF⟩
  else if n < 0xF4 then some ⟨3, n - 0xF0, 0x80, 0xBF⟩
  else if n = 0xF4 then some ⟨3, 4, 0x80, 0x8F⟩
  else none

/-- Reads `more` further octets, the first of which must lie between `low` and `high`; answers
the character, if they are all there, and what is left. -/
def continueFrom (more bits low high : Nat) (octets : List UInt8) : Option Char × List UInt8 :=
  match more with
  | 0 => (some (Char.ofNat bits), octets)
  | more + 1 =>
    match octets with
    | [] => (none, [])
    | o :: rest =>
      if low ≤ o.toNat ∧ o.toNat ≤ high then
        continueFrom more (bits * 64 + (o.toNat - 0x80)) 0x80 0xBF rest
      else (none, o :: rest)

/-- Takes one character, or a piece that is none, off the front. -/
def next (octet : UInt8) (octets : List UInt8) : Option Char × List UInt8 :=
  match lead? octet with
  | some l => continueFrom l.more l.bits l.low l.high octets
  | none => (none, octets)

theorem length_continueFrom_le (more bits low high : Nat) (octets : List UInt8) :
    (continueFrom more bits low high octets).2.length ≤ octets.length := by
  induction more generalizing bits low high octets with
  | zero => exact Nat.le_refl _
  | succ more ih =>
    cases octets with
    | nil => exact Nat.le_refl _
    | cons o rest =>
      rw [continueFrom]
      split
      · exact Nat.le_trans (ih _ _ _ rest) (Nat.le_succ _)
      · exact Nat.le_refl _

theorem length_next_le (octet : UInt8) (octets : List UInt8) :
    (next octet octets).2.length ≤ octets.length := by
  rw [next]
  split
  · exact length_continueFrom_le _ _ _ _ _
  · exact Nat.le_refl _

/-- The characters of a list of octets, with `none` for each piece that is no character. -/
def chars : List UInt8 → List (Option Char)
  | [] => []
  | octet :: octets => (next octet octets).1 :: chars (next octet octets).2
termination_by octets => octets.length
decreasing_by exact Nat.lt_succ_of_le (length_next_le octet octets)

/-- The text of well-formed octets. -/
def decode? (octets : List UInt8) : Option (List Char) :=
  (chars octets).mapM id

/-- The text of any octets. -/
def decodeLossy (octets : List UInt8) : List Char :=
  (chars octets).map (·.getD '\uFFFD')

/-! ### Writing, then reading -/

theorem toNat_lt_surrogate_or (c : Char) :
    c.toNat < 0xD800 ∨ 0xDFFF < c.toNat ∧ c.toNat < 0x110000 := c.valid

private theorem toNat_ofNat_of_lt {n : Nat} (h : n < 256) : (UInt8.ofNat n).toNat = n := by
  simp [UInt8.toNat_ofNat', Nat.mod_eq_of_lt h]

private theorem next_of_lead {more bits low high : Nat} {o : UInt8} {rest : List UInt8}
    (h : lead? o = some ⟨more, bits, low, high⟩) :
    next o rest = continueFrom more bits low high rest := by
  rw [next, h]

private theorem continueFrom_cons {more bits low high : Nat} {o : UInt8} {rest : List UInt8}
    (hl : low ≤ o.toNat) (hh : o.toNat ≤ high) :
    continueFrom (more + 1) bits low high (o :: rest) =
      continueFrom more (bits * 64 + (o.toNat - 0x80)) 0x80 0xBF rest := by
  rw [continueFrom, if_pos ⟨hl, hh⟩]

private theorem lead?_two {n : Nat} (h1 : 2 ≤ n) (h2 : n < 32) :
    lead? (.ofNat (0xC0 + n)) = some ⟨1, n, 0x80, 0xBF⟩ := by
  simp only [lead?, toNat_ofNat_of_lt (show 0xC0 + n < 256 by omega)]
  rw [if_neg (by omega), if_neg (by omega), if_pos (by omega), Nat.add_sub_cancel_left]

/-- A first octet of three fits the second octet of every character it begins. -/
private theorem lead?_three {n m : Nat} (hn : n < 16) (hm : m < 64) (h : 0x800 ≤ n * 4096 + m * 64)
    (hs : n = 13 → m < 32) :
    ∃ low high, lead? (.ofNat (0xE0 + n)) = some ⟨2, n, low, high⟩ ∧
      low ≤ 0x80 + m ∧ 0x80 + m ≤ high := by
  simp only [lead?, toNat_ofNat_of_lt (show 0xE0 + n < 256 by omega)]
  rw [if_neg (by omega), if_neg (by omega), if_neg (by omega)]
  by_cases ha : n = 0
  · subst ha
    exact ⟨0xA0, 0xBF, rfl, by omega, by omega⟩
  · by_cases hb : n = 13
    · subst hb
      exact ⟨0x80, 0x9F, rfl, by omega, by have := hs rfl; omega⟩
    · refine ⟨0x80, 0xBF, ?_, by omega, by omega⟩
      rw [if_neg (by omega), if_neg (by omega), if_pos (by omega), Nat.add_sub_cancel_left]

/-- A first octet of four fits the second octet of every character it begins. -/
private theorem lead?_four {n m : Nat} (hn : n < 5) (hm : m < 64)
    (h : 0x10000 ≤ n * 262144 + m * 4096) (hs : n = 4 → m < 16) :
    ∃ low high, lead? (.ofNat (0xF0 + n)) = some ⟨3, n, low, high⟩ ∧
      low ≤ 0x80 + m ∧ 0x80 + m ≤ high := by
  simp only [lead?, toNat_ofNat_of_lt (show 0xF0 + n < 256 by omega)]
  rw [if_neg (by omega), if_neg (by omega), if_neg (by omega), if_neg (by omega),
    if_neg (by omega), if_neg (by omega)]
  by_cases ha : n = 0
  · subst ha
    exact ⟨0x90, 0xBF, rfl, by omega, by omega⟩
  · by_cases hb : n = 4
    · subst hb
      exact ⟨0x80, 0x8F, rfl, by omega, by have := hs rfl; omega⟩
    · refine ⟨0x80, 0xBF, ?_, by omega, by omega⟩
      rw [if_neg (by omega), if_pos (by omega), Nat.add_sub_cancel_left]

/-- One character is read back from what was written, and the octets after it are left. -/
theorem next_encodeChar_append (c : Char) (octets : List UInt8) :
    ∃ o rest, encodeChar c ++ octets = o :: rest ∧ next o rest = (some c, octets) := by
  have hv := toNat_lt_surrogate_or c
  have hc := Char.ofNat_toNat c
  generalize hn : c.toNat = n at hv hc
  simp only [encodeChar, hn]
  by_cases h1 : n < 0x80
  · rw [if_pos h1]
    simp only [List.cons_append, List.nil_append]
    refine ⟨_, _, rfl, ?_⟩
    simp only [next, lead?, toNat_ofNat_of_lt (show n < 256 by omega), if_pos h1, continueFrom,
      hc]
  · rw [if_neg h1]
    by_cases h2 : n < 0x800
    · rw [if_pos h2]
      simp only [List.cons_append, List.nil_append]
      refine ⟨_, _, rfl, ?_⟩
      have e := toNat_ofNat_of_lt (show 0x80 + n % 64 < 256 by omega)
      rw [next_of_lead (lead?_two (by omega) (by omega))]
      rw [continueFrom_cons (by omega) (by omega), continueFrom, e,
        show n / 64 * 64 + (0x80 + n % 64 - 0x80) = n by omega, hc]
    · rw [if_neg h2]
      by_cases h3 : n < 0x10000
      · rw [if_pos h3]
        simp only [List.cons_append, List.nil_append]
        refine ⟨_, _, rfl, ?_⟩
        have e1 := toNat_ofNat_of_lt (show 0x80 + n / 64 % 64 < 256 by omega)
        have e2 := toNat_ofNat_of_lt (show 0x80 + n % 64 < 256 by omega)
        obtain ⟨low, high, hl, hlow, hhigh⟩ :=
          lead?_three (n := n / 4096) (m := n / 64 % 64) (by omega) (by omega) (by omega) (by omega)
        rw [next_of_lead hl]
        rw [continueFrom_cons (by omega) (by omega), continueFrom_cons (by omega) (by omega),
          continueFrom, e1, e2,
          show (n / 4096 * 64 + (0x80 + n / 64 % 64 - 0x80)) * 64 + (0x80 + n % 64 - 0x80) = n by
            omega, hc]
      · rw [if_neg h3]
        simp only [List.cons_append, List.nil_append]
        refine ⟨_, _, rfl, ?_⟩
        have e1 := toNat_ofNat_of_lt (show 0x80 + n / 4096 % 64 < 256 by omega)
        have e2 := toNat_ofNat_of_lt (show 0x80 + n / 64 % 64 < 256 by omega)
        have e3 := toNat_ofNat_of_lt (show 0x80 + n % 64 < 256 by omega)
        obtain ⟨low, high, hl, hlow, hhigh⟩ :=
          lead?_four (n := n / 262144) (m := n / 4096 % 64) (by omega) (by omega) (by omega)
            (by omega)
        rw [next_of_lead hl]
        rw [continueFrom_cons (by omega) (by omega), continueFrom_cons (by omega) (by omega),
          continueFrom_cons (by omega) (by omega), continueFrom, e1, e2, e3,
          show ((n / 262144 * 64 + (0x80 + n / 4096 % 64 - 0x80)) * 64 +
            (0x80 + n / 64 % 64 - 0x80)) * 64 + (0x80 + n % 64 - 0x80) = n by omega, hc]

theorem chars_encodeChar_append (c : Char) (octets : List UInt8) :
    chars (encodeChar c ++ octets) = some c :: chars octets := by
  obtain ⟨o, rest, he, hn⟩ := next_encodeChar_append c octets
  rw [he, chars, hn]

theorem chars_encode_append (cs : List Char) (octets : List UInt8) :
    chars (encode cs ++ octets) = cs.map some ++ chars octets := by
  induction cs with
  | nil => rfl
  | cons c cs ih =>
    rw [encode, List.flatMap_cons, List.append_assoc, chars_encodeChar_append]
    exact congrArg (some c :: ·) ih

theorem chars_encode (cs : List Char) : chars (encode cs) = cs.map some := by
  have h := chars_encode_append cs []
  rwa [List.append_nil, chars, List.append_nil] at h

theorem decode?_encode (cs : List Char) : decode? (encode cs) = some cs := by
  rw [decode?, chars_encode]
  induction cs with
  | nil => rfl
  | cons c cs ih => simp [List.mapM_cons, ih]

theorem decodeLossy_encode (cs : List Char) : decodeLossy (encode cs) = cs := by
  rw [decodeLossy, chars_encode, List.map_map]
  exact List.map_id' cs

end HttpDispatch.Utf8
