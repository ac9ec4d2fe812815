import HttpDispatch.Routing.Pattern

/-!
# What can be decoded

Reading octets as text is strict: octets that read as a text are the encoding of this text, and
no others are well-formed (`Utf8.decode?_eq_some_iff`).  A percent encoding is read in two steps.
Its characters name octets, unless a percent sign begins no escape (`Percent.Names`), and these
octets have to be well-formed (`Percent.decode?_eq_some_iff`).  A segment of a path that cannot be
read in this way stands for itself (`decodeSegment_eq_iff`).
-/

namespace HttpDispatch

namespace Utf8

/-! ### One character -/

/-- What an octet announces: a character of one octet, or the first octet of two, three or four,
where the range of the second octet leaves out overlong forms, surrogates and what is too large. -/
theorem lead?_eq_some {o : UInt8} {l : Lead} (h : lead? o = some l) :
    0x80 ≤ l.low ∧ l.high ≤ 0xBF ∧
    (o.toNat < 0x80 ∧ l.more = 0 ∧ l.bits = o.toNat ∨
     0xC2 ≤ o.toNat ∧ o.toNat < 0xE0 ∧ l.more = 1 ∧ l.bits = o.toNat - 0xC0 ∨
     0xE0 ≤ o.toNat ∧ o.toNat < 0xF0 ∧ l.more = 2 ∧ l.bits = o.toNat - 0xE0 ∧
      (o.toNat = 0xE0 → 0xA0 ≤ l.low) ∧ (o.toNat = 0xED → l.high ≤ 0x9F) ∨
     0xF0 ≤ o.toNat ∧ o.toNat < 0xF5 ∧ l.more = 3 ∧ l.bits = o.toNat - 0xF0 ∧
      (o.toNat = 0xF0 → 0x90 ≤ l.low) ∧ (o.toNat = 0xF4 → l.high ≤ 0x8F)) := by
  simp only [lead?] at h
  repeat' split at h
  all_goals
    cases h
  all_goals
    dsimp only
    omega

/-- Reading one more octet, and then the others. -/
theorem continueFrom_succ_eq_some {more bits low high : Nat} {octets rest : List UInt8} {c : Char}
    (h : continueFrom (more + 1) bits low high octets = (some c, rest)) :
    ∃ o others, octets = o :: others ∧ low ≤ o.toNat ∧ o.toNat ≤ high ∧
      continueFrom more (bits * 64 + (o.toNat - 0x80)) 0x80 0xBF others = (some c, rest) := by
  cases octets with
  | nil => cases h
  | cons o others =>
    rw [continueFrom] at h
    split at h
    · next hrange => exact ⟨o, others, rfl, hrange.1, hrange.2, h⟩
    · cases h

/-- A number that is complete is that of the character. -/
theorem continueFrom_zero_eq_some {bits low high : Nat} {octets rest : List UInt8} {c : Char}
    (h : continueFrom 0 bits low high octets = (some c, rest))
    (hbits : bits < 0xD800 ∨ 0xDFFF < bits ∧ bits < 0x110000) :
    c.toNat = bits ∧ rest = octets := by
  have hvalid : bits.isValidChar := hbits
  cases h
  refine ⟨?_, rfl⟩
  rw [Char.ofNat, dif_pos hvalid]
  rfl

theorem eq_ofNat {o : UInt8} {n : Nat} (h : o.toNat = n) : o = .ofNat n := by
  rw [← h, UInt8.ofNat_toNat]

/-- What reads as a character is the encoding of this character. -/
theorem eq_encodeChar_append {o : UInt8} {octets rest : List UInt8} {c : Char}
    (h : next o octets = (some c, rest)) : o :: octets = encodeChar c ++ rest := by
  rw [next] at h
  split at h
  case h_2 => cases h
  next l hl =>
    obtain ⟨hlow, hhigh, hlead⟩ := lead?_eq_some hl
    rcases hlead with ⟨ho, hmore, hbits⟩ | ⟨ho, ho', hmore, hbits⟩ |
      ⟨ho, ho', hmore, hbits, hshort, hsurrogate⟩ | ⟨ho, ho', hmore, hbits, hshort, hlarge⟩
    · rw [hmore] at h
      obtain ⟨hc, rfl⟩ := continueFrom_zero_eq_some h (by omega)
      simp only [encodeChar]
      rw [if_pos (by omega), ← eq_ofNat (o := o) (by omega)]
      rfl
    · rw [hmore] at h
      obtain ⟨a, _, rfl, ha, ha', h⟩ := continueFrom_succ_eq_some h
      obtain ⟨hc, rfl⟩ := continueFrom_zero_eq_some h (by omega)
      simp only [encodeChar]
      rw [if_neg (by omega), if_pos (by omega), ← eq_ofNat (o := o) (by omega),
        ← eq_ofNat (o := a) (by omega)]
      rfl
    · rw [hmore] at h
      obtain ⟨a, _, rfl, ha, ha', h⟩ := continueFrom_succ_eq_some h
      obtain ⟨b, _, rfl, hb, hb', h⟩ := continueFrom_succ_eq_some h
      obtain ⟨hc, rfl⟩ := continueFrom_zero_eq_some h (by omega)
      simp only [encodeChar]
      rw [if_neg (by omega), if_neg (by omega), if_pos (by omega), ← eq_ofNat (o := o) (by omega),
        ← eq_ofNat (o := a) (by omega), ← eq_ofNat (o := b) (by omega)]
      rfl
    · rw [hmore] at h
      obtain ⟨a, _, rfl, ha, ha', h⟩ := continueFrom_succ_eq_some h
      obtain ⟨b, _, rfl, hb, hb', h⟩ := continueFrom_succ_eq_some h
      obtain ⟨d, _, rfl, hd, hd', h⟩ := continueFrom_succ_eq_some h
      obtain ⟨hc, rfl⟩ := continueFrom_zero_eq_some h (by omega)
      simp only [encodeChar]
      rw [if_neg (by omega), if_neg (by omega), if_neg (by omega), ← eq_ofNat (o := o) (by omega),
        ← eq_ofNat (o := a) (by omega), ← eq_ofNat (o := b) (by omega),
        ← eq_ofNat (o := d) (by omega)]
      rfl

/-! ### A text -/

theorem eq_encode_of_chars {octets : List UInt8} {cs : List Char}
    (h : chars octets = cs.map some) : octets = encode cs := by
  induction cs generalizing octets with
  | nil =>
    cases octets with
    | nil => rfl
    | cons o octets =>
      rw [chars] at h
      cases h
  | cons c cs ih =>
    cases octets with
    | nil =>
      rw [chars] at h
      cases h
    | cons o octets =>
      rw [chars, List.map_cons, List.cons.injEq] at h
      have hnext : next o octets = (some c, (next o octets).2) := Prod.ext h.1 rfl
      rw [eq_encodeChar_append hnext, ih h.2]
      rfl

theorem mapM_id_eq_some_iff {α : Type} {l : List (Option α)} {as : List α} :
    l.mapM id = some as ↔ l = as.map some := by
  induction l generalizing as with
  | nil => cases as <;> simp
  | cons a l ih =>
    cases as with
    | nil => cases a <;> simp [List.mapM_cons, Option.bind_eq_some_iff]
    | cons b bs =>
      cases a with
      | none => simp
      | some a => simpa [List.mapM_cons, Option.bind_eq_some_iff, ih] using and_comm

/-- Octets are well-formed exactly if they are the encoding of a text, which is then the text that
they are read as. -/
theorem decode?_eq_some_iff {octets : List UInt8} {cs : List Char} :
    decode? octets = some cs ↔ octets = encode cs := by
  constructor
  · intro h
    exact eq_encode_of_chars (mapM_id_eq_some_iff.1 h)
  · rintro rfl
    exact decode?_encode cs

end Utf8

namespace Percent

/-- Characters name octets: an escape, of two digits, names one octet, and every other character
names those of its own encoding.  A percent sign that begins no escape names nothing. -/
inductive Names : List Char → List UInt8 → Prop
  | nil : Names [] []
  | escape {a b : Char} {x y : Nat} {rest : List Char} {octets : List UInt8} :
      Text.hexValue? a = some x → Text.hexValue? b = some y → Names rest octets →
        Names ('%' :: a :: b :: rest) (.ofNat (x * 16 + y) :: octets)
  | plain {c : Char} {rest : List Char} {octets : List UInt8} :
      c ≠ '%' → Names rest octets → Names (c :: rest) (Utf8.encodeChar c ++ octets)

theorem octet?_eq_some_iff {a b : Char} {o : UInt8} :
    octet? a b = some o ↔
      ∃ x y, Text.hexValue? a = some x ∧ Text.hexValue? b = some y ∧ o = .ofNat (x * 16 + y) := by
  rw [octet?]
  cases Text.hexValue? a with
  | none => simp
  | some x =>
    cases Text.hexValue? b with
    | none => simp
    | some y => simp [eq_comm]

theorem octets?_of_names {cs : List Char} {octets : List UInt8} (h : Names cs octets) :
    octets? cs = some octets := by
  induction h with
  | nil => rfl
  | escape ha hb _ ih =>
    rw [octets?, octet?_eq_some_iff.2 ⟨_, _, ha, hb, rfl⟩, ih]
    rfl
  | plain hc _ ih =>
    rw [octets?, if_neg hc, ih]
    · rfl
    · intro a b rest h _
      exact hc h

theorem names_of_octets? {cs : List Char} {octets : List UInt8} (h : octets? cs = some octets) :
    Names cs octets := by
  fun_induction octets? cs generalizing octets with
  | case1 =>
    cases h
    exact .nil
  | case2 a b rest o ho ih =>
    obtain ⟨more, hmore, rfl⟩ := Option.map_eq_some_iff.1 h
    obtain ⟨x, y, ha, hb, rfl⟩ := octet?_eq_some_iff.1 ho
    exact .escape ha hb (ih hmore)
  | case3 => nomatch h
  | case4 => nomatch h
  | case5 c rest _ hc ih =>
    obtain ⟨more, hmore, rfl⟩ := Option.map_eq_some_iff.1 h
    exact .plain hc (ih hmore)

/-- A segment is decoded exactly if its characters name octets and these are well-formed; it stands
for the text of which they are the encoding. -/
theorem decode?_eq_some_iff {s t : String} :
    decode? s = some t ↔ Names s.toList (Utf8.encode t.toList) := by
  rw [decode?, Option.map_eq_some_iff]
  constructor
  · rintro ⟨cs, hcs, rfl⟩
    obtain ⟨octets, hoctets, hread⟩ := Option.bind_eq_some_iff.1 hcs
    rw [Utf8.decode?_eq_some_iff] at hread
    rw [String.toList_ofList, ← hread]
    exact names_of_octets? hoctets
  · intro h
    refine ⟨t.toList, ?_, String.ofList_toList⟩
    rw [octets?_of_names h, Option.bind_some, Utf8.decode?_encode]

end Percent

/-- What a segment of a path stands for as a parameter: for a text, if it is the percent encoding of
one, and else for itself. -/
inductive SegmentValue (segment : String) : String → Prop
  | decoded {t : String} : Percent.Names segment.toList (Utf8.encode t.toList) →
      SegmentValue segment t
  | verbatim : (¬ ∃ t : String, Percent.Names segment.toList (Utf8.encode t.toList)) →
      SegmentValue segment segment

theorem decodeSegment_eq_iff {segment t : String} :
    decodeSegment segment = t ↔ SegmentValue segment t := by
  rw [decodeSegment]
  cases hd : Percent.decode? segment with
  | some u =>
    have hu := Percent.decode?_eq_some_iff.1 hd
    constructor
    · rintro rfl
      exact .decoded hu
    · rintro (h | h)
      · rw [← Percent.decode?_eq_some_iff, hd] at h
        exact Option.some.inj h
      · exact absurd ⟨u, hu⟩ h
  | none =>
    have hnone : ¬ ∃ u : String, Percent.Names segment.toList (Utf8.encode u.toList) := by
      rintro ⟨u, hu⟩
      rw [Percent.decode?_eq_some_iff.2 hu] at hd
      nomatch hd
    constructor
    · rintro rfl
      exact .verbatim hnone
    · rintro (h | h)
      · exact absurd ⟨t, h⟩ hnone
      · rfl

end HttpDispatch
