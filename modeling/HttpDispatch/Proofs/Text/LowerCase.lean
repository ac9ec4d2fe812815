import HttpDispatch.Proofs.Text.UpperCase

/-!
# Which texts have a given lower case

Many characters beyond ASCII have a lower case, and it may be several characters or depend on what
stands around.  But among the letters from a to z there is only one that is the whole lower case of
such a character: the k, of the Kelvin sign.  So if a text in small letters has no k in it, then it
is the lower case of just those texts that differ from it in the case of ASCII letters alone
(`lower_eq_iff`).
-/

namespace HttpDispatch.Text

/-- A run of the lower-case mapping is one of ASCII, or has its partners beyond ASCII, or is the
Kelvin sign alone. -/
theorem lowerRuns_apart : ∀ r ∈ lowerRuns,
    r.source + (r.count - 1) * r.step < 0x80 ∨ 0x80 ≤ r.target ∨ (r.target = 0x6B ∧ r.count = 1) := by
  decide +kernel

theorem lowerExpansions_apart : ∀ e ∈ lowerExpansions, ∃ m ∈ e.2, 0x80 ≤ m := by decide

/-- The lower case of a code point beyond ASCII has something in it that is beyond ASCII, or it is
a k. -/
theorem exists_foreign_of_le {n : Nat} (h : 0x80 ≤ n) :
    ∃ m ∈ mapCodePoint lowerRuns lowerExpansions n, 0x80 ≤ m ∨ m = 0x6B := by
  rw [mapCodePoint]
  cases hlookup : lowerExpansions.lookup n with
  | some image =>
    obtain ⟨before, after, hmem, -⟩ := List.lookup_eq_some_iff.1 hlookup
    obtain ⟨m, hm, hle⟩ := lowerExpansions_apart (n, image) (by simp [hmem])
    exact ⟨m, hm, .inl hle⟩
  | none =>
    cases hfind : lowerRuns.find? (·.covers n) with
    | none => exact ⟨n, List.mem_singleton_self n, .inl h⟩
    | some r =>
      refine ⟨r.image n, List.mem_singleton_self _, ?_⟩
      have hcovers : r.covers n = true := by simpa using List.find?_some hfind
      simp only [CaseRun.covers, Bool.and_eq_true, decide_eq_true_eq] at hcovers
      obtain ⟨⟨hlow, hhigh⟩, -⟩ := hcovers
      rw [CaseRun.image]
      rcases lowerRuns_apart r (List.mem_of_find?_eq_some hfind) with hascii | hle | ⟨hk, hone⟩
      · omega
      · exact .inl (by omega)
      · rw [hone] at hhigh
        exact .inr (by omega)

/-- A small letter of ASCII that is the lower case of no character beyond ASCII. -/
def IsNative (c : Char) : Prop := c.isLower = true ∧ c ≠ 'k'

instance (c : Char) : Decidable (IsNative c) := inferInstanceAs (Decidable (_ ∧ _))

theorem toNat_lt_of_isLower {c : Char} (h : c.isLower = true) : c.toNat < 0x80 := by
  have hboth : (c.val ≥ 'a'.val && c.val ≤ 'z'.val) = true := h
  have hz : c.val ≤ 'z'.val := of_decide_eq_true (Bool.and_eq_true_iff.1 hboth).2
  have hhigh : c.toNat ≤ 'z'.toNat := UInt32.le_iff_toNat_le.1 hz
  exact Nat.lt_of_le_of_lt hhigh (by decide)

theorem not_isNative_ofNat {m : Nat} (h : 0x80 ≤ m ∨ m = 0x6B) : ¬ IsNative (.ofNat m) := by
  rintro ⟨hlower, hk⟩
  rcases h with hle | rfl
  · have hlt := toNat_lt_of_isLower hlower
    by_cases hvalid : m.isValidChar
    · have hchar : (Char.ofNat m).toNat = m := by
        rw [Char.ofNat, dif_pos hvalid]
        rfl
      omega
    · rw [Char.ofNat, dif_neg hvalid] at hlower
      exact absurd hlower (by decide)
  · exact hk rfl

theorem exists_not_isNative {c : Char} (h : 0x80 ≤ c.toNat) : ∃ d ∈ lowerChar c, ¬ IsNative d := by
  obtain ⟨m, hm, hforeign⟩ := exists_foreign_of_le h
  exact ⟨.ofNat m, List.mem_map_of_mem hm, not_isNative_ofNat hforeign⟩

theorem lowerChar_of_lt {c : Char} (h : c.toNat < 0x80) : lowerChar c = [c.toLower] := by
  have hall : ∀ n < 0x80, lowerChar (.ofNat n) = [(Char.ofNat n).toLower] := by decide +kernel
  have hc := hall c.toNat h
  rwa [Char.ofNat_toNat] at hc

theorem toLower_of_le {c : Char} (h : 0x80 ≤ c.toNat) : c.toLower = c := by
  have hnot : ¬ (c.val ≥ 'A'.val ∧ c.val ≤ 'Z'.val) := by
    rintro ⟨-, hz⟩
    have hle : c.toNat ≤ 'Z'.toNat := UInt32.le_iff_toNat_le.1 hz
    have hz : 'Z'.toNat = 0x5A := rfl
    omega
  exact dif_neg hnot

/-- Whatever stands before a text, its lower case is made of native letters only if the text is
theirs up to the case of ASCII letters. -/
theorem lowerFrom_eq_iff {name : List Char} (hname : ∀ d ∈ name, IsNative d)
    (before cs : List Char) : lowerFrom before cs = name ↔ cs.map Char.toLower = name := by
  induction cs generalizing before name with
  | nil => rfl
  | cons c rest ih =>
    rw [lowerFrom, List.map_cons]
    by_cases hc : c.toNat < 0x80
    · have hsigma : ¬ (c = 'Σ' && casedNext before && !casedNext rest) = true := by
        simp only [Bool.and_eq_true, decide_eq_true_eq]
        rintro ⟨⟨rfl, -⟩, -⟩
        exact absurd hc (by decide)
      rw [if_neg hsigma, lowerChar_of_lt hc, List.singleton_append]
      cases name with
      | nil => exact iff_of_false (List.cons_ne_nil _ _) (List.cons_ne_nil _ _)
      | cons d name =>
        have hrest := ih (fun e he => hname e (List.mem_cons_of_mem d he)) (c :: before)
        rw [List.cons.injEq, List.cons.injEq, hrest]
    · -- Neither side holds, since a character beyond ASCII stays in the text or leaves its trace.
      have hle : 0x80 ≤ c.toNat := Nat.not_lt.1 hc
      obtain ⟨d, hd, hforeign⟩ : ∃ d ∈ (if c = 'Σ' && casedNext before && !casedNext rest then
          ['ς'] else lowerChar c), ¬ IsNative d := by
        split
        · exact ⟨'ς', List.mem_singleton_self _, by decide⟩
        · exact exists_not_isNative hle
      constructor
      · rintro rfl
        exact absurd (hname d (List.mem_append_left _ hd)) hforeign
      · rintro rfl
        have hnative := hname _ List.mem_cons_self
        rw [toLower_of_le hle] at hnative
        exact absurd (toNat_lt_of_isLower hnative.1) hc

/-- A text in native letters is the lower case of those texts only that differ from it in the case
of ASCII letters alone. -/
theorem lower_eq_iff {name : String} (hname : ∀ d ∈ name.toList, IsNative d) (s : String) :
    lower s = name ↔ s.toLower = name := by
  have htoLower : s.toLower.toList = s.toList.map Char.toLower := String.toList_map
  rw [lower, ← String.toList_inj, ← String.toList_inj, String.toList_ofList, htoLower]
  exact lowerFrom_eq_iff hname [] s.toList

end HttpDispatch.Text
