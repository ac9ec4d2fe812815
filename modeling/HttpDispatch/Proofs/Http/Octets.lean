import HttpDispatch.Json.Printer
import HttpDispatch.Text.Utf8

/-!
# Messages as octets

Whoever receives a message reads octets.  The first place where two line ends stand in a row
divides it into a head and a body, and line ends divide the head into lines.  Neither can go wrong
where no line is empty or has a line end of its own in it: then the head is read as the lines that
were written, and the body is left as it is, whatever is in it (`splitHead?_intercalate`,
`lines_intercalate`).

Octets below 0x80 stand for themselves in UTF-8 and occur in no other character, so a text has a
line end among its octets only where it has one among its characters (`mem_of_mem_octets`).
-/

namespace HttpDispatch

namespace Utf8

theorem toNat_of_mem_encodeChar {c : Char} {o : UInt8} (h : o ∈ encodeChar c)
    (ho : o.toNat < 0x80) : c.toNat = o.toNat := by
  have hv := toNat_lt_surrogate_or c
  have hhigh : ∀ n, 0x80 ≤ n → n < 256 → o ≠ .ofNat n := by
    rintro n hlow hn rfl
    rw [UInt8.toNat_ofNat', Nat.mod_eq_of_lt hn] at ho
    omega
  rw [encodeChar] at h
  split at h
  · next hn =>
    rw [List.mem_singleton.1 h, UInt8.toNat_ofNat', Nat.mod_eq_of_lt (by omega)]
  split at h
  · simp only [List.mem_cons, List.not_mem_nil, or_false] at h
    rcases h with h | h
    · exact absurd h (hhigh _ (by omega) (by omega))
    · exact absurd h (hhigh _ (by omega) (by omega))
  split at h
  · simp only [List.mem_cons, List.not_mem_nil, or_false] at h
    rcases h with h | h | h
    · exact absurd h (hhigh _ (by omega) (by omega))
    · exact absurd h (hhigh _ (by omega) (by omega))
    · exact absurd h (hhigh _ (by omega) (by omega))
  · simp only [List.mem_cons, List.not_mem_nil, or_false] at h
    rcases h with h | h | h | h
    · exact absurd h (hhigh _ (by omega) (by omega))
    · exact absurd h (hhigh _ (by omega) (by omega))
    · exact absurd h (hhigh _ (by omega) (by omega))
    · exact absurd h (hhigh _ (by omega) (by omega))

theorem encode_append (cs ds : List Char) : encode (cs ++ ds) = encode cs ++ encode ds :=
  List.flatMap_append

end Utf8

/-- The octets of a text. -/
def octets (s : String) : List UInt8 := Utf8.encode s.toList

@[simp] theorem octets_append (s t : String) : octets (s ++ t) = octets s ++ octets t := by
  rw [octets, String.toList_append, Utf8.encode_append]
  rfl

theorem octets_intercalate (s : String) (ts : List String) :
    octets (s.intercalate ts) = (octets s).intercalate (ts.map octets) := by
  induction ts with
  | nil => simp [octets, Utf8.encode]
  | cons t ts ih =>
    cases ts with
    | nil => simp
    | cons u ts =>
      rw [String.intercalate_cons_cons, octets_append, octets_append, ih]
      exact List.intercalate_cons_cons.symm

/-- A character below 0x80 whose octet is among those of a text is in the text. -/
theorem mem_of_mem_octets {s : String} {o : UInt8} (h : o ∈ octets s) (ho : o.toNat < 0x80) :
    Char.ofNat o.toNat ∈ s.toList := by
  obtain ⟨c, hc, hoc⟩ := List.mem_flatMap.1 h
  rw [← Utf8.toNat_of_mem_encodeChar hoc ho, Char.ofNat_toNat]
  exact hc

/-- A text without a carriage return and without a line feed. -/
def OneLine (s : String) : Prop := '\r' ∉ s.toList ∧ '\n' ∉ s.toList

instance (s : String) : Decidable (OneLine s) :=
  inferInstanceAs (Decidable ('\r' ∉ s.toList ∧ '\n' ∉ s.toList))

namespace OneLine

theorem append_iff {s t : String} : OneLine (s ++ t) ↔ OneLine s ∧ OneLine t := by
  simp only [OneLine, String.toList_append, List.mem_append, not_or]
  exact and_and_and_comm

theorem append {s t : String} (hs : OneLine s) (ht : OneLine t) : OneLine (s ++ t) :=
  append_iff.2 ⟨hs, ht⟩

theorem intercalate_iff {s : String} (hs : OneLine s) {ts : List String} :
    OneLine (s.intercalate ts) ↔ ∀ t ∈ ts, OneLine t := by
  induction ts with
  | nil => exact ⟨fun _ _ ht => absurd ht List.not_mem_nil, fun _ => ⟨by simp, by simp⟩⟩
  | cons t ts ih =>
    rw [List.forall_mem_cons, ← ih]
    cases ts with
    | nil =>
      rw [String.intercalate_singleton]
      exact (and_iff_left (ih.2 nofun)).symm
    | cons u ts =>
      rw [String.intercalate_cons_cons, append_iff, append_iff]
      exact and_congr_left' (and_iff_left hs)

theorem intercalate {s : String} (hs : OneLine s) {ts : List String} (ht : ∀ t ∈ ts, OneLine t) :
    OneLine (s.intercalate ts) := (intercalate_iff hs).2 ht

theorem of_printable {s : String} (h : ∀ c ∈ s.toList, 0x20 ≤ c.toNat) : OneLine s :=
  ⟨fun hm => absurd (h _ hm) (by decide), fun hm => absurd (h _ hm) (by decide)⟩

theorem notMem_octets {s : String} (h : OneLine s) : 13 ∉ octets s ∧ 10 ∉ octets s :=
  ⟨fun hm => h.1 (mem_of_mem_octets hm (by decide)),
    fun hm => h.2 (mem_of_mem_octets hm (by decide))⟩

end OneLine

/-- A number is written in one line. -/
theorem oneLine_toString (n : Nat) : OneLine (toString n) := by
  apply OneLine.of_printable
  intro c hc
  have hdigits : (toString n).toList = Decimal.digitChars n := by
    show (Nat.repr n).toList = _
    rw [Nat.repr, String.toList_ofList]
    rfl
  rw [hdigits] at hc
  exact Decimal.toNat_of_mem_digitChars hc

/-- So is a value in JSON, since every control character in it is escaped. -/
theorem Json.oneLine_render (v : Json) : OneLine v.render := by
  apply OneLine.of_printable
  intro c hc
  rw [render, String.toList_ofList] at hc
  exact toNat_of_mem_chars v hc

/-! ### The receiver -/

/-- Divides octets at the first place where two line ends stand in a row. -/
def splitHead? : List UInt8 → Option (List UInt8 × List UInt8)
  | [] => none
  | 13 :: 10 :: 13 :: 10 :: rest => some ([], rest)
  | o :: rest => (splitHead? rest).map fun p => (o :: p.1, p.2)

/-- The lines of octets, divided at the line ends. -/
def lines : List UInt8 → List (List UInt8)
  | [] => [[]]
  | 13 :: 10 :: rest => [] :: lines rest
  | o :: rest =>
    match lines rest with
    | [] => [[o]]
    | l :: ls => (o :: l) :: ls

theorem splitHead?_append {l : List UInt8} (h : 13 ∉ l) (rest : List UInt8) :
    splitHead? (l ++ rest) = (splitHead? rest).map fun p => (l ++ p.1, p.2) := by
  induction l with
  | nil => simp
  | cons o l ih =>
    obtain ⟨ho, hl⟩ := not_or.1 (mt List.mem_cons.2 h)
    rw [List.cons_append, splitHead?, ih hl, Option.map_map]
    · rfl
    · intro _ h
      exact absurd h.symm ho

theorem splitHead?_lineEnd {rest : List UInt8} (h : ∀ r, rest ≠ 13 :: r) :
    splitHead? (13 :: 10 :: rest) = (splitHead? rest).map fun p => (13 :: 10 :: p.1, p.2) := by
  rw [splitHead?, splitHead?, Option.map_map]
  · rfl
  · intro _ h10
    exact absurd h10 (by decide)
  · intro r _ hr
    exact absurd (List.cons.inj hr).2 (h _)

theorem lines_append {l : List UInt8} (h : 13 ∉ l) (rest : List UInt8) :
    lines (l ++ 13 :: 10 :: rest) = l :: lines rest := by
  induction l with
  | nil => rfl
  | cons o l ih =>
    obtain ⟨ho, hl⟩ := not_or.1 (mt List.mem_cons.2 h)
    rw [List.cons_append, lines, ih hl]
    intro _ h
    exact absurd h.symm ho

theorem lines_of_notMem {l : List UInt8} (h : 13 ∉ l) : lines l = [l] := by
  induction l with
  | nil => rfl
  | cons o l ih =>
    obtain ⟨ho, hl⟩ := not_or.1 (mt List.mem_cons.2 h)
    rw [lines, ih hl]
    intro _ h
    exact absurd h.symm ho

/-- The head of a message is read as the lines that were written. -/
theorem lines_intercalate {ls : List (List UInt8)} (hne : ls ≠ []) (h : ∀ l ∈ ls, 13 ∉ l) :
    lines (List.intercalate [13, 10] ls) = ls := by
  induction ls with
  | nil => exact absurd rfl hne
  | cons l ls ih =>
    have hl := h l List.mem_cons_self
    cases ls with
    | nil =>
      rw [List.intercalate_singleton]
      exact lines_of_notMem hl
    | cons k ls =>
      rw [List.intercalate_cons_cons, List.append_assoc]
      have hmore := ih (by simp) fun l hm => h l (List.mem_cons_of_mem _ hm)
      exact (lines_append hl _).trans (congrArg (l :: ·) hmore)

/-- A message is divided into its head and its body, whatever the body is. -/
theorem splitHead?_intercalate {ls : List (List UInt8)} (hne : ls ≠ [])
    (h : ∀ l ∈ ls, 13 ∉ l ∧ l ≠ []) (body : List UInt8) :
    splitHead? (List.intercalate [13, 10] ls ++ 13 :: 10 :: 13 :: 10 :: body) =
      some (List.intercalate [13, 10] ls, body) := by
  induction ls with
  | nil => exact absurd rfl hne
  | cons l ls ih =>
    obtain ⟨hl, -⟩ := h l List.mem_cons_self
    cases ls with
    | nil =>
      rw [List.intercalate_singleton, splitHead?_append hl]
      show some (l ++ [], body) = _
      rw [List.append_nil]
    | cons k ls =>
      have hmore := ih (by simp) fun l hm => h l (List.mem_cons_of_mem _ hm)
      obtain ⟨hk, hkne⟩ := h k (List.mem_cons_of_mem _ List.mem_cons_self)
      -- Behind a line end comes a line that is not empty, so the head goes on.
      have hstart : ∀ r, List.intercalate [13, 10] (k :: ls) ++ 13 :: 10 :: 13 :: 10 :: body ≠
          13 :: r := by
        cases k with
        | nil => exact absurd rfl hkne
        | cons o k =>
          intro r hr
          rw [List.intercalate_cons_cons_left, List.cons_append] at hr
          exact hk ((List.cons.inj hr).1 ▸ List.mem_cons_self)
      rw [List.intercalate_cons_cons, List.append_assoc, List.append_assoc, splitHead?_append hl]
      show (splitHead? (13 :: 10 :: (List.intercalate [13, 10] (k :: ls) ++ _))).map _ = _
      rw [splitHead?_lineEnd hstart, hmore, List.append_assoc]
      rfl

end HttpDispatch
