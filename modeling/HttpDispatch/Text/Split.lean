/-!
# Splitting

Paths are split at every slash and forms at every ampersand, and pieces of nothing do not count
there; a form's pair is split at its first equals sign, and a target at its first question mark.

The pieces of a split, joined by the separator, are the text again
(`intercalate_splitAtEach`), and none of them holds the separator (`notMem_of_mem_splitAtEach`).
-/

namespace HttpDispatch.Text

/-- Splits a list at every occurrence of a separator. -/
def splitAtEach (separator : Char) : List Char → List (List Char)
  | [] => [[]]
  | c :: rest =>
    if c = separator then [] :: splitAtEach separator rest
    else
      match splitAtEach separator rest with
      | [] => [[c]]
      | piece :: pieces => (c :: piece) :: pieces

/-- The pieces between the separators that are not empty. -/
def piecesBetween (separator : Char) (cs : List Char) : List (List Char) :=
  (splitAtEach separator cs).filter fun piece => !piece.isEmpty

/-- The characters before and after the first occurrence of a separator; nothing comes after if
there is none. -/
def splitFirst (separator : Char) (cs : List Char) : List Char × List Char :=
  (cs.takeWhile (· != separator), (cs.dropWhile (· != separator)).drop 1)

theorem splitAtEach_ne_nil (separator : Char) (cs : List Char) :
    splitAtEach separator cs ≠ [] := by
  induction cs with
  | nil => simp [splitAtEach]
  | cons c rest ih =>
    rw [splitAtEach]
    split
    · simp
    · split <;> simp

theorem notMem_of_mem_splitAtEach {separator : Char} {cs piece : List Char}
    (h : piece ∈ splitAtEach separator cs) : separator ∉ piece := by
  induction cs generalizing piece with
  | nil =>
    rw [splitAtEach, List.mem_singleton] at h
    simp [h]
  | cons c rest ih =>
    rw [splitAtEach] at h
    split at h
    · rcases List.mem_cons.1 h with rfl | h
      · simp
      · exact ih h
    · rename_i hc
      split at h
      · rw [List.mem_singleton.1 h, List.mem_singleton]
        exact fun e => hc e.symm
      · rename_i first pieces he
        rcases List.mem_cons.1 h with rfl | h
        · rw [List.mem_cons, not_or]
          exact ⟨fun e => hc e.symm, ih (he ▸ List.mem_cons_self)⟩
        · exact ih (he ▸ List.mem_cons_of_mem _ h)

/-- Nothing but the separators is lost. -/
theorem intercalate_splitAtEach (separator : Char) (cs : List Char) :
    [separator].intercalate (splitAtEach separator cs) = cs := by
  induction cs with
  | nil => rfl
  | cons c rest ih =>
    rw [splitAtEach]
    split
    · rename_i hc
      cases hs : splitAtEach separator rest with
      | nil => exact absurd hs (splitAtEach_ne_nil separator rest)
      | cons first pieces =>
        rw [hs] at ih
        rw [List.intercalate_cons_cons, ih, hc]
        rfl
    · split
      · rename_i he
        exact absurd he (splitAtEach_ne_nil separator rest)
      · rename_i first pieces he
        rw [he] at ih
        cases pieces with
        | nil => simpa using ih
        | cons second more =>
          rw [List.intercalate_cons_cons] at ih ⊢
          rw [← ih]
          rfl

end HttpDispatch.Text
