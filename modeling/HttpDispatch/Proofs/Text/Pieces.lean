import HttpDispatch.Text.Split
import Mathlib.Data.List.TakeWhile

/-!
# Pieces that are put together again

Splitting undoes joining where no piece has the separator in it.  This holds of all pieces
(`splitAtEach_intercalate`), of those that are not empty, whether the separator stands between them
or before each of them (`piecesBetween_intercalate`, `piecesBetween_flatMap`), and of the two parts
around the first separator (`splitFirst_append`), of which the second is empty where there is no
separator (`splitFirst_of_notMem`).
-/

namespace HttpDispatch.Text

variable {separator : Char} {l rest : List Char} {ls : List (List Char)}

theorem splitAtEach_of_notMem (h : separator ∉ l) : splitAtEach separator l = [l] := by
  induction l with
  | nil => rfl
  | cons c l ih =>
    obtain ⟨hc, hl⟩ := not_or.1 (mt List.mem_cons.2 h)
    rw [splitAtEach, if_neg (Ne.symm hc), ih hl]

theorem splitAtEach_append (h : separator ∉ l) (rest : List Char) :
    splitAtEach separator (l ++ separator :: rest) = l :: splitAtEach separator rest := by
  induction l with
  | nil =>
    rw [List.nil_append, splitAtEach, if_pos rfl]
  | cons c l ih =>
    obtain ⟨hc, hl⟩ := not_or.1 (mt List.mem_cons.2 h)
    rw [List.cons_append, splitAtEach, if_neg (Ne.symm hc), ih hl]

/-- Pieces without the separator, joined by it, are the pieces of the split. -/
theorem splitAtEach_intercalate (hne : ls ≠ []) (h : ∀ l ∈ ls, separator ∉ l) :
    splitAtEach separator ([separator].intercalate ls) = ls := by
  induction ls with
  | nil => exact absurd rfl hne
  | cons l ls ih =>
    have hl := h l List.mem_cons_self
    cases ls with
    | nil =>
      rw [List.intercalate_singleton]
      exact splitAtEach_of_notMem hl
    | cons k ls =>
      have hmore := ih (List.cons_ne_nil k ls) fun l hm => h l (List.mem_cons_of_mem _ hm)
      rw [List.intercalate_cons_cons, List.append_assoc, List.singleton_append,
        splitAtEach_append hl, hmore]

theorem filter_nonempty_eq_self (h : ∀ l ∈ ls, l ≠ []) :
    (ls.filter fun piece => !piece.isEmpty) = ls := by
  apply List.filter_eq_self.2
  intro l hl
  cases l with
  | nil => exact absurd rfl (h [] hl)
  | cons c l => rfl

theorem piecesBetween_intercalate (h : ∀ l ∈ ls, separator ∉ l) (hne : ∀ l ∈ ls, l ≠ []) :
    piecesBetween separator ([separator].intercalate ls) = ls := by
  cases ls with
  | nil => rfl
  | cons l ls =>
    rw [piecesBetween, splitAtEach_intercalate (List.cons_ne_nil l ls) h]
    exact filter_nonempty_eq_self hne

theorem append_flatMap_eq_intercalate (l : List Char) (ls : List (List Char)) :
    l ++ ls.flatMap (separator :: ·) = [separator].intercalate (l :: ls) := by
  induction ls generalizing l with
  | nil => simp
  | cons k ls ih =>
    rw [List.flatMap_cons, List.cons_append, ih k, List.intercalate_cons_cons, List.append_assoc,
      List.singleton_append]

theorem piecesBetween_flatMap (h : ∀ l ∈ ls, separator ∉ l) (hne : ∀ l ∈ ls, l ≠ []) :
    piecesBetween separator (ls.flatMap (separator :: ·)) = ls := by
  -- What stands before the first separator is one more piece, and it is empty.
  have hjoin := @append_flatMap_eq_intercalate separator [] ls
  have hall : ∀ l ∈ [] :: ls, separator ∉ l := by
    intro l hl
    rcases List.mem_cons.1 hl with rfl | hl
    · exact List.not_mem_nil
    · exact h l hl
  rw [List.nil_append] at hjoin
  rw [hjoin, piecesBetween, splitAtEach_intercalate (List.cons_ne_nil [] ls) hall,
    List.filter_cons_of_neg (by decide)]
  exact filter_nonempty_eq_self hne

theorem mem_intercalate {c : Char} (hl : l ∈ ls) (hc : c ∈ l) (separator : List Char) :
    c ∈ separator.intercalate ls := by
  induction ls with
  | nil => cases hl
  | cons k ls ih =>
    cases ls with
    | nil =>
      rw [List.mem_singleton] at hl
      rwa [List.intercalate_singleton, ← hl]
    | cons m ls =>
      rw [List.intercalate_cons_cons, List.mem_append, List.mem_append]
      rcases List.mem_cons.1 hl with rfl | hmore
      · exact .inl (.inl hc)
      · exact .inr (ih hmore)

theorem mem_of_mem_splitAtEach {c : Char} (hl : l ∈ splitAtEach separator rest) (hc : c ∈ l) :
    c ∈ rest := by
  rw [← intercalate_splitAtEach separator rest]
  exact mem_intercalate hl hc [separator]

theorem bne_of_mem (h : separator ∉ l) : ∀ c ∈ l, (c != separator) = true := by
  intro c hc
  rw [bne_iff_ne]
  rintro rfl
  exact h hc

theorem splitFirst_append (h : separator ∉ l) (rest : List Char) :
    splitFirst separator (l ++ separator :: rest) = (l, rest) := by
  rw [splitFirst, List.takeWhile_append_of_pos (bne_of_mem h),
    List.dropWhile_append_of_pos (bne_of_mem h)]
  simp

theorem splitFirst_of_notMem (h : separator ∉ l) : splitFirst separator l = (l, []) := by
  rw [splitFirst, List.takeWhile_eq_self_iff.2 (bne_of_mem h),
    List.dropWhile_eq_nil_iff.2 (bne_of_mem h), List.drop_nil]

end HttpDispatch.Text
