import HttpDispatch.Dict

/-!
# Parameters

The parameters of a request, from the captures of a path pattern or from its query, are texts
under text keys.  A key that is given twice keeps its last value.  One key is reserved:
`__proto__` is never a parameter, whatever a request says (`get?_ofList_eq_some_iff`).
-/

namespace HttpDispatch

/-- Texts under text keys. -/
abbrev Params := Dict String

namespace Params

/-- The key that names no parameter. -/
def reserved : String := "__proto__"

/-- Gives a parameter its value; the reserved key is passed over. -/
def assign (p : Params) (key value : String) : Params :=
  if key = reserved then p else p.set key value

/-- The parameters of a list of assignments. -/
def ofList (assignments : List (String × String)) : Params :=
  assignments.foldl (fun p a => p.assign a.1 a.2) ∅

theorem get?_assign (p : Params) (key value other : String) :
    (p.assign key value).get? other =
      if other = key ∧ key ≠ reserved then some value else p.get? other := by
  rw [assign]
  by_cases h : key = reserved
  · simp [h]
  · rw [if_neg h, Dict.get?_set]
    simp [h]

theorem get?_foldl_assign_reserved (assignments : List (String × String)) (p : Params)
    (h : p.get? reserved = none) :
    (assignments.foldl (fun p a => p.assign a.1 a.2) p).get? reserved = none := by
  induction assignments generalizing p with
  | nil => exact h
  | cons a rest ih =>
    refine ih _ ?_
    rw [get?_assign, if_neg (fun e => e.2 e.1.symm), h]

theorem get?_foldl_assign (assignments : List (String × String)) (p : Params) {key : String}
    (h : key ≠ reserved) :
    (assignments.foldl (fun p a => p.assign a.1 a.2) p).get? key =
      (assignments.reverse.lookup key).or (p.get? key) := by
  induction assignments generalizing p with
  | nil => rfl
  | cons a rest ih =>
    obtain ⟨k, value⟩ := a
    rw [List.foldl_cons, ih, get?_assign, List.reverse_cons, List.lookup_append]
    by_cases hk : key = k
    · subst hk
      simp [h]
    · have hb : (key == k) = false := beq_eq_false_iff_ne.2 hk
      simp [hk, hb, List.lookup_cons]

/-- Of several values under one key the last one holds. -/
theorem get?_ofList (assignments : List (String × String)) {key : String} (h : key ≠ reserved) :
    (ofList assignments).get? key = assignments.reverse.lookup key := by
  have hempty : (∅ : Params).get? key = none := rfl
  rw [ofList, get?_foldl_assign assignments ∅ h, hempty, Option.or_none]

/-- The reserved key never has a value. -/
theorem get?_ofList_reserved (assignments : List (String × String)) :
    (ofList assignments).get? reserved = none :=
  get?_foldl_assign_reserved assignments ∅ rfl

/-- The last of the assignments to a key gives it this value. -/
def Last (assignments : List (String × String)) (key value : String) : Prop :=
  ∃ before after, assignments = before ++ (key, value) :: after ∧ ∀ a ∈ after, a.1 ≠ key

theorem lookup_reverse_eq_some_iff {assignments : List (String × String)} {key value : String} :
    assignments.reverse.lookup key = some value ↔ Last assignments key value := by
  rw [List.lookup_eq_some_iff]
  constructor
  · rintro ⟨after, before, h, hafter⟩
    refine ⟨before.reverse, after.reverse, ?_, fun a ha => ?_⟩
    · simpa using congrArg List.reverse h
    · exact fun e => bne_iff_ne.1 (hafter a (List.mem_reverse.1 ha)) e.symm
  · rintro ⟨before, after, rfl, hafter⟩
    refine ⟨after.reverse, before.reverse, by simp, fun a ha => ?_⟩
    exact bne_iff_ne.2 fun e => hafter a (List.mem_reverse.1 ha) e.symm

/-- A key has the value of the last assignment to it, unless it is the reserved one. -/
theorem get?_ofList_eq_some_iff {assignments : List (String × String)} {key value : String} :
    (ofList assignments).get? key = some value ↔ key ≠ reserved ∧ Last assignments key value := by
  by_cases h : key = reserved
  · simp [h, get?_ofList_reserved]
  · rw [get?_ofList assignments h, lookup_reverse_eq_some_iff, and_iff_right h]

end Params

end HttpDispatch
