import HttpDispatch.Proofs.World.Timeline

/-!
# What a program leaves alone

Most programs never touch a handler, and those that clone one only add to the store: whatever was
in it stays there, with the same script and at the same count.  The first are said to leave the
handlers, the others to keep them, and both hold of programs that are put together of such.
-/

namespace HttpDispatch

namespace Store

variable {α β : Type} [Inhabited α]

/-- Every object of the first store is in the second one and looks the same there. -/
structure Keeps (look : α → β) (s s' : Store α) : Prop where
  holds : ∀ {r : Ref α}, s.Holds r → s'.Holds r
  same : ∀ {r : Ref α}, s.Holds r → look (s'.get r) = look (s.get r)

variable {look : α → β} {s s' s'' : Store α}

omit [Inhabited α] in
@[simp] theorem holds_modify (s : Store α) (r q : Ref α) (f : α → α) :
    (s.modify r f).Holds q ↔ s.Holds q := by
  simp [Holds, modify]

omit [Inhabited α] in
theorem holds_push {r : Ref α} (h : s.Holds r) (a : α) : (s.push a).Holds r := by
  simp only [Holds, push, List.length_append] at *
  omega

omit [Inhabited α] in
theorem holds_push_next (s : Store α) (a : α) : (s.push a).Holds s.next := by
  simp [Holds, push, next]

/-- A new object changes nothing at any place but its own. -/
theorem get_push_of_ne {r : Ref α} (h : r ≠ s.next) (a : α) : (s.push a).get r = s.get r := by
  have hindex : r.index ≠ s.items.length := by
    intro heq
    exact h (by cases r; exact congrArg Ref.mk heq)
  by_cases hr : s.Holds r
  · exact get_push hr a
  · have hbeyond : s.items.length < r.index := Nat.lt_of_le_of_ne (Nat.not_lt.1 hr) hindex.symm
    have hold : s.items[r.index]? = none := List.getElem?_eq_none (Nat.le_of_lt hbeyond)
    have hnew : (s.items ++ [a])[r.index]? = none := by
      apply List.getElem?_eq_none
      rw [List.length_append]
      exact hbeyond
    simp only [get, push, List.getD_eq_getElem?_getD, hold, hnew]

omit [Inhabited α] in
/-- The place of the next new object is not taken. -/
theorem not_holds_next (s : Store α) : ¬ s.Holds s.next := Nat.lt_irrefl _

theorem Keeps.refl (s : Store α) : s.Keeps look s := ⟨id, fun _ => rfl⟩

theorem Keeps.trans (h : s.Keeps look s') (h' : s'.Keeps look s'') : s.Keeps look s'' :=
  ⟨fun hr => h'.holds (h.holds hr), fun hr => (h'.same (h.holds hr)).trans (h.same hr)⟩

theorem Keeps.push (s : Store α) (a : α) : s.Keeps look (s.push a) :=
  ⟨fun hr => holds_push hr a, fun hr => congrArg look (get_push hr a)⟩

theorem Keeps.modify {f : α → α} (hf : ∀ a, look (f a) = look a) (s : Store α) (r : Ref α) :
    s.Keeps look (s.modify r f) :=
  ⟨(holds_modify s r _ f).2, fun _ => apply_get_modify hf s r _⟩

end Store

/-- What decides how a handler handles its next request: its script and its count. -/
def Handler.standing (h : Handler) : Script × Int := (h.script, h.count)

theorem Handler.script_eq {h h' : Handler} (heq : h.standing = h'.standing) :
    h.script = h'.script := congrArg Prod.fst heq

theorem Handler.count_eq {h h' : Handler} (heq : h.standing = h'.standing) :
    h.count = h'.count := congrArg Prod.snd heq

namespace Run

variable {α β : Type}

theorem exec_bind_eq_ok {p : Run α} {f : α → Run β} {w w' : World} {b : β} :
    exec (p >>= f) w = (.ok b, w') ↔
      ∃ a w₁, exec p w = (.ok a, w₁) ∧ exec (f a) w₁ = (.ok b, w') := by
  rw [exec_bind]
  cases hp : exec p w with
  | mk result w₁ =>
    cases result with
    | ok a =>
      constructor
      · exact fun h => ⟨a, w₁, rfl, h⟩
      · rintro ⟨_, _, ⟨⟩, h⟩
        exact h
    | error v =>
      constructor
      · nofun
      · rintro ⟨_, _, ⟨⟩, _⟩

/-- A transitive relation that holds across each of two programs holds across both of them, and
also where the first one throws. -/
theorem exec_bind_along {R : World → World → Prop} {p : Run α} {f : α → Run β} {w : World}
    (trans : ∀ {w₁ w₂ w₃}, R w₁ w₂ → R w₂ w₃ → R w₁ w₃) (hp : R w (exec p w).2)
    (hf : ∀ a w₁, R w₁ (exec (f a) w₁).2) : R w (exec (p >>= f) w).2 := by
  rw [exec_bind]
  cases hw : exec p w with
  | mk result w₁ =>
    rw [hw] at hp
    cases result with
    | ok a => exact trans hp (hf a w₁)
    | error v => exact hp

/-- A program that leaves all handlers as they are. -/
def LeavesHandlers (p : Run α) : Prop := ∀ w, (exec p w).2.handlers = w.handlers

namespace LeavesHandlers

theorem pure (a : α) : LeavesHandlers (Pure.pure a) := fun _ => rfl

theorem raise (v : Value) : LeavesHandlers (Run.raise v : Run α) := fun _ => rfl

theorem bind {p : Run α} {f : α → Run β} (hp : LeavesHandlers p)
    (hf : ∀ a, LeavesHandlers (f a)) : LeavesHandlers (p >>= f) := fun w =>
  exec_bind_along (R := fun w w' => w'.handlers = w.handlers) (fun h h' => h'.trans h) (hp w) hf

theorem attempt {p : Run α} (hp : LeavesHandlers p) : LeavesHandlers (Run.attempt p) := hp

end LeavesHandlers

/-- A program that may add handlers, but keeps those that are there. -/
def KeepsHandlers (p : Run α) : Prop :=
  ∀ w : World, w.handlers.Keeps Handler.standing (exec p w).2.handlers

theorem LeavesHandlers.keeps {p : Run α} (hp : LeavesHandlers p) : KeepsHandlers p := by
  intro w
  rw [hp w]
  exact .refl _

theorem KeepsHandlers.bind {p : Run α} {f : α → Run β} (hp : KeepsHandlers p)
    (hf : ∀ a, KeepsHandlers (f a)) : KeepsHandlers (p >>= f) := fun w =>
  exec_bind_along (R := fun w w' => w.handlers.Keeps Handler.standing w'.handlers) .trans (hp w) hf

end Run

end HttpDispatch
