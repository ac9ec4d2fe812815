/-!
# Stores

Objects that are shared and change, such as loggers and handlers, live in stores; a reference
names the place of one.  Places are given out in order and never taken back, so a reference stays
good, and an object that is new is none of those that were there before.
-/

namespace HttpDispatch

/-- The place of an object in a store. -/
structure Ref (α : Type) where
  index : Nat

instance {α : Type} : Repr (Ref α) := ⟨fun r precedence => reprPrec r.index precedence⟩

instance {α : Type} : DecidableEq (Ref α) := fun a b =>
  decidable_of_iff (a.index = b.index) ⟨fun h => by cases a; cases b; simp_all, fun h => h ▸ rfl⟩

/-- Objects by place. -/
structure Store (α : Type) where
  items : List α

namespace Store

variable {α : Type}

/-- The store without an object. -/
def empty : Store α := ⟨[]⟩

instance : Inhabited (Store α) := ⟨empty⟩

/-- The object at a place; an arbitrary one where there is none. -/
def get [Inhabited α] (s : Store α) (r : Ref α) : α := s.items.getD r.index default

/-- The place that the next new object gets. -/
def next (s : Store α) : Ref α := ⟨s.items.length⟩

/-- Adds an object. -/
def push (s : Store α) (a : α) : Store α := ⟨s.items ++ [a]⟩

/-- Changes the object at a place. -/
def modify (s : Store α) (r : Ref α) (f : α → α) : Store α := ⟨s.items.modify r.index f⟩

/-- Whether a place is taken. -/
def Holds (s : Store α) (r : Ref α) : Prop := r.index < s.items.length

@[simp] theorem get_push_next [Inhabited α] (s : Store α) (a : α) : (s.push a).get s.next = a := by
  simp [get, push, next]

theorem get_push [Inhabited α] {s : Store α} {r : Ref α} (h : s.Holds r) (a : α) :
    (s.push a).get r = s.get r := by
  have h' : r.index < s.items.length := h
  simp [get, push, List.getD_eq_getElem?_getD, List.getElem?_append_left h']

theorem get_modify_self [Inhabited α] {s : Store α} {r : Ref α} (h : s.Holds r) (f : α → α) :
    (s.modify r f).get r = f (s.get r) := by
  have h' : r.index < s.items.length := h
  simp [get, modify, List.getD_eq_getElem?_getD, h']

theorem get_modify_ne [Inhabited α] {s : Store α} {r q : Ref α} (h : q ≠ r) (f : α → α) :
    (s.modify r f).get q = s.get q := by
  have h' : r.index ≠ q.index := by
    intro e
    exact h (by cases r; cases q; simp_all)
  simp [get, modify, List.getD_eq_getElem?_getD, h']

/-- A change that does nothing to the arbitrary object can be read off at every place. -/
theorem get_modify_of_default [Inhabited α] {f : α → α} (hf : f default = default) (s : Store α)
    (r : Ref α) : (s.modify r f).get r = f (s.get r) := by
  simp only [get, modify, List.getD_eq_getElem?_getD, List.getElem?_modify_eq]
  cases s.items[r.index]? with
  | none => exact hf.symm
  | some a => rfl

/-- A change that keeps what is read off an object keeps it for every object. -/
theorem apply_get_modify {β : Type} [Inhabited α] {g : α → β} {f : α → α}
    (hf : ∀ a, g (f a) = g a) (s : Store α) (r q : Ref α) :
    g ((s.modify r f).get q) = g (s.get q) := by
  simp only [get, modify, List.getD_eq_getElem?_getD, List.getElem?_modify]
  cases s.items[q.index]? with
  | none => rfl
  | some a =>
    by_cases h : r.index = q.index
    · simp [h, hf]
    · simp [h]

/-- Two changes of one object that commute may be made in either order. -/
theorem modify_comm {f g : α → α} (h : ∀ a, f (g a) = g (f a)) (s : Store α) (r : Ref α) :
    (s.modify r f).modify r g = (s.modify r g).modify r f := by
  have hfg : g ∘ f = f ∘ g := funext fun a => (h a).symm
  simp only [modify, List.modify_modify_eq, hfg]

end Store

end HttpDispatch
