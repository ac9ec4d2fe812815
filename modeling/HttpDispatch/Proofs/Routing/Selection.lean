import HttpDispatch.Routing.Connection
import Mathlib.Data.List.Basic

/-!
# Which service takes a request

A route covers a path if its pattern fits it, and takes a request if its service accepts the method
besides.  Dispatching finds the first route that takes the request; where none does, it gathers the
methods of all routes that cover the path, in order.  `dispatch_eq` says this in one equation, by
the search functions for lists, so that nothing is left of the loop and its two accumulators.

The gathered methods are listed without repetition, each where it first occurs.
-/

namespace HttpDispatch

/-- The members of a list, each once, in the order in which they first occur in it. -/
structure FirstOccurrences (kept all : List String) : Prop where
  mem : ∀ x, x ∈ kept ↔ x ∈ all
  ordered : kept.Pairwise fun x y => all.idxOf x < all.idxOf y

namespace FirstOccurrences

/-- Dropping members does not change the order in which the others first occur. -/
theorem idxOf_lt_of_filter {p : String → Bool} {all : List String} {x y : String}
    (hx : p x = true) (hy : p y = true)
    (h : (all.filter p).idxOf x < (all.filter p).idxOf y) : all.idxOf x < all.idxOf y := by
  induction all with
  | nil => simp at h
  | cons a rest ih =>
    rw [List.filter_cons] at h
    by_cases hax : a = x
    · subst hax
      rw [if_pos hx, List.idxOf_cons_self] at h
      rw [List.idxOf_cons_self]
      by_cases hay : a = y
      · subst hay
        rw [List.idxOf_cons_self] at h
        exact absurd h (Nat.lt_irrefl 0)
      · rw [List.idxOf_cons_ne _ hay]
        exact Nat.succ_pos _
    · by_cases hay : a = y
      · subst hay
        rw [if_pos hy, List.idxOf_cons_self] at h
        exact absurd h (Nat.not_lt_zero _)
      · rw [List.idxOf_cons_ne _ hax, List.idxOf_cons_ne _ hay]
        refine Nat.succ_lt_succ (ih ?_)
        by_cases ha : p a = true
        · rw [if_pos ha, List.idxOf_cons_ne _ hax, List.idxOf_cons_ne _ hay] at h
          exact Nat.lt_of_succ_lt_succ h
        · rwa [if_neg ha] at h

theorem eraseDups (all : List String) : FirstOccurrences all.eraseDups all := by
  refine ⟨fun x => List.mem_eraseDups, ?_⟩
  induction hn : all.length using Nat.strongRecOn generalizing all with
  | ind n ih =>
    cases all with
    | nil => exact List.Pairwise.nil
    | cons a rest =>
      have hlt : (rest.filter fun b => !b == a).length < n := by
        subst hn
        exact Nat.lt_succ_of_le (List.length_filter_le _ _)
      have hne : ∀ x ∈ (rest.filter fun b => !b == a).eraseDups, (!x == a) = true := by
        intro x hx
        exact (List.mem_filter.1 (List.mem_eraseDups.1 hx)).2
      have hidx : ∀ x, (!x == a) = true → (a :: rest).idxOf x = rest.idxOf x + 1 := by
        intro x hx
        refine List.idxOf_cons_ne _ ?_
        rintro rfl
        simp at hx
      rw [List.eraseDups_cons, List.pairwise_cons]
      constructor
      · intro x hx
        rw [List.idxOf_cons_self, hidx x (hne x hx)]
        exact Nat.succ_pos _
      · refine (ih _ hlt _ rfl).imp_of_mem ?_
        intro x y hx hy h
        rw [hidx x (hne x hx), hidx y (hne y hy)]
        exact Nat.succ_lt_succ (idxOf_lt_of_filter (hne x hx) (hne y hy) h)

end FirstOccurrences

namespace MountedService

/-- Whether the pattern of a route fits a path. -/
def covers (path : String) (m : MountedService) : Bool := (m.pattern.params? path).isSome

/-- Whether a route takes a request for a path with a method. -/
def takes (path method : String) (m : MountedService) : Bool :=
  m.covers path && m.service.accepts method

theorem find?_eq_none {path method : String} {routes : List MountedService}
    (h : ∀ m ∈ routes, m.takes path method = false) :
    routes.find? (·.takes path method) = none := by
  rw [List.find?_eq_none]
  intro m hm
  rw [h m hm]
  decide

end MountedService

namespace Connection

/-- The methods of the routes that cover a path, in order. -/
def methodsAt (path : String) (routes : List MountedService) : List String :=
  (routes.filter (·.covers path)).flatMap (·.service.methods)

/-- What becomes of a request, by searching the routes. -/
theorem dispatch_eq (path method : String) (routes : List MountedService) :
    dispatch path method routes =
      match routes.find? (·.takes path method) with
      | some m => .taken m ((m.pattern.params? path).getD ∅)
      | none => if routes.any (·.covers path) then .notAllowed (methodsAt path routes) else .noRoute := by
  induction routes with
  | nil => rfl
  | cons m rest ih =>
    rw [dispatch]
    cases hp : m.pattern.params? path with
    | none =>
      have hc : m.covers path = false := by simp [MountedService.covers, hp]
      have ht : m.takes path method = false := by simp [MountedService.takes, hc]
      simp only [List.find?_cons, ht, ih, List.any_cons, hc, Bool.false_or, methodsAt,
        List.filter_cons, Bool.false_eq_true, if_false]
    | some params =>
      have hc : m.covers path = true := by simp [MountedService.covers, hp]
      by_cases ha : m.service.accepts method = true
      · have ht : m.takes path method = true := by simp [MountedService.takes, hc, ha]
        simp only [List.find?_cons, ht, if_pos ha, hp, Option.getD_some]
      · have ht : m.takes path method = false := by simp [MountedService.takes, hc, ha]
        simp only [List.find?_cons, ht, if_neg ha, ih, List.any_cons, hc, Bool.true_or, if_true,
          methodsAt, List.filter_cons, List.flatMap_cons]
        cases hf : rest.find? (·.takes path method) with
        | some r => rfl
        | none =>
          simp only
          by_cases hany : rest.any (·.covers path) = true
          · rw [if_pos hany]
          · have hnil : rest.filter (·.covers path) = [] := by
              rw [List.filter_eq_nil_iff]
              intro r hr hcov
              exact hany (List.any_eq_true.2 ⟨r, hr, hcov⟩)
            rw [if_neg hany, hnil]
            simp

end Connection

end HttpDispatch
