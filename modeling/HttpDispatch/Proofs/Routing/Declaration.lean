import HttpDispatch.Proofs.Routing.Activation
import HttpDispatch.Proofs.Text.UpperCase

/-!
# What a route accepts, by how it is declared

There are two ways to name a method of a route.  A method that is added, to a builder or to a
finished route, is put into canonical form.  One that a route is made with directly stays as it
stands.  Factories and services only hand the methods on, and a request brings its method in
canonical form, so this is where it is decided what a service accepts.

Main statement (`accepts_iff_of_declared`): a method that was added is accepted in every case and
padding, but one that stands in a route as it is, only if it is in canonical form itself.
-/

namespace HttpDispatch

namespace RouteBuilder

/-- A builder that these methods were added to, that of its shorthand first. -/
inductive Given : RouteBuilder → List String → Prop
  | build (path : String) : Given (Route.build path none) []
  | shorthand (path : String) (s : Route.Shorthand) : Given (Route.build path (some s)) [s.method]
  | method {b : RouteBuilder} {tokens : List String} (h : Given b tokens) (token : String) :
      Given (b.method token) (tokens ++ [token])

theorem Given.methods {b : RouteBuilder} {tokens : List String} (h : b.Given tokens) :
    b.methods = tokens.map Method.normalize := by
  induction h with
  | build path => rfl
  | shorthand path s => rfl
  | @method b tokens h token ih =>
    rw [List.map_append, ← ih]
    rfl

end RouteBuilder

namespace Route

/-- A route that was made with some methods as they stand, and that others were added to. -/
inductive Declared : Route → (asIs added : List String) → Prop
  | direct (path : String) (handler : Ref Handler) (methods : List String) :
      Declared ⟨path, handler, methods⟩ methods []
  | built {b : RouteBuilder} {tokens : List String} (h : b.Given tokens) (handler : Ref Handler) :
      Declared (b.withHandler handler) [] tokens
  | method {r : Route} {asIs added : List String} (h : Declared r asIs added) (token : String) :
      Declared (r.method token) asIs (added ++ [token])

variable {r : Route} {asIs added : List String}

theorem Declared.methods (h : r.Declared asIs added) :
    r.methods = asIs ++ added.map Method.normalize := by
  induction h with
  | direct path handler methods => simp
  | built h handler => exact h.methods
  | @method r asIs added h token ih =>
    rw [List.map_append, ← List.append_assoc, ← ih]
    rfl

/-- Factories hand on the methods of their route. -/
theorem methods_of_create {f : RouteFactory} {w w' : World}
    (h : Run.exec r.create w = (.ok f, w')) : f.methods = r.methods := by
  obtain ⟨handler, w₁, -, h⟩ := Run.exec_bind_eq_ok.1 h
  cases h
  rfl

/-- Services hand on the methods of their factory. -/
theorem methods_of_activate {f : RouteFactory} {given : Option (Ref Logger)} {s : RouteService}
    {w w' : World} (h : Run.exec (f.activate given) w = (.ok s, w')) : s.methods = f.methods := by
  obtain ⟨handler, w₁, l, -, -, rfl⟩ := RouteFactory.activate_eq_ok.1 h
  rfl

theorem Declared.accepts_iff (h : r.Declared asIs added) (token : String) :
    Method.accepts r.methods token = true ↔
      asIs ++ added = [] ∨ Method.normalize token ∈ asIs ∨
        ∃ v ∈ added, Method.normalize v = Method.normalize token := by
  rw [Method.accepts_iff, h.methods, List.mem_append, List.mem_map, List.append_eq_nil_iff,
    List.append_eq_nil_iff, List.map_eq_nil_iff]

/-- **What a service accepts.**  A service of a route accepts every method if the route names none,
and otherwise the methods that were added, whatever their case and padding, and those that stand in
the route as they are and are the canonical form of what is asked for.  Nothing else is accepted,
and what the route names is accepted in every spelling exactly if the canonical form of each method that
stands as it is is named as well. -/
theorem accepts_iff_of_declared (h : r.Declared asIs added) {f : RouteFactory} {s : RouteService}
    {given : Option (Ref Logger)} {w w₁ w₂ w₃ : World}
    (hcreate : Run.exec r.create w = (.ok f, w₁))
    (hactivate : Run.exec (f.activate given) w₂ = (.ok s, w₃)) :
    (∀ token, s.accepts token = true ↔
      asIs ++ added = [] ∨ Method.normalize token ∈ asIs ∨
        ∃ v ∈ added, Method.normalize v = Method.normalize token) ∧
    (∀ token, s.accepts token = true →
      asIs ++ added = [] ∨ ∃ v ∈ asIs ++ added, Method.normalize v = Method.normalize token) ∧
    ((∀ token, s.accepts token = true ↔
        asIs ++ added = [] ∨ ∃ v ∈ asIs ++ added, Method.normalize v = Method.normalize token) ↔
      ∀ v ∈ asIs, Method.normalize v ∈ asIs ∨
        ∃ u ∈ added, Method.normalize u = Method.normalize v) := by
  have hmethods : s.methods = r.methods :=
    (methods_of_activate hactivate).trans (methods_of_create hcreate)
  have haccepts : ∀ token, s.accepts token = true ↔
      asIs ++ added = [] ∨ Method.normalize token ∈ asIs ∨
        ∃ v ∈ added, Method.normalize v = Method.normalize token := by
    intro token
    rw [RouteService.accepts, hmethods]
    exact h.accepts_iff token
  have hsound : ∀ token, s.accepts token = true →
      asIs ++ added = [] ∨ ∃ v ∈ asIs ++ added, Method.normalize v = Method.normalize token := by
    intro token hs
    rcases (haccepts token).1 hs with hnil | hmem | ⟨v, hv, heq⟩
    · exact .inl hnil
    · have hcanonical := Method.normalize_normalize token
      exact .inr ⟨_, List.mem_append_left _ hmem, hcanonical⟩
    · exact .inr ⟨v, List.mem_append_right _ hv, heq⟩
  refine ⟨haccepts, hsound, fun hall v hv => ?_, fun hcanonical token => ⟨hsound token, ?_⟩⟩
  · have hne : asIs ++ added ≠ [] := List.ne_nil_of_mem (List.mem_append_left _ hv)
    have hs := (hall v).2 (.inr ⟨v, List.mem_append_left _ hv, rfl⟩)
    exact ((haccepts v).1 hs).resolve_left hne
  · rintro (hnil | ⟨v, hv, heq⟩)
    · exact (haccepts token).2 (.inl hnil)
    · apply (haccepts token).2
      right
      rw [← heq]
      rcases List.mem_append.1 hv with hv | hv
      · exact hcanonical v hv
      · exact .inr ⟨v, hv, rfl⟩

/-- A method that was added to a route that was made directly. -/
theorem accepts_iff_of_declared_putAdded :
    Declared (Route.method ⟨"/x", ⟨0⟩, ["get", "GET"]⟩ " put ") ["get", "GET"] [" put "] ∧
      ∃ f s w, Run.exec (Route.method ⟨"/x", ⟨0⟩, ["get", "GET"]⟩ " put ").create
          (.initial 0 [] ∅) = (.ok f, w) ∧
        Run.exec (f.activate (some ⟨0⟩)) w = (.ok s, w) ∧
        s.accepts "Put" = true ∧ s.accepts "gEt" = true ∧ s.accepts "post" = false := by
  let r := Route.method ⟨"/x", ⟨0⟩, ["get", "GET"]⟩ " put "
  have h : r.Declared ["get", "GET"] [" put "] := .method (.direct _ _ _) _
  let w := World.initial 0 [] ∅
  have hcreate : Run.exec r.create w = (.ok ⟨⟨0⟩, r.methods⟩, w) := rfl
  have hactivate : Run.exec (RouteFactory.activate ⟨⟨0⟩, r.methods⟩ (some ⟨0⟩)) w =
      (.ok ⟨⟨0⟩, r.methods, ⟨0⟩⟩, w) := rfl
  obtain ⟨haccepts, -, -⟩ := accepts_iff_of_declared h hcreate hactivate
  refine ⟨h, _, _, w, hcreate, hactivate, (haccepts "Put").2 (by decide),
    (haccepts "gEt").2 (by decide), ?_⟩
  exact eq_false_of_ne_true (mt (haccepts "post").1 (by decide))

/-- A route that is made directly with a method in small letters does not accept it. -/
theorem not_accepts_iff_of_declared :
    ¬ ∀ (r : Route) (asIs added : List String) (f : RouteFactory) (s : RouteService)
        (given : Option (Ref Logger)) (w w₁ w₂ w₃ : World),
      r.Declared asIs added → Run.exec r.create w = (.ok f, w₁) →
      Run.exec (f.activate given) w₂ = (.ok s, w₃) →
      ∀ token, s.accepts token = true ↔
        asIs ++ added = [] ∨
          ∃ v ∈ asIs ++ added, Method.normalize v = Method.normalize token := by
  intro h
  let w := World.initial 0 [] ∅
  have hget := h ⟨"/x", ⟨0⟩, ["get"]⟩ ["get"] [] ⟨⟨0⟩, ["get"]⟩ ⟨⟨0⟩, ["get"], ⟨0⟩⟩ (some ⟨0⟩)
    w w w w (.direct _ _ _) rfl rfl "get"
  have haccepts := hget.2 (.inr ⟨"get", List.mem_singleton_self _, rfl⟩)
  exact absurd haccepts (by decide)

end Route

end HttpDispatch
