import HttpDispatch.World.Run

/-!
# What is seen

The timeline only grows.  What a step adds to it is of two kinds: lines, which entries become at a
sink or on a console, and events, which show what services and transports do.  Some events show a
request on its way into a handler or a foreign route, and `requests` picks these out: it counts how
often a service has been run, and on what.
-/

namespace HttpDispatch

namespace Observation

/-- Whether this is a line: an entry at a sink, or something on a console. -/
def isLine : Observation → Bool
  | event _ => false
  | _ => true

/-- What is no line is an event. -/
theorem eq_event_of_isLine {o : Observation} (h : o.isLine = false) : ∃ e, o = event e := by
  cases o with
  | event e => exact ⟨e, rfl⟩
  | logged | printed | complained => cases h

/-- The request that is shown on its way into a handler or a foreign route. -/
def request? : Observation → Option Request
  | event (.handled _ _ seen) | event (.called _ seen) => some seen.request
  | _ => none

/-- The requests that are shown on their way into services, in order. -/
def requests (seen : List Observation) : List Request := seen.filterMap request?

@[simp] theorem requests_append (seen more : List Observation) :
    requests (seen ++ more) = requests seen ++ requests more :=
  List.filterMap_append

theorem requests_of_isLine {seen : List Observation} (h : ∀ o ∈ seen, o.isLine = true) :
    requests seen = [] := by
  rw [requests, List.filterMap_eq_nil_iff]
  intro o ho
  have hline := h o ho
  cases o with
  | event e => exact absurd hline (by simp [isLine])
  | logged | printed | complained => rfl

end Observation

namespace World

/-- The world when more has been seen in it. -/
def observing (w : World) (seen : List Observation) : World :=
  { w with timeline := w.timeline ++ seen }

@[simp] theorem observing_nil (w : World) : w.observing [] = w := by
  simp [observing]

@[simp] theorem observing_observing (w : World) (seen more : List Observation) :
    (w.observing seen).observing more = w.observing (seen ++ more) := by
  simp [observing]

@[simp] theorem timeline_observing (w : World) (seen : List Observation) :
    (w.observing seen).timeline = w.timeline ++ seen := rfl

@[simp] theorem transport_observing (w : World) (seen : List Observation) (io : String) :
    (w.observing seen).transport io = w.transport io := rfl

@[simp] theorem clock_observing (w : World) (seen : List Observation) :
    (w.observing seen).clock = w.clock := rfl

/-- Between two worlds, this is what was made out in what was seen. -/
def Yields {β : Type} (look : Observation → Option β) (w w' : World) (found : List β) : Prop :=
  ∃ seen, w'.timeline = w.timeline ++ seen ∧ seen.filterMap look = found

namespace Yields

variable {β : Type} {look : Observation → Option β} {w w₁ w₂ : World} {found more : List β}

theorem refl (w : World) : w.Yields look w [] := ⟨[], (List.append_nil _).symm, rfl⟩

theorem trans (h : w.Yields look w₁ found) (h' : w₁.Yields look w₂ more) :
    w.Yields look w₂ (found ++ more) := by
  obtain ⟨seen, ht, hf⟩ := h
  obtain ⟨seen', ht', hf'⟩ := h'
  refine ⟨seen ++ seen', ?_, ?_⟩
  · rw [ht', ht, List.append_assoc]
  · rw [List.filterMap_append, hf, hf']

end Yields

/-- Between two worlds, what was seen shows these requests on their way into services. -/
def Serves (w w' : World) (reqs : List Request) : Prop :=
  ∃ seen, w'.timeline = w.timeline ++ seen ∧ Observation.requests seen = reqs

theorem Serves.refl (w : World) : w.Serves w [] := Yields.refl w

theorem Serves.observing {w w' : World} {reqs : List Request} (h : w.Serves w' reqs)
    (more : List Observation) :
    w.Serves (w'.observing more) (reqs ++ Observation.requests more) := by
  obtain ⟨seen, ht, hr⟩ := h
  refine ⟨seen ++ more, ?_, ?_⟩
  · rw [timeline_observing, ht, List.append_assoc]
  · rw [Observation.requests_append, hr]

theorem Serves.lines {w w' : World} {reqs : List Request} (h : w.Serves w' reqs)
    {more : List Observation} (hmore : ∀ o ∈ more, o.isLine = true) :
    w.Serves (w'.observing more) reqs := by
  have h' := h.observing more
  rwa [Observation.requests_of_isLine hmore, List.append_nil] at h'

theorem Serves.trans {w w₁ w₂ : World} {reqs more : List Request} (h : w.Serves w₁ reqs)
    (h' : w₁.Serves w₂ more) : w.Serves w₂ (reqs ++ more) := Yields.trans h h'

end World

end HttpDispatch
