import HttpDispatch.Proofs.Log.Emission
import HttpDispatch.Proofs.Log.Tracing
import Mathlib.Data.List.Induction

/-!
# The trace of a descendant

A logger that descends from one outside any trace is known by the positions that were given on the
way to it.  Its entries carry the trace of the last position and the span of the last one that is a
span at all (`Logger.traceId_descend`, `Logger.spanId_descend`): a position outside any span says
nothing of the span, and so the inherited one stays, even if its trace does not.

So the span of an entry is one of its trace exactly if the last span on the path belongs to the
trace of the last position, as long as the ids of spans in different traces differ
(`Logger.decides_of_stamps`).
-/

namespace HttpDispatch

namespace Trace

open Run

/-- These positions have been made, in this order: each is the start of a trace, or a span below
one that had been made before. -/
inductive Made : List Trace → Prop
  | nil : Made []
  | start {made : List Trace} {given : Option String} {t : Trace} {w w' : World} :
      Made made → exec (startTrace given) w = (.ok t, w') → Made (made ++ [t])
  | span {made : List Trace} {parent t : Trace} {w w' : World} :
      Made made → parent ∈ made → exec (startSpan parent) w = (.ok t, w') → Made (made ++ [t])

/-- Among what has been made there is a span of this id, below a position in a trace of this id. -/
def SpanIn (made : List Trace) (traceId spanId : String) : Prop :=
  ∃ parent ∈ made, ∃ t ∈ made, (∃ w w', exec (startSpan parent) w = (.ok t, w')) ∧
    parent.traceId = traceId ∧ t.spanId = some spanId

theorem SpanIn.mono {made more : List Trace} {traceId spanId : String}
    (h : SpanIn made traceId spanId) (hsub : made ⊆ more) : SpanIn more traceId spanId := by
  obtain ⟨parent, hparent, t, ht, hspan⟩ := h
  exact ⟨parent, hsub hparent, t, hsub ht, hspan⟩

theorem spanId_of_startTrace {given : Option String} {t : Trace} {w w' : World}
    (h : exec (startTrace given) w = (.ok t, w')) : t.spanId = none := by
  rw [exec_startTrace] at h
  cases h
  rfl

theorem traceId_of_startSpan {parent t : Trace} {w w' : World}
    (h : exec (startSpan parent) w = (.ok t, w')) : t.traceId = parent.traceId := by
  rw [exec_startSpan] at h
  cases h
  rfl

/-- Only a span has a span id, and it is a span of its trace. -/
theorem Made.spanIn {made : List Trace} (h : Made made) {t : Trace} (ht : t ∈ made)
    {spanId : String} (hid : t.spanId = some spanId) : SpanIn made t.traceId spanId := by
  induction h with
  | nil => exact absurd ht List.not_mem_nil
  | start hmade hstart ih =>
    rcases List.mem_append.1 ht with hold | hnew
    · exact (ih hold).mono (List.subset_append_left _ _)
    · rw [List.mem_singleton.1 hnew, spanId_of_startTrace hstart] at hid
      nomatch hid
  | @span made parent _ _ _ hmade hparent hspan ih =>
    rcases List.mem_append.1 ht with hold | hnew
    · exact (ih hold).mono (List.subset_append_left _ _)
    · obtain rfl := List.mem_singleton.1 hnew
      have hsame := traceId_of_startSpan hspan
      exact ⟨parent, List.mem_append_left _ hparent, t, ht, ⟨_, _, hspan⟩, hsame.symm, hid⟩

/-- A path over what has been made goes on to what is made next. -/
theorem concat_subset_concat {path made : List Trace} (h : path ⊆ made) (t : Trace) :
    path ++ [t] ⊆ made ++ [t] :=
  List.append_subset.2 ⟨List.subset_append_of_subset_left _ h, List.subset_append_right _ _⟩

/-- Spans of different traces have different ids. -/
def Apart (made : List Trace) : Prop :=
  ∀ a ∈ made, ∀ b ∈ made, ∀ spanId, a.spanId = some spanId → b.spanId = some spanId →
    a.traceId = b.traceId

/-- The last span on a path. -/
def lastSpan? (path : List Trace) : Option Trace := path.reverse.find? (·.spanId.isSome)

theorem lastSpan?_append_of_some (path : List Trace) {t : Trace} (h : t.spanId.isSome = true) :
    lastSpan? (path ++ [t]) = some t := by
  rw [lastSpan?, List.reverse_append]
  exact List.find?_cons_of_pos h

theorem lastSpan?_append_of_none (path : List Trace) {t : Trace} (h : t.spanId = none) :
    lastSpan? (path ++ [t]) = lastSpan? path := by
  have hnot : ¬ t.spanId.isSome = true := by rw [h]; decide
  rw [lastSpan?, List.reverse_append]
  exact List.find?_cons_of_neg hnot

theorem mem_of_lastSpan?_eq_some {path : List Trace} {t : Trace} (h : lastSpan? path = some t) :
    t ∈ path := List.mem_reverse.1 (List.mem_of_find?_eq_some h)

/-- A path ends in the trace of its last span, if there is a span on it. -/
def EndsWithin (path : List Trace) : Prop :=
  ∀ p, lastSpan? path = some p → path.getLast?.map traceId = some p.traceId

/-- A path that ends in a span ends within the trace of this one. -/
theorem endsWithin_of_span (path : List Trace) {t : Trace} (h : t.spanId.isSome = true) :
    EndsWithin (path ++ [t]) := by
  intro p hp
  rw [lastSpan?_append_of_some path h] at hp
  rw [List.getLast?_concat, Option.some.inj hp]
  rfl

end Trace

namespace Entry

/-- If the entry carries both a trace and a span, this is a span of that trace, made as one. -/
def WithinOneTrace (e : Entry) (made : List Trace) : Prop :=
  ∀ traceId spanId, e.traceId = some traceId → e.spanId = some spanId →
    Trace.SpanIn made traceId spanId

end Entry

/-- A path decides whether these entries mix traces: they do not if it ends within the trace of its
last span.  Otherwise they do, where there is any, unless spans of different traces may have the
same id. -/
structure Trace.Decides (path made : List Trace) (entries : List Entry) : Prop where
  within : EndsWithin path → ∀ e ∈ entries, e.WithinOneTrace made
  only : Apart made → (∀ e ∈ entries, e.WithinOneTrace made) → entries = [] ∨ EndsWithin path

namespace Logger

/-- The entry carries what the logger stamps on all of its entries. -/
structure Stamps (l : Logger) (e : Entry) : Prop where
  traceId : e.traceId = l.trace.map Trace.traceId
  spanId : e.spanId = l.trace.bind Trace.spanId

theorem stamps_entry (l : Logger) (clock : Int) (level : Level) (message : String)
    (context : Option Json) (error : Option ErrorSummary) :
    l.Stamps (l.entry clock level message context error) := ⟨rfl, rfl⟩

/-- The descendant of a logger outside any trace to which these positions lead. -/
def descend (s : Settings) (path : List Trace) : Logger := path.foldl child (ofSettings s)

theorem descend_append (s : Settings) (path : List Trace) (t : Trace) :
    descend s (path ++ [t]) = (descend s path).child t := by
  rw [descend, List.foldl_append]
  rfl

@[simp] theorem settings_descend (s : Settings) (path : List Trace) :
    (descend s path).settings = s := by
  induction path using List.reverseRecOn with
  | nil => rfl
  | append_singleton path t ih => rw [descend_append, settings_child, ih]

/-- A descendant is in the trace that was given last. -/
theorem traceId_descend (s : Settings) (path : List Trace) :
    (descend s path).trace.map Trace.traceId = path.getLast?.map Trace.traceId := by
  induction path using List.reverseRecOn with
  | nil => rfl
  | append_singleton path t ih =>
    rw [descend_append, List.getLast?_concat, child]
    cases (descend s path).trace <;> rfl

/-- A descendant is in the span that was given last, whatever trace was given after it. -/
theorem spanId_descend (s : Settings) (path : List Trace) :
    (descend s path).trace.bind Trace.spanId = (Trace.lastSpan? path).bind Trace.spanId := by
  induction path using List.reverseRecOn with
  | nil => rfl
  | append_singleton path t ih =>
    have hchild : (descend s (path ++ [t])).trace.bind Trace.spanId =
        (t.spanId <|> (descend s path).trace.bind Trace.spanId) := by
      rw [descend_append, child]
      cases (descend s path).trace with
      | none => cases ht : t.spanId <;> exact ht
      | some p => rfl
    rw [hchild, ih]
    cases hspan : t.spanId with
    | none => rw [Trace.lastSpan?_append_of_none path hspan]; rfl
    | some id =>
      rw [Trace.lastSpan?_append_of_some path (by rw [hspan]; rfl), Option.bind_some, hspan]
      rfl

section Lineage

variable {made path : List Trace} {s : Settings} {e : Entry}

/-- A descendant whose path ends within the trace of its last span mixes no traces. -/
theorem withinOneTrace_of_endsWithin (hmade : Trace.Made made) (hpath : path ⊆ made)
    (he : (descend s path).Stamps e) (h : Trace.EndsWithin path) : e.WithinOneTrace made := by
  intro traceId spanId htrace hspan
  rw [he.traceId, traceId_descend] at htrace
  rw [he.spanId, spanId_descend] at hspan
  obtain ⟨p, hp, hid⟩ := Option.bind_eq_some_iff.1 hspan
  have hsame : traceId = p.traceId := Option.some.inj (htrace.symm.trans (h p hp))
  exact hsame ▸ hmade.spanIn (hpath (Trace.mem_of_lastSpan?_eq_some hp)) hid

/-- Any other descendant does, unless spans of different traces may have the same id. -/
theorem endsWithin_of_withinOneTrace (happart : Trace.Apart made) (hpath : path ⊆ made)
    (he : (descend s path).Stamps e) (h : e.WithinOneTrace made) : Trace.EndsWithin path := by
  intro p hp
  have hmem := Trace.mem_of_lastSpan?_eq_some hp
  have hspan : p.spanId.isSome = true := List.find?_some (p := fun t : Trace => t.spanId.isSome) hp
  obtain ⟨spanId, hid⟩ := Option.isSome_iff_exists.1 hspan
  obtain ⟨traceId, hlast⟩ : ∃ traceId, path.getLast?.map Trace.traceId = some traceId := by
    rw [List.getLast?_eq_some_getLast (List.ne_nil_of_mem hmem)]
    exact ⟨_, rfl⟩
  have htrace : e.traceId = some traceId := by rw [he.traceId, traceId_descend, hlast]
  have hspan : e.spanId = some spanId := by
    rw [he.spanId, spanId_descend, hp]
    exact hid
  obtain ⟨parent, -, t, ht, ⟨w, w', hmaking⟩, rfl, htid⟩ := h traceId spanId htrace hspan
  have hsame := Trace.traceId_of_startSpan hmaking
  rw [hlast, ← hsame, happart t ht p (hpath hmem) spanId htid hid]

/-- So the path decides about all entries that a descendant stamps. -/
theorem decides_of_stamps (hmade : Trace.Made made) (hpath : path ⊆ made) {entries : List Entry}
    (h : ∀ e ∈ entries, (descend s path).Stamps e) : Trace.Decides path made entries where
  within hends e he := withinOneTrace_of_endsWithin hmade hpath (h e he) hends
  only happart hwithin := by
    cases entries with
    | nil => exact .inl rfl
    | cons e rest =>
      have he : e ∈ e :: rest := List.mem_cons_self
      exact .inr (endsWithin_of_withinOneTrace happart hpath (h e he) (hwithin e he))

end Lineage

end Logger

end HttpDispatch
