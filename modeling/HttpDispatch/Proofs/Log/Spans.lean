import HttpDispatch.Proofs.Log.Lineage
import HttpDispatch.Proofs.Text.Base36
import Mathlib.Data.List.Nodup

/-!
# Spans and their ids

An id shows the clock and the draw that it was made of, and both can be read off it again: no
number has an underscore among its digits, so the second underscore of an id is the one that stands
between them.  So ids that are made of different moments differ (`Trace.makeId_eq_iff`).

A tree of spans is grown from a position in a trace, its root, by making one span after the other,
each below the root or below a span that is there already, whatever happens in between.  A span
takes the trace from its parent and remembers the id of the parent.  So as long as no moment comes
twice, the ids in a tree say which span is below which (`Trace.Grown.wellLinked`).  Main statement:
`Trace.ids_apart`.
-/

namespace HttpDispatch

namespace Trace

open Run

/-! ### Reading ids -/

/-- The id is made of an integer and of the digits of a fraction, both in base 36, which stand for
this clock and this draw. -/
def Shows (id : String) (clock : Int) (draw : Nat) : Prop :=
  ∃ whole fraction, id = String.ofList ("trace_".toList ++ whole ++ '_' :: fraction) ∧
    Base36.IsInteger whole ∧ (∀ c ∈ fraction, Base36.IsDigit c) ∧
    Base36.readInt whole = clock ∧ Base36.readFraction fraction = draw

theorem shows_makeId (clock : Int) {draw : Nat} (h : draw < 65536) :
    Shows (makeId clock draw) clock draw :=
  ⟨Base36.intDigits clock, Base36.fractionDigits Base36.fractionWidth draw, rfl,
    Base36.isInteger_intDigits clock, fun _ => Base36.isDigit_of_mem_fractionDigits h,
    Base36.readInt_intDigits clock, Base36.readFraction_fractionDigits h⟩

/-- An id shows only one clock and one draw. -/
theorem Shows.unique {id : String} {clock clock' : Int} {draw draw' : Nat}
    (h : Shows id clock draw) (h' : Shows id clock' draw') : clock = clock' ∧ draw = draw' := by
  obtain ⟨whole, fraction, rfl, hwhole, hfraction, rfl, rfl⟩ := h
  obtain ⟨whole', fraction', heq, hwhole', hfraction', rfl, rfl⟩ := h'
  have hmark : ¬ Base36.IsDigit '_' := by decide
  have hbefore : '_' ∉ whole := Base36.notMem_of_isInteger hwhole hmark (by decide)
  have hbehind : '_' ∉ fraction := fun hmem => hmark (hfraction '_' hmem)
  have hparts : whole' ++ '_' :: fraction' = whole ++ '_' :: fraction := by
    apply List.append_cancel_left
    rw [← List.append_assoc, ← List.append_assoc]
    exact (String.ofList_injective heq).symm
  obtain ⟨rfl, -, rfl⟩ := (List.append_cons_inj_of_notMem hbefore hbehind).1 hparts.symm
  exact ⟨rfl, rfl⟩

/-- Ids that are made of different moments differ. -/
theorem makeId_eq_iff {clock clock' : Int} {draw draw' : Nat} (h : draw < 65536)
    (h' : draw' < 65536) :
    makeId clock draw = makeId clock' draw' ↔ clock = clock' ∧ draw = draw' := by
  constructor
  · intro heq
    have hshows := shows_makeId clock h
    rw [heq] at hshows
    exact hshows.unique (shows_makeId clock' h')
  · rintro ⟨rfl, rfl⟩
    rfl

example : makeId (-1) 0 = "trace_-1_" ∧ makeId 36 32768 = "trace_10_i" := by
  decide +kernel

/-! ### Trees of spans -/

/-- A span of a tree: the position that it was made below, the clock and the draw that its id was
made of, and what was made. -/
structure Span where
  parent : Trace
  clock : Int
  draw : Nat
  trace : Trace

/-- The positions in a tree of spans. -/
def positions (root : Trace) (spans : List Span) : List Trace := root :: spans.map Span.trace

/-- These spans have been made below a root, in this order, each below the root or below an earlier
one. -/
inductive Grown : Trace → List Span → Prop
  | root (root : Trace) : Grown root []
  | span {root parent t : Trace} {spans : List Span} {w w' : World} :
      Grown root spans → parent ∈ positions root spans → w.nextDraw < 65536 →
      exec (startSpan parent) w = (.ok t, w') →
      Grown root (spans ++ [⟨parent, w.clock, w.nextDraw, t⟩])

/-- No two spans were made with the same clock and draw, and the root, if it is a span as well, with
none of these. -/
structure Momentary (root : Trace) (spans : List Span) : Prop where
  nodup : (spans.map fun s => (s.clock, s.draw)).Nodup
  apart : ∀ s ∈ spans, root.spanId ≠ some (makeId s.clock s.draw)

/-- The ids of the spans below a root say which span is below which: among all positions, only the
parent of a span has the id that the span names as that of its parent, and a span names none only if
it is below a root that is no span. -/
structure WellLinked (root : Trace) (spans : List Span) : Prop where
  identified : ∀ s ∈ spans, s.trace.spanId.isSome = true
  distinct : (spans.map (·.trace.spanId)).Nodup
  traceId : ∀ s ∈ spans, s.trace.traceId = root.traceId
  parent_mem : ∀ s ∈ spans, s.parent ∈ positions root spans
  parent : ∀ s ∈ spans, ∀ id, s.trace.parentSpanId = some id →
    ∀ t ∈ positions root spans, t.spanId = some id ↔ t = s.parent
  parentless : ∀ s ∈ spans, s.trace.parentSpanId = none ↔ s.parent = root ∧ root.spanId = none

namespace Grown

variable {root : Trace} {spans : List Span}

theorem trace_eq (h : Grown root spans) {s : Span} (hs : s ∈ spans) :
    s.trace = s.parent.span (makeId s.clock s.draw) s.clock ∧ s.draw < 65536 := by
  induction h with
  | root => exact absurd hs List.not_mem_nil
  | span _ _ hdraw hmade ih =>
    rcases List.mem_append.1 hs with hold | hnew
    · exact ih hold
    · obtain rfl := List.mem_singleton.1 hnew
      rw [exec_startSpan] at hmade
      cases hmade
      exact ⟨rfl, hdraw⟩

theorem spanId_eq (h : Grown root spans) {s : Span} (hs : s ∈ spans) :
    s.trace.spanId = some (makeId s.clock s.draw) := by
  rw [(h.trace_eq hs).1]
  rfl

theorem parentSpanId_eq (h : Grown root spans) {s : Span} (hs : s ∈ spans) :
    s.trace.parentSpanId = s.parent.spanId := by
  rw [(h.trace_eq hs).1]
  rfl

theorem parent_mem (h : Grown root spans) {s : Span} (hs : s ∈ spans) :
    s.parent ∈ positions root spans := by
  induction h with
  | root => exact absurd hs List.not_mem_nil
  | @span _ _ spans _ _ _ hparent _ _ ih =>
    have hgrown : s.parent ∈ positions root spans := by
      rcases List.mem_append.1 hs with hold | hnew
      · exact ih hold
      · obtain rfl := List.mem_singleton.1 hnew
        exact hparent
    rw [positions, List.map_append, ← List.cons_append]
    exact List.mem_append_left _ hgrown

theorem traceId_eq (h : Grown root spans) {t : Trace} (ht : t ∈ positions root spans) :
    t.traceId = root.traceId := by
  induction h generalizing t with
  | root => rw [List.mem_singleton.1 ht]
  | span _ hparent _ hmade ih =>
    rw [positions, List.map_append, ← List.cons_append] at ht
    rcases List.mem_append.1 ht with hold | hnew
    · exact ih hold
    · obtain rfl := List.mem_singleton.1 hnew
      rw [traceId_of_startSpan hmade]
      exact ih hparent

/-- If no moment comes twice, then no id does. -/
theorem nodup_spanIds (h : Grown root spans) (hmoments : Momentary root spans) :
    (spans.map (·.trace.spanId)).Nodup := by
  apply List.pairwise_map.2
  apply List.Pairwise.imp_of_mem _ (List.pairwise_map.1 hmoments.nodup)
  intro s t hs ht hmoment heq
  apply hmoment
  rw [h.spanId_eq hs, h.spanId_eq ht, Option.some_inj,
    makeId_eq_iff (h.trace_eq hs).2 (h.trace_eq ht).2] at heq
  exact Prod.ext heq.1 heq.2

/-- A position is known by its id, if it has one. -/
theorem eq_of_spanId_eq (h : Grown root spans) (hmoments : Momentary root spans) {t u : Trace}
    (ht : t ∈ positions root spans) (hu : u ∈ positions root spans) {id : String}
    (htid : t.spanId = some id) (huid : u.spanId = some id) : t = u := by
  have hnone : ∀ s ∈ spans, s.trace.spanId = some id → root.spanId ≠ some id := by
    intro s hs hid
    rw [← hid, h.spanId_eq hs]
    exact hmoments.apart s hs
  simp only [positions, List.mem_cons, List.mem_map] at ht hu
  rcases ht with rfl | ⟨p, hp, rfl⟩ <;> rcases hu with rfl | ⟨q, hq, rfl⟩
  · rfl
  · exact absurd htid (hnone q hq huid)
  · exact absurd huid (hnone p hp htid)
  · exact congrArg Span.trace
      (List.inj_on_of_nodup_map (h.nodup_spanIds hmoments) hp hq (htid.trans huid.symm))

/-- **The ids in a tree of spans**: if no moment comes twice, every span has an id of its own, is in
the trace of the root, and names its parent. -/
theorem wellLinked (h : Grown root spans) (hmoments : Momentary root spans) :
    WellLinked root spans where
  identified s hs := by rw [h.spanId_eq hs]; rfl
  distinct := h.nodup_spanIds hmoments
  traceId s hs := h.traceId_eq (List.mem_cons_of_mem root (List.mem_map_of_mem hs))
  parent_mem _ := h.parent_mem
  parent s hs id hid t ht := by
    rw [h.parentSpanId_eq hs] at hid
    constructor
    · intro htid
      exact h.eq_of_spanId_eq hmoments ht (h.parent_mem hs) htid hid
    · rintro rfl
      exact hid
  parentless s hs := by
    rw [h.parentSpanId_eq hs]
    constructor
    · intro hnone
      rcases List.mem_cons.1 (h.parent_mem hs) with hroot | hspan
      · exact ⟨hroot, hroot ▸ hnone⟩
      · obtain ⟨p, hp, hparent⟩ := List.mem_map.1 hspan
        rw [← hparent, h.spanId_eq hp] at hnone
        nomatch hnone
    · rintro ⟨hroot, hnone⟩
      rw [hroot, hnone]

end Grown

/-- **Ids do not collide**: the ids that are made of a clock and a draw are equal exactly if both
are, they read as both in base 36, and so the ids in a tree of spans, where no moment comes twice,
say which span is below which. -/
theorem ids_apart :
    (∀ w : World, exec freshId w = (.ok (makeId w.clock w.nextDraw), w.drawing 1)) ∧
    (∀ clock clock' : Int, ∀ draw draw' : Nat, draw < 65536 → draw' < 65536 →
      (makeId clock draw = makeId clock' draw' ↔ clock = clock' ∧ draw = draw')) ∧
    (∀ clock : Int, ∀ draw : Nat, draw < 65536 → Shows (makeId clock draw) clock draw) ∧
    (∀ given w root w', exec (startTrace given) w = (.ok root, w') → root.spanId = none) ∧
    ∀ root spans, Grown root spans → Momentary root spans → WellLinked root spans :=
  ⟨fun _ => rfl, fun _ _ _ _ => makeId_eq_iff, fun clock _ => shows_makeId clock,
    fun _ _ _ _ => spanId_of_startTrace, fun _ _ => Grown.wellLinked⟩

/-- Two spans of one instant, the second below the first. -/
theorem ids_apart_chain :
    ∃ root first second, Grown root [first, second] ∧ Momentary root [first, second] ∧
      root.spanId = none ∧ second.parent = first.trace ∧ WellLinked root [first, second] := by
  let w := World.initial 0 [1, 2] ∅
  let root : Trace := .root "t" 0
  let first : Span := ⟨root, 0, 1, root.span (makeId 0 1) 0⟩
  let second : Span := ⟨first.trace, 0, 2, first.trace.span (makeId 0 2) 0⟩
  have hspan : exec (startSpan root) w = (.ok first.trace, w.drawing 1) := rfl
  have hspan' : exec (startSpan first.trace) (w.drawing 1) = (.ok second.trace, w.drawing 2) := rfl
  have hfirst : Grown root [first] :=
    .span (.root root) (List.mem_singleton_self root) (by decide) hspan
  have hbelow : first.trace ∈ positions root [first] :=
    List.mem_cons_of_mem root (List.mem_singleton_self first.trace)
  have hgrown : Grown root [first, second] := .span hfirst hbelow (by decide) hspan'
  have hnodup : [((0 : Int), 1), (0, 2)].Nodup := by decide
  have hmoments : Momentary root [first, second] := ⟨hnodup, fun _ _ => nofun⟩
  exact ⟨root, first, second, hgrown, hmoments, rfl, rfl, ids_apart.2.2.2.2 root _ hgrown hmoments⟩

end Trace

end HttpDispatch
