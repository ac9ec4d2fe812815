import HttpDispatch.Proofs.World.Timeline

/-!
# Where ids come from

A request that brings an id keeps it, and one that brings none, or an empty one, gets a new id,
which takes one draw.  A span always takes one draw.
-/

namespace HttpDispatch

/-- An id that is made is not empty. -/
theorem Trace.makeId_ne_empty (clock : Int) (draw : Nat) : makeId clock draw ≠ "" := by
  intro hempty
  have hchars : (makeId clock draw).toList =
      "trace_".toList ++ Base36.intDigits clock ++
        '_' :: Base36.fractionDigits Base36.fractionWidth draw := String.toList_ofList
  rw [hempty] at hchars
  exact List.append_ne_nil_of_right_ne_nil _ (List.cons_ne_nil _ _) hchars.symm

namespace World

/-- The world after random draws. -/
def drawing (w : World) (draws : Nat) : World := { w with drawn := w.drawn + draws }

theorem drawing_drawing (w : World) (m n : Nat) :
    (w.drawing m).drawing n = w.drawing (m + n) := by
  simp [drawing, Nat.add_assoc]

/-- The id that a request brings, if it is one. -/
def broughtId? (given : Option String) : Option String := given.filter (· ≠ "")

/-- The trace id of a request that brings this one or none. -/
def traceIdFor (w : World) (given : Option String) : String :=
  (broughtId? given).getD (Trace.makeId w.clock w.nextDraw)

/-- How many draws the trace of a request takes. -/
def drawsFor (given : Option String) : Nat := if (broughtId? given).isSome then 0 else 1

/-- A request always has an id. -/
theorem traceIdFor_ne_empty (w : World) (given : Option String) : w.traceIdFor given ≠ "" := by
  rw [traceIdFor]
  cases hid : broughtId? given with
  | some id =>
    obtain ⟨-, hne⟩ := Option.filter_eq_some_iff.1 hid
    exact of_decide_eq_true hne
  | none => exact Trace.makeId_ne_empty w.clock w.nextDraw

/-- The trace of a request that brings this id or none. -/
def traceFor (w : World) (given : Option String) : Trace := .root (w.traceIdFor given) w.clock

end World

namespace Run

theorem exec_startTrace (given : Option String) (w : World) :
    exec (startTrace given) w =
      (.ok (w.traceFor given), w.drawing (World.drawsFor given)) := by
  cases given with
  | none => rfl
  | some id =>
    by_cases h : id = ""
    · subst h
      rfl
    · have hb : World.broughtId? (some id) = some id := by
        simp [World.broughtId?, h]
      rw [startTrace, World.traceFor, World.traceIdFor, World.drawsFor, hb]
      simp only [if_neg h]
      rfl

theorem exec_startSpan (parent : Trace) (w : World) :
    exec (startSpan parent) w =
      (.ok (parent.span (Trace.makeId w.clock w.nextDraw) w.clock), w.drawing 1) := rfl

end Run

end HttpDispatch
