import HttpDispatch.Log.Delivery
import HttpDispatch.Proofs.World.Timeline

/-!
# What a log call comes to

A log call either throws, because the sink does, or shows its entry: at the sink, if there is one,
and then on the console, if that is enabled.  Nothing else in the world changes.
-/

namespace HttpDispatch

namespace Logger

/-- What the sink throws on an entry, if it throws. -/
def throws? (l : Logger) (e : Entry) : Option Value := l.settings.sink.bind (·.throws? e)

/-- A logger whose sink receives every entry. -/
def NeverThrows (l : Logger) : Prop := ∀ e, l.throws? e = none

/-- What is seen of an entry that is delivered. -/
def shows (l : Logger) (e : Entry) : List Observation :=
  (l.settings.sink.map fun s => .logged s.name e).toList ++
    if l.settings.console then [.printed (e.line l.settings.json)] else []

/-- What is seen of a log call that does not throw. -/
def emits (l : Logger) (clock : Int) (level : Level) (message : String) (context : Option Json)
    (error : Option ErrorSummary) : List Observation :=
  if level.passes l.level then l.shows (l.entry clock level message context error) else []

@[simp] theorem throws?_child (l : Logger) (t : Trace) (e : Entry) :
    (l.child t).throws? e = l.throws? e := rfl

theorem NeverThrows.child {l : Logger} (h : l.NeverThrows) (t : Trace) :
    (l.child t).NeverThrows := h

theorem isLine_of_mem_shows {l : Logger} {e : Entry} {o : Observation} (h : o ∈ l.shows e) :
    o.isLine = true := by
  rw [shows] at h
  rcases List.mem_append.1 h with h | h
  · cases hs : l.settings.sink with
    | none => simp [hs] at h
    | some s =>
      simp only [hs, Option.map_some, Option.toList_some, List.mem_singleton] at h
      exact h ▸ rfl
  · split at h
    · exact List.mem_singleton.1 h ▸ rfl
    · simp at h

theorem isLine_of_mem_emits {l : Logger} {clock : Int} {level : Level} {message : String}
    {context : Option Json} {error : Option ErrorSummary} {o : Observation}
    (h : o ∈ l.emits clock level message context error) : o.isLine = true := by
  rw [emits] at h
  split at h
  · exact isLine_of_mem_shows h
  · simp at h

/-! ### Running a log call -/

open Run

section Delivering

variable {l : Logger} {e : Entry}

theorem exec_toSink (h : l.throws? e = none) (w : World) :
    exec (l.toSink e) w =
      (.ok (), w.observing (l.settings.sink.map fun s => .logged s.name e).toList) := by
  rw [toSink]
  cases hs : l.settings.sink with
  | none => simp
  | some s =>
    have ht : s.throws? e = none := by simpa [throws?, hs] using h
    simp [ht, World.observing]

theorem exec_toConsole (l : Logger) (e : Entry) (w : World) :
    exec (l.toConsole e) w =
      (.ok (), w.observing
        (if l.settings.console then [.printed (e.line l.settings.json)] else [])) := by
  rw [toConsole]
  split
  · simp [World.observing]
  · simp

theorem exec_deliver_of_throws {v : Value} (h : l.throws? e = some v) (w : World) :
    exec (l.deliver e) w = (.error v, w) := by
  obtain ⟨s, hs, ht⟩ := Option.bind_eq_some_iff.1 h
  have hsink : exec (l.toSink e) w = (.error v, w) := by
    rw [toSink, hs]
    simp only [ht]
    rfl
  rw [deliver, exec_bind_error hsink]

theorem exec_deliver (h : l.throws? e = none) (w : World) :
    exec (l.deliver e) w = (.ok (), w.observing (l.shows e)) := by
  rw [deliver, exec_bind_ok (exec_toSink h w), exec_toConsole, World.observing_observing, shows]

end Delivering

/-- What comes of logging an entry where the sink throws: it is not asked about an entry that does
not pass. -/
def fails? (l : Logger) (e : Entry) : Option Value :=
  if e.level.passes l.level then l.throws? e else none

section Logging

variable {l : Logger} {level : Level} {message : String} {context : Option Json}
  {error : Option ErrorSummary} {w : World}

/-- A log call whose sink does not throw shows its entry, if it passes, and changes nothing. -/
theorem exec_log (h : l.throws? (l.entry w.clock level message context error) = none) :
    exec (l.log level message context error) w =
      (.ok (), w.observing (l.emits w.clock level message context error)) := by
  rw [log, emits]
  split
  · rw [exec_bind_ok (exec_now w)]
    exact exec_deliver h w
  · simp

/-- A log call whose entry passes and whose sink throws comes to what the sink throws. -/
theorem exec_log_of_throws {v : Value} (hp : level.passes l.level = true)
    (h : l.throws? (l.entry w.clock level message context error) = some v) :
    exec (l.log level message context error) w = (.error v, w) := by
  rw [log, if_pos hp, exec_bind_ok (exec_now w)]
  exact exec_deliver_of_throws h w

theorem fails?_of_throws? {e : Entry} (h : l.throws? e = none) : l.fails? e = none := by
  rw [fails?, h, ite_self]

theorem fails?_entry (l : Logger) (clock : Int) (level : Level) (message : String)
    (context : Option Json) (error : Option ErrorSummary) :
    l.fails? (l.entry clock level message context error) =
      if level.passes l.level then l.throws? (l.entry clock level message context error)
      else none := rfl

theorem exec_log_of_fails {v : Value}
    (h : l.fails? (l.entry w.clock level message context error) = some v) :
    exec (l.log level message context error) w = (.error v, w) := by
  rw [fails?_entry] at h
  split at h
  · next hpasses => exact exec_log_of_throws hpasses h
  · nomatch h

theorem exec_log_of_not_fails
    (h : l.fails? (l.entry w.clock level message context error) = none) :
    exec (l.log level message context error) w =
      (.ok (), w.observing (l.emits w.clock level message context error)) := by
  rw [fails?_entry] at h
  split at h
  · exact exec_log h
  · next hnot =>
    rw [log, emits, if_neg hnot, if_neg hnot, World.observing_nil]
    rfl

end Logging

end Logger

end HttpDispatch
