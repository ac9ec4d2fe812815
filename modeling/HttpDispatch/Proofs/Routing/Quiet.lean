import HttpDispatch.Proofs.Routing.Correlation
import HttpDispatch.Proofs.Routing.Disturbance

/-!
# What the log has nothing to do with

What is seen consists of lines and events.  The lines are what a logger shows of entries
(`World.Logs`), and a sink receives just these (`Observation.received_of_lines`).  A program is
quiet if it changes no logger, writes no line and does the same where there are neither
(`Run.Quiet`).  Cloning a handler is quiet, and so is all that is made of quiet programs, such as
connecting an application (`Run.Quiet.connect`).
-/

namespace HttpDispatch

open Run

/-- Between two worlds, the lines that were seen are what a logger shows of these entries. -/
def World.Logs (w w' : World) (l : Logger) (entries : List Entry) : Prop :=
  ∃ seen, w'.timeline = w.timeline ++ seen ∧ Observation.lines seen = entries.flatMap l.shows

namespace World

variable {w w₁ w₂ : World} {l : Logger} {entries more : List Entry}

theorem Logs.of_timeline (h : w₁.timeline = w.timeline) : w.Logs w₁ l [] :=
  ⟨[], h.trans (List.append_nil _).symm, rfl⟩

theorem Logs.trans (h : w.Logs w₁ l entries) (h' : w₁.Logs w₂ l more) :
    w.Logs w₂ l (entries ++ more) := by
  obtain ⟨seen, ht, hl⟩ := h
  obtain ⟨seen', ht', hl'⟩ := h'
  refine ⟨seen ++ seen', ?_, ?_⟩
  · rw [ht', ht, List.append_assoc]
  · rw [Observation.lines_append, hl, hl', List.flatMap_append]

theorem Shows.logs {reqs : List Request} (h : w.Shows w₁ l entries reqs) : w.Logs w₁ l entries := by
  obtain ⟨seen, ht, hl, -⟩ := h
  exact ⟨seen, ht, hl⟩

end World

namespace Observation

/-- What was seen beside the lines. -/
def events (seen : List Observation) : List Observation := seen.filter (!·.isLine)

/-- The entry that a sink receives. -/
def entryFor? (sink : String) : Observation → Option Entry
  | logged name e => if name = sink then some e else none
  | _ => none

/-- The entries that a sink receives, in order. -/
def received (sink : String) (seen : List Observation) : List Entry :=
  seen.filterMap (entryFor? sink)

/-- Only lines are received. -/
theorem received_lines (sink : String) (seen : List Observation) :
    received sink (lines seen) = received sink seen := by
  rw [received, lines, List.filterMap_filter]
  refine congrArg (List.filterMap · seen) (funext fun o => ?_)
  cases o <;> rfl

theorem received_shows {l : Logger} {s : Sink} (hs : l.settings.sink = some s) (e : Entry) :
    received s.name (l.shows e) = [e] := by
  rw [Logger.shows, hs]
  cases l.settings.console <;> simp [received, entryFor?]

/-- The sink of a logger receives the entries that the logger shows. -/
theorem received_of_lines {seen : List Observation} {l : Logger} {entries : List Entry}
    (hlines : lines seen = entries.flatMap l.shows) {s : Sink} (hs : l.settings.sink = some s) :
    received s.name seen = entries := by
  rw [← received_lines, hlines]
  clear hlines
  induction entries with
  | nil => rfl
  | cons e rest ih =>
    have happend : received s.name (l.shows e ++ rest.flatMap l.shows) =
        received s.name (l.shows e) ++ received s.name (rest.flatMap l.shows) :=
      List.filterMap_append
    rw [List.flatMap_cons, happend, received_shows hs, ih]
    rfl

end Observation

/-- Worlds that differ in the log, and do so later, were seen to do the same. -/
theorem World.events_eq {w w' u u' : World} (h : w'.muted = w.muted) (h' : u'.muted = u.muted)
    {seen seen' : List Observation} (ht : u.timeline = w.timeline ++ seen)
    (ht' : u'.timeline = w'.timeline ++ seen') :
    Observation.events seen' = Observation.events seen := by
  have hbefore : Observation.events w'.timeline = Observation.events w.timeline :=
    congrArg World.timeline h
  have hafter : Observation.events u'.timeline = Observation.events u.timeline :=
    congrArg World.timeline h'
  rw [ht, ht', Observation.events, Observation.events, List.filter_append, List.filter_append]
    at hafter
  rw [Observation.events, Observation.events] at hbefore
  rw [hbefore] at hafter
  exact List.append_cancel_left hafter

/-! ### Programs that do not log -/

namespace Run

variable {α β : Type}

/-- A program that has nothing to do with the log: it changes no logger and writes no line, and does
the same where there are neither. -/
structure Quiet (p : Run α) : Prop where
  loggers : ∀ w, (exec p w).2.loggers = w.loggers
  logs : ∀ (w : World) (l : Logger), w.Logs (exec p w).2 l []
  muted : ∀ w : World, exec p w.muted = ((exec p w).1, (exec p w).2.muted)

namespace Quiet

theorem pure (a : α) : Quiet (Pure.pure a) :=
  ⟨fun _ => rfl, fun _ _ => .of_timeline rfl, fun _ => rfl⟩

theorem raise (v : Value) : Quiet (Run.raise v : Run α) :=
  ⟨fun _ => rfl, fun _ _ => .of_timeline rfl, fun _ => rfl⟩

theorem bind {p : Run α} {f : α → Run β} (hp : Quiet p) (hf : ∀ a, Quiet (f a)) :
    Quiet (p >>= f) := by
  refine ⟨fun w => ?_, fun w l => ?_, fun w => ?_⟩
  · exact exec_bind_along (R := fun w w' => w'.loggers = w.loggers) (fun h h' => h'.trans h)
      (hp.loggers w) fun a => (hf a).loggers
  · exact exec_bind_along (R := fun w w' => w.Logs w' l []) .trans (hp.logs w l)
      fun a w₁ => (hf a).logs w₁ l
  · have hmuted := hp.muted w
    rw [exec_bind, exec_bind, hmuted]
    cases exec p w with
    | mk result w₁ =>
      cases result with
      | ok a => exact (hf a).muted w₁
      | error v => rfl

theorem attempt {p : Run α} (hp : Quiet p) : Quiet (Run.attempt p) := by
  refine ⟨hp.loggers, hp.logs, fun w => ?_⟩
  rw [exec_attempt, exec_attempt, hp.muted]

theorem emit (e : Event) : Quiet (Run.emit e) := by
  refine ⟨fun _ => rfl, fun w l => ⟨[.event e], rfl, rfl⟩, fun w => ?_⟩
  have hevent : ∀ o ∈ [Observation.event e], o.isLine = false :=
    fun o ho => List.mem_singleton.1 ho ▸ rfl
  exact congrArg (Prod.mk _) (World.muted_observing_events hevent w).symm

theorem muted_asking (w : World) (r : Ref Handler) : (w.asking r).muted = w.muted.asking r := by
  have hevent : ∀ o ∈ [Observation.event (.cloned (w.handlers.get r).script.name
      (w.handlers.get r).count)], o.isLine = false := fun o ho => List.mem_singleton.1 ho ▸ rfl
  have hmuted := World.muted_observing_events hevent w
  exact congrArg (fun u : World => { u with handlers := (w.asking r).handlers }) hmuted

theorem cloneHandler (r : Ref Handler) : Quiet (Run.cloneHandler r) := by
  have hasking : ∀ (w : World) (l : Logger), w.Logs (w.asking r) l [] := fun w l =>
    ⟨[.event (.cloned (w.handlers.get r).script.name (w.handlers.get r).count)], rfl, rfl⟩
  refine ⟨fun w => ?_, fun w l => ?_, fun w => ?_⟩
  · rw [exec_cloneHandler]
    simp only
    repeat' split
    all_goals rfl
  · rw [exec_cloneHandler]
    simp only
    repeat' split
    · exact .of_timeline rfl
    · exact hasking w l
    · exact hasking w l
    · exact hasking w l
  · have hhandlers : w.muted.handlers = w.handlers := rfl
    have hthrows : w.muted.cloneThrows? r = w.cloneThrows? r := rfl
    rw [exec_cloneHandler, exec_cloneHandler, hhandlers, hthrows, ← muted_asking]
    simp only
    repeat' split
    all_goals rfl

theorem activate (factory : Factory) (logger : Ref Logger) :
    Quiet (factory.activate logger) := by
  cases factory with
  | route f =>
    have hactivate : Quiet (f.activate (some logger)) :=
      (cloneHandler f.handler).bind fun _ => .pure _
    exact (hactivate.bind fun _ => .pure _).attempt
  | foreign r =>
    refine (emit _).bind fun _ => ?_
    cases r.activationFailure with
    | none => exact .pure _
    | some failure =>
      cases failure with
      | raised v => exact .raise v
      | rejected v => exact .pure _

theorem activateAll (logger : Ref Logger) (ms : List MountedFactory) :
    Quiet (App.activateAll logger ms) := by
  induction ms with
  | nil => exact .pure _
  | cons m rest ih => exact (activate m.factory logger).bind fun _ => ih.bind fun _ => .pure _

/-- Connecting an application has nothing to do with the log. -/
theorem connect (app : App) (logger : Option (Ref Logger)) : Quiet (app.connect logger) := by
  refine (activateAll _ app.routes).bind fun results => ?_
  cases App.collect results with
  | ok routes => exact .pure _
  | error f => exact .raise _

end Quiet

/-- What a quiet program comes to is the same in two worlds that differ in the log. -/
theorem Quiet.congr {p : Run α} (hp : Quiet p) {w w' : World} (h : w'.muted = w.muted) :
    (exec p w').1 = (exec p w).1 ∧ (exec p w').2.muted = (exec p w).2.muted := by
  have hmuted := hp.muted w'
  rw [h, hp.muted w] at hmuted
  exact ⟨(Prod.mk.inj hmuted).1.symm, (Prod.mk.inj hmuted).2.symm⟩

end Run

end HttpDispatch
