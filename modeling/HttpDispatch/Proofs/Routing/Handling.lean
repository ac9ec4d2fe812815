import HttpDispatch.Proofs.Log.Emission
import HttpDispatch.Routing.Route

/-!
# How a request is handled

A program is hard to reason about where one function of what it starts from would do.  Here the
handling of a request is written in that form.  The actions of a handler see and change only the
transports and the states, so they are a function on these two, a `Stage`; from it come the
outcome of the handling and the world after it, and `exec_invoke` says that running the program
comes to just that.  `exec_call` says the same of a whole service, whose report about a failure
is at most one log call.
-/

namespace HttpDispatch

/-- What the actions of a handler see and change. -/
structure Stage where
  transports : Dict Transport
  states : Store AppState

namespace World

/-- The part of the world that handlers act on. -/
def stage (w : World) : Stage := ⟨w.transports, w.states⟩

/-- The world with another stage. -/
def onStage (w : World) (s : Stage) : World :=
  { w with transports := s.transports, states := s.states }

@[simp] theorem stage_onStage (w : World) (s : Stage) : (w.onStage s).stage = s := rfl

@[simp] theorem onStage_stage (w : World) : w.onStage w.stage = w := rfl

@[simp] theorem onStage_onStage (w : World) (s t : Stage) :
    (w.onStage s).onStage t = w.onStage t := rfl

end World

namespace Stage

/-- A transport; one that is not there yet is direct and fresh. -/
def transport (s : Stage) (io : String) : Transport := (s.transports.get? io).getD default

/-- The stage when something is done to a transport. -/
def onTransport (s : Stage) (io : String) (f : Transport → Transport) : Stage :=
  { s with transports := s.transports.set io (f (s.transport io)) }

/-- The stage after one action, or what the action throws. -/
def act (req : Request) (s : Stage) : Action → Except Value Stage
  | .write text => .ok (s.onTransport req.io (·.write text))
  | .finish text => .ok (s.onTransport req.io fun t => (t.write text).finish)
  | .destroy => .ok (s.onTransport req.io (·.destroy))
  | .bump key =>
    match (s.states.get req.state).bump key with
    | .ok state => .ok { s with states := s.states.modify req.state fun _ => state }
    | .error e => .error e.toValue

/-- How a row of actions ends, and the stage it leaves: the first that throws is the last. -/
def perform (req : Request) : List Action → Stage → Except Value Unit × Stage
  | [], s => (.ok (), s)
  | a :: rest, s =>
    match s.act req a with
    | .ok s' => perform req rest s'
    | .error v => (.error v, s)

end Stage

namespace Run

theorem exec_changeState (r : Ref AppState) (change : AppState → Except BumpError AppState)
    (w : World) :
    exec (changeState r change) w =
      match change (w.states.get r) with
      | .ok s => (.ok (), { w with states := w.states.modify r fun _ => s })
      | .error e => (.error e.toValue, w) := by
  rw [changeState, exec_bind_ok (exec_get w)]
  cases change (w.states.get r) with
  | ok s => rfl
  | error e => rfl

theorem exec_act (req : Request) (a : Action) (w : World) :
    exec (act req a) w =
      match w.stage.act req a with
      | .ok s => (.ok (), w.onStage s)
      | .error v => (.error v, w) := by
  cases a with
  | write text => rfl
  | finish text => rfl
  | destroy => rfl
  | bump key =>
    rw [act, exec_changeState, Stage.act, show w.stage.states = w.states from rfl]
    cases (w.states.get req.state).bump key with
    | ok state => rfl
    | error e => rfl

theorem exec_acts (req : Request) (actions : List Action) (w : World) :
    exec (actions.forM (act req)) w =
      ((w.stage.perform req actions).1, w.onStage (w.stage.perform req actions).2) := by
  induction actions generalizing w with
  | nil => rfl
  | cons a rest ih =>
    have ha := exec_act req a w
    rw [List.forM_eq_forM, List.forM_cons, Stage.perform]
    cases hs : w.stage.act req a with
    | ok s =>
      rw [hs] at ha
      rw [exec_bind_ok ha]
      exact ih (w.onStage s)
    | error v =>
      rw [hs] at ha
      rw [exec_bind_error ha]
      rfl

/-- What is seen of a transport that fails. -/
def failures (io : String) (failure : Option String) : List Observation :=
  (failure.map fun message => .event (.failed io (.error none message none))).toList

@[simp] theorem failures_none (io : String) : failures io none = [] := rfl

theorem exec_settleTransport (io : String) (w : World) :
    exec (settleTransport io) w =
      (.ok (w.transport io).failure,
        (w.onStage (w.stage.onTransport io (·.settle))).observing
          (failures io (w.transport io).failure)) := by
  rw [settleTransport, exec_bind_ok (exec_get w)]
  cases hf : (w.transport io).failure with
  | none =>
    rw [failures_none, World.observing_nil]
    simp only [hf]
    rfl
  | some message =>
    simp only [hf]
    rfl

end Run

/-! ### Handling a request -/

/-- A handler that has taken one more request. -/
def Handler.tick (h : Handler) : Handler := { h with count := h.count + 1 }

namespace World

/-- A handler as it takes its next request. -/
def taking (w : World) (r : Ref Handler) : Handler := (w.handlers.modify r Handler.tick).get r

/-- How the actions of a handler on its next request end, and the stage they leave. -/
def performing (w : World) (r : Ref Handler) (req : Request) : Except Value Unit × Stage :=
  w.stage.perform req (w.taking r).script.actions

/-- How a handler leaves its next request. -/
def outcomeOf (w : World) (r : Ref Handler) (req : Request) : Outcome Value :=
  match (w.performing r req).1 with
  | .ok _ => (w.taking r).script.outcome (w.taking r).count
  | .error v => .raised v

/-- What is seen of a handler on its next request. -/
def seenHandling (w : World) (r : Ref Handler) (req : Request) : List Observation :=
  .event (.handled (w.taking r).script.name (w.taking r).count
      ⟨req, (w.states.get req.state).value⟩) ::
    Run.failures req.io ((w.performing r req).2.transport req.io).failure

/-- The world after a handler has taken its next request. -/
def afterHandling (w : World) (r : Ref Handler) (req : Request) : World :=
  (({ w with handlers := w.handlers.modify r Handler.tick }).onStage
    ((w.performing r req).2.onTransport req.io (·.settle))).observing (w.seenHandling r req)

@[simp] theorem timeline_afterHandling (w : World) (r : Ref Handler) (req : Request) :
    (w.afterHandling r req).timeline = w.timeline ++ w.seenHandling r req := rfl

theorem requests_seenHandling (w : World) (r : Ref Handler) (req : Request) :
    Observation.requests (w.seenHandling r req) = [req] := by
  rw [seenHandling]
  cases ((w.performing r req).2.transport req.io).failure <;> rfl

theorem isLine_of_mem_seenHandling {w : World} {r : Ref Handler} {req : Request}
    {o : Observation} (h : o ∈ w.seenHandling r req) : o.isLine = false := by
  rcases List.mem_cons.1 h with rfl | h
  · rfl
  · cases hf : ((w.performing r req).2.transport req.io).failure with
    | none => simp [hf] at h
    | some message =>
      simp only [hf, Run.failures, Option.map_some, Option.toList_some, List.mem_singleton] at h
      exact h ▸ rfl

end World

theorem Run.exec_invoke (r : Ref Handler) (req : Request) (w : World) :
    exec (invoke r req) w = (.ok (w.outcomeOf r req), w.afterHandling r req) := by
  let ticked : World := { w with handlers := w.handlers.modify r Handler.tick }
  let event : Observation := .event (.handled (w.taking r).script.name (w.taking r).count
    ⟨req, (w.states.get req.state).value⟩)
  have htick : exec (modifyHandler r fun h => { h with count := h.count + 1 }) w =
      (.ok (), ticked) := rfl
  have hhandler : exec (handler r) ticked = (.ok (w.taking r), ticked) := rfl
  have hsee : exec (see req) ticked = (.ok ⟨req, (w.states.get req.state).value⟩, ticked) := rfl
  have hemit : exec (emit (.handled (w.taking r).script.name (w.taking r).count
      ⟨req, (w.states.get req.state).value⟩)) ticked = (.ok (), ticked.observing [event]) := rfl
  have hacts := exec_attempt ((w.taking r).script.actions.forM (act req)) (ticked.observing [event])
  rw [exec_acts] at hacts
  rw [invoke, exec_bind_ok htick, exec_bind_ok hhandler, exec_bind_ok hsee, exec_bind_ok hemit,
    exec_bind_ok hacts, exec_bind_ok (exec_settleTransport _ _)]
  have hworld : ((((ticked.observing [event]).onStage (w.performing r req).2).onStage
      ((w.performing r req).2.onTransport req.io (·.settle))).observing
        (failures req.io ((w.performing r req).2.transport req.io).failure)) =
      w.afterHandling r req := by
    simp [World.afterHandling, World.seenHandling, World.observing, World.onStage, ticked, event]
  show exec (match (w.performing r req).1 with | .ok _ => _ | .error v => _) _ = _
  rw [World.outcomeOf, ← hworld]
  cases (w.performing r req).1 with
  | ok => rfl
  | error v => rfl

end HttpDispatch
