import HttpDispatch.Proofs.Log.Fallback
import HttpDispatch.Proofs.Routing.Activation
import HttpDispatch.Proofs.Routing.Answer
import HttpDispatch.Session

/-!
# Programs that leave the shared logger alone

Most programs neither make the shared logger nor change the settings of any logger
(`World.KeepsLoggers`), and they do not warn of default logging either (`World.Abides`).  This holds
of the elementary steps and of what is put together of them, among them the calls of services and
connections: what these log is of another level or names the trace of a request.
-/

namespace HttpDispatch

namespace World

/-- Between two worlds, the shared logger was not made, and all loggers kept their settings. -/
structure KeepsLoggers (w w' : World) : Prop where
  shared : w'.shared = w.shared
  loggers : w.loggers.Keeps Logger.settings w'.loggers

/-- Besides, there was no warning about default logging. -/
structure Abides (w w' : World) : Prop extends KeepsLoggers w w' where
  seen : ∃ seen, w'.timeline = w.timeline ++ seen ∧ ∀ o ∈ seen, o.tellsFallback = false

variable {w w' w'' : World}

theorem KeepsLoggers.refl (w : World) : w.KeepsLoggers w := ⟨rfl, .refl _⟩

theorem KeepsLoggers.trans (h : w.KeepsLoggers w') (h' : w'.KeepsLoggers w'') :
    w.KeepsLoggers w'' :=
  ⟨h'.shared.trans h.shared, h.loggers.trans h'.loggers⟩

namespace Abides

theorem of_eq (hshared : w'.shared = w.shared) (hloggers : w'.loggers = w.loggers)
    (htimeline : w'.timeline = w.timeline) : w.Abides w' where
  shared := hshared
  loggers := hloggers ▸ .refl _
  seen := ⟨[], htimeline.trans (List.append_nil _).symm, fun _ ho => absurd ho List.not_mem_nil⟩

theorem refl (w : World) : w.Abides w := .of_eq rfl rfl rfl

theorem trans (h : w.Abides w') (h' : w'.Abides w'') : w.Abides w'' where
  toKeepsLoggers := h.toKeepsLoggers.trans h'.toKeepsLoggers
  seen := by
    obtain ⟨seen, ht, hs⟩ := h.seen
    obtain ⟨seen', ht', hs'⟩ := h'.seen
    refine ⟨seen ++ seen', by rw [ht', ht, List.append_assoc], fun o ho => ?_⟩
    exact (List.mem_append.1 ho).elim (hs o) (hs' o)

theorem observing (w : World) {seen : List Observation} (h : ∀ o ∈ seen, o.tellsFallback = false) :
    w.Abides (w.observing seen) where
  shared := rfl
  loggers := .refl _
  seen := ⟨seen, rfl, h⟩

/-- Events are no warnings. -/
theorem event (w : World) (e : Event) : w.Abides (w.observing [.event e]) :=
  .observing w fun _ ho => List.mem_singleton.1 ho ▸ rfl

end Abides

end World

namespace Run

variable {α β : Type}

/-- A program that keeps the loggers and does not warn of default logging. -/
def Abiding (p : Run α) : Prop := ∀ w : World, w.Abides (exec p w).2

namespace Abiding

theorem pure (a : α) : Abiding (Pure.pure a) := .refl

theorem raise (v : Value) : Abiding (Run.raise v : Run α) := .refl

theorem ofExcept (x : Except Value α) : Abiding (MonadExcept.ofExcept x) := by
  intro w
  rw [exec_ofExcept]
  exact .refl w

theorem get : Abiding (MonadState.get : Run World) := .refl

theorem bind {p : Run α} {f : α → Run β} (hp : Abiding p) (hf : ∀ a, Abiding (f a)) :
    Abiding (p >>= f) := fun w => exec_bind_along World.Abides.trans (hp w) hf

theorem attempt {p : Run α} (hp : Abiding p) : Abiding (Run.attempt p) := hp

/-- A program that changes neither the loggers nor what was seen. -/
theorem of_eq {p : Run α} (hshared : ∀ w, (exec p w).2.shared = w.shared)
    (hloggers : ∀ w, (exec p w).2.loggers = w.loggers)
    (htimeline : ∀ w, (exec p w).2.timeline = w.timeline) : Abiding p :=
  fun w => .of_eq (hshared w) (hloggers w) (htimeline w)

/-! ### Elementary programs -/

theorem emit (e : Event) : Abiding (Run.emit e) := fun w => .event w e

theorem freshId : Abiding Run.freshId := .of_eq (fun _ => rfl) (fun _ => rfl) fun _ => rfl

theorem startTrace (traceId : Option String) : Abiding (Run.startTrace traceId) := by
  intro w
  rw [exec_startTrace]
  exact .of_eq rfl rfl rfl

theorem startSpan (parent : Trace) : Abiding (Run.startSpan parent) :=
  .of_eq (fun _ => rfl) (fun _ => rfl) fun _ => rfl

theorem logger (r : Ref Logger) : Abiding (Run.logger r) := .refl

theorem addLogger (l : Logger) : Abiding (Run.addLogger l) := by
  intro w
  rw [exec_addLogger]
  exact ⟨⟨rfl, .push _ _⟩, (World.Abides.refl w).seen⟩

theorem setTrace (r : Ref Logger) (t : Option Trace) : Abiding (Run.setTrace r t) := by
  intro w
  have hsettings : ∀ l : Logger, (l.withTrace t).settings = l.settings :=
    fun l => l.settings_withTrace t
  exact ⟨⟨rfl, .modify hsettings w.loggers r⟩, (World.Abides.refl w).seen⟩

theorem handler (r : Ref Handler) : Abiding (Run.handler r) := .refl

theorem addHandler (h : Handler) : Abiding (Run.addHandler h) :=
  .of_eq (fun _ => rfl) (fun _ => rfl) fun _ => rfl

theorem addState (s : AppState) : Abiding (Run.addState s) :=
  .of_eq (fun _ => rfl) (fun _ => rfl) fun _ => rfl

theorem see (r : Request) : Abiding (Run.see r) := .refl

theorem configuration (env : Environ) : Abiding (Run.configuration env) := by
  rw [Run.configuration]
  cases Config.ofEnviron env with
  | ok c => exact .pure c
  | error f => exact .raise _

theorem changeFiles {γ : Type} (change : FileTree → FileTree × Except FileError γ) :
    Abiding (Run.changeFiles change) := by
  intro w
  rw [Run.changeFiles, exec_bind_ok (exec_get w)]
  cases change w.files with
  | mk files result =>
    cases result with
    | ok b => exact .of_eq rfl rfl rfl
    | error e => exact .of_eq rfl rfl rfl

theorem loadEnvFile (path : String) : Abiding (Run.loadEnvFile path) := by
  rw [Run.loadEnvFile]
  refine get.bind fun w => ?_
  cases w.files.read (if path = "" then defaultEnvPath else path) with
  | error e => exact .raise _
  | ok content =>
    have hmerge : Abiding (modify fun w : World => { w with
        environ := EnvFile.merge w.environ (EnvFile.bindings content).entries }) :=
      .of_eq (fun _ => rfl) (fun _ => rfl) fun _ => rfl
    exact hmerge.bind fun _ => get.bind fun w => configuration w.environ

/-! ### Transports -/

theorem setTransport (io : String) (t : Transport) : Abiding (Run.setTransport io t) :=
  .of_eq (fun _ => rfl) (fun _ => rfl) fun _ => rfl

theorem onTransport (io : String) (f : Transport → Transport) : Abiding (Run.onTransport io f) :=
  get.bind fun _ => setTransport io _

theorem settleTransport (io : String) : Abiding (Run.settleTransport io) := by
  refine get.bind fun w => (setTransport io _).bind fun _ => ?_
  split
  · exact (emit _).bind fun _ => .pure _
  · exact .pure _

theorem destroyTransport (io : String) (reason : Value) :
    Abiding (Run.destroyTransport io reason) := by
  refine get.bind fun w => (setTransport io _).bind fun _ => ?_
  split
  · exact .pure _
  · exact emit _

theorem sendError (io : String) (r : Report) (headers : Dict String) :
    Abiding (Run.sendError io r headers) := by
  refine get.bind fun w => ?_
  split
  · exact .raise _
  have hnow : Abiding Run.now := .refl
  refine hnow.bind fun clock => (onTransport io _).bind fun _ =>
    (settleTransport io).bind fun e => ?_
  cases e with
  | some message => exact .raise _
  | none => exact .pure _

/-! ### Handlers and services -/

theorem cloneHandler (r : Ref Handler) : Abiding (Run.cloneHandler r) := by
  intro w
  have hasking : w.Abides (w.asking r) := by
    have hevent := World.Abides.event w
      (.cloned (w.handlers.get r).script.name (w.handlers.get r).count)
    exact hevent.trans (.of_eq rfl rfl rfl)
  rw [exec_cloneHandler]
  simp only
  repeat' split
  · exact .refl w
  · exact hasking
  · exact hasking
  · exact hasking.trans (addHandler _ _)

theorem create (r : Route) : Abiding r.create := (cloneHandler r.handler).bind fun _ => .pure _

theorem mount (app : App) (m : Mountable) : Abiding (app.mount m) := by
  have hcreate : Abiding m.create := by
    cases m with
    | route r => exact (create r).bind fun _ => .pure _
    | foreign r =>
      rw [Mountable.create]
      cases r.createFailure with
      | some v => exact .raise v
      | none => exact .pure _
  exact hcreate.bind fun _ => .pure _

/-- A factory that is given a logger does not ask for the shared one. -/
theorem activate (f : RouteFactory) (logger : Ref Logger) : Abiding (f.activate (some logger)) :=
  (cloneHandler f.handler).bind fun _ => .pure _

theorem connect (app : App) (logger : Option (Ref Logger)) : Abiding (app.connect logger) := by
  have hactivate : ∀ (factory : Factory) (l : Ref Logger), Abiding (factory.activate l) := by
    intro factory l
    cases factory with
    | route f => exact ((activate f l).bind fun _ => .pure _).attempt
    | foreign r =>
      refine (emit _).bind fun _ => ?_
      cases r.activationFailure with
      | none => exact .pure _
      | some failure =>
        cases failure with
        | raised v => exact .raise v
        | rejected v => exact .pure _
  have hall : ∀ (l : Ref Logger) (ms : List MountedFactory), Abiding (App.activateAll l ms) := by
    intro l ms
    induction ms with
    | nil => exact .pure _
    | cons m rest ih => exact (hactivate m.factory l).bind fun _ => ih.bind fun _ => .pure _
  refine (hall _ app.routes).bind fun results => ?_
  cases App.collect results with
  | ok routes => exact .pure _
  | error f => exact .raise _

theorem pollService (s : Service) : Abiding s.poll := by
  cases s with
  | route s => exact .pure _
  | foreign r => exact (emit _).bind fun _ => .pure _

theorem poll (c : Connection) : Abiding c.poll := by
  rw [Connection.poll]
  induction c.routes with
  | nil => exact .pure _
  | cons m rest ih =>
    refine (pollService m.service).bind fun readiness => ?_
    split
    · exact ih
    · exact .pure _

/-! ### Calls -/

/-- A log call that is no warning, or names a trace. -/
theorem log {l : Logger} {level : Level} (h : l.Attributes level) (message : String)
    (context : Option Json) (error : Option ErrorSummary) :
    Abiding (l.log level message context error) := by
  intro w
  cases hf : l.fails? (l.entry w.clock level message context error) with
  | some v =>
    rw [Logger.exec_log_of_fails hf]
    exact .refl w
  | none =>
    rw [Logger.exec_log_of_not_fails hf]
    exact .observing w fun _ ho => Logger.not_tellsFallback h ho

theorem invoke (r : Ref Handler) (req : Request) : Abiding (Run.invoke r req) := by
  intro w
  rw [exec_invoke]
  have hevents : ∀ o ∈ w.seenHandling r req, o.tellsFallback = false := by
    intro o ho
    obtain ⟨e, rfl⟩ := Observation.eq_event_of_isLine (World.isLine_of_mem_seenHandling ho)
    rfl
  exact ⟨⟨rfl, .refl _⟩, w.seenHandling r req, rfl, hevents⟩

/-- What a service logs is an error, and no warning. -/
theorem callRoute (s : RouteService) (req : Request) : Abiding (s.call req) := by
  have hreport : ∀ t, Abiding (s.report req t) := by
    intro t
    refine (ofExcept _).bind fun text => (logger s.logger).bind fun l => ?_
    have hlevel : l.Attributes .error := nofun
    have hlog := (ofExcept (t.summary .handlerFailed (some req.traceId))).bind fun summary =>
      log hlevel (RouteService.failureMessage text)
        (some (RouteService.requestContext req.method req.path)) (some summary)
    refine hlog.attempt.bind fun result => ?_
    cases result with
    | ok u => exact .pure _
    | error thrown => exact fun w => .observing w fun _ ho => List.mem_singleton.1 ho ▸ rfl
  have hhandle : Abiding (s.handle req) := (invoke s.handler req).bind fun _ => .pure _
  refine hhandle.bind fun outcome => ?_
  cases outcome.settle with
  | ok v => exact .pure _
  | error t => exact hreport t

theorem callService (s : Service) (req : Request) : Abiding (s.call req) := by
  cases s with
  | route s => exact (callRoute s req).bind fun _ => .pure _
  | foreign r =>
    refine (see req).bind fun seen => (emit _).bind fun _ => ?_
    cases r.outcome.settle with
    | ok v => exact .pure _
    | error v => exact .raise _

/-- A warning in a trace with an id names the trace. -/
theorem attributes_child (l : Logger) {t : Trace} (h : t.traceId ≠ "") (level : Level) :
    (l.child t).Attributes level := by
  intro _
  refine ⟨t.traceId, ?_, h⟩
  cases l with
  | mk settings trace => cases trace <;> rfl

/-- A refusal warns in the trace of the request. -/
theorem refuse (l : Logger) {t : Trace} (h : t.traceId ≠ "") (io path method : String)
    (refusal : Report × Dict String) :
    Abiding (Connection.refuse (l.child t) io path method refusal) := by
  have hwarn : ∀ message context, Abiding ((l.child t).warn message context) := fun _ _ =>
    log (attributes_child l h .warn) _ _ _
  refine Abiding.bind ?_ fun _ => .pure _
  refine (hwarn _ _).bind fun _ => (sendError io _ _).attempt.bind fun result => ?_
  cases result with
  | ok u => exact .pure _
  | error v => exact hwarn _ _

/-- What a connection logs is below a warning or names the trace of the request. -/
theorem call (c : Connection) (init : HeadInit) (io : String) : Abiding (c.call init io) := by
  intro w
  cases hh : Headers.ofInit? init.headers with
  | none =>
    rw [Connection.exec_call_of_invalid hh]
    exact .refl w
  | some headers =>
    have hdrawing : ∀ draws, w.Abides (w.drawing draws) := fun _ => .of_eq rfl rfl rfl
    cases hfind : c.routes.find? (·.takes init.path init.verb) with
    | some m =>
      rw [Connection.exec_call_matched hh hfind]
      have hlevel : (c.spanLogger headers w).Attributes .debug := nofun
      have hdebug : ∀ message context, Abiding ((c.spanLogger headers w).debug message context) :=
        fun _ _ => log hlevel _ _ _
      exact (hdrawing _).trans ((hdebug _ _).bind (fun _ => callService m.service _) _)
    | none =>
      rw [Connection.exec_call_refused hh hfind]
      exact (hdrawing _).trans
        (refuse _ (t := w.traceFor _) (w.traceIdFor_ne_empty _) io init.path init.verb _ _)

/-! ### Requests of a session -/

theorem request (init : RequestInit) : Abiding (Session.request init) := by
  rw [Session.request]
  cases RequestHead.ofInit? init.head with
  | none => exact .raise _
  | some head =>
    refine (addState init.state).bind fun state => ?_
    cases init.traceId <|> head.traceId? with
    | some id => exact .bind (.pure id) fun _ => .pure _
    | none => exact freshId.bind fun _ => .pure _

theorem lookups (head : RequestHead) (names : List String) :
    Abiding (Session.lookups head names) := by
  induction names with
  | nil => exact .pure _
  | cons name rest ih =>
    rw [Session.lookups]
    cases head.headers.lookup? name with
    | none => exact .raise _
    | some value => exact ih.bind fun _ => .pure _

end Abiding

end Run

end HttpDispatch
