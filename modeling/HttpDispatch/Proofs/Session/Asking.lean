import HttpDispatch.Proofs.Routing.Abiding
import HttpDispatch.Proofs.Session.Descent

/-!
# Commands that ask for the shared logger

Three commands may ask for the shared logger: one that makes an application, whatever logger this is
going to have, one that activates a factory without a logger, and one that asks outright
(`Session.asks`).  The others leave it alone, and unless they log by themselves they do not warn of
default logging (`Session.abides_of_not_asks`).  What a command comes to that asks is said once, for
all three of them (`World.Asks`, `Session.asks_of_asks`).
-/

namespace HttpDispatch

open Run

/-! ### Worlds -/

/-- Between two worlds, the shared logger was asked for, in the environment of the first. -/
def World.Asks (w w' : World) : Prop :=
  ∃ w₁, w.Abides w₁ ∧ w₁.environ = w.environ ∧ (exec sharedLogger w₁).2.Abides w'

namespace World

variable {w w' w'' : World}

theorem Asks.trans_abides (h : w.Asks w') (h' : w'.Abides w'') : w.Asks w'' := by
  obtain ⟨w₁, hbefore, henviron, hafter⟩ := h
  exact ⟨w₁, hbefore, henviron, hafter.trans h'⟩

/-- Asking for a logger that is there does nothing. -/
theorem Asks.abides (h : w.Asks w') {r : Ref Logger} (hr : w.shared = some r) : w.Abides w' := by
  obtain ⟨w₁, hbefore, -, hafter⟩ := h
  rw [exec_sharedLogger_of_some (hbefore.shared.trans hr)] at hafter
  exact hbefore.trans hafter

/-- The shared logger is this one, with the settings of an environment. -/
structure Shares (w : World) (r : Ref Logger) (env : Environ) : Prop where
  shared : w.shared = some r
  holds : w.loggers.Holds r
  settings : (w.loggers.get r).settings = .ofEnviron env

theorem Shares.keeps {r : Ref Logger} {env : Environ} (h : w.Shares r env)
    (hkeeps : w.KeepsLoggers w') : w'.Shares r env where
  shared := hkeeps.shared.trans h.shared
  holds := hkeeps.loggers.holds h.holds
  settings := (hkeeps.loggers.same h.holds).trans h.settings

/-- Asking for a logger that is not there makes one from the environment as it is, with a warning if
this is not valid. -/
theorem Asks.exists_shares (h : w.Asks w') (hw : w.shared = none) :
    (∃ r, w'.Shares r w.environ) ∧ ∃ seen, w'.timeline = w.timeline ++ seen ∧
      Observation.fallbacks seen = if Environ.isValid w.environ then 0 else 1 := by
  obtain ⟨w₁, hbefore, henviron, hafter⟩ := h
  rw [exec_sharedLogger_of_none (hbefore.shared.trans hw), henviron] at hafter
  constructor
  · refine ⟨w₁.loggers.next, Shares.keeps ⟨rfl, w₁.loggers.holds_push_next _, ?_⟩
      hafter.toKeepsLoggers⟩
    exact congrArg Logger.settings (Store.get_push_next w₁.loggers (.ofSettings _))
  · obtain ⟨seen₁, ht₁, hs₁⟩ := hbefore.seen
    obtain ⟨seen₂, ht₂, hs₂⟩ := hafter.seen
    refine ⟨seen₁ ++ (seenConfiguring w₁.clock w.environ ++ seen₂), ?_, ?_⟩
    · rw [ht₂, timeline_observing, ht₁, List.append_assoc, List.append_assoc]
    · rw [Observation.fallbacks_append, Observation.fallbacks_append, fallbacks_seenConfiguring,
        Observation.fallbacks_eq_zero hs₁, Observation.fallbacks_eq_zero hs₂, Nat.zero_add,
        Nat.add_zero]

end World

namespace Run

variable {α : Type}

theorem asks_shared (w : World) : w.Asks (exec sharedLogger w).2 := ⟨w, .refl w, rfl, .refl _⟩

/-- What is answered is the shared logger. -/
theorem shared_of_exec {w w' : World} {r : Ref Logger} (h : exec sharedLogger w = (.ok r, w')) :
    w'.shared = some r := by
  cases hshared : w.shared with
  | some q =>
    rw [exec_sharedLogger_of_some hshared] at h
    obtain ⟨hq, rfl⟩ := Prod.mk.inj h
    exact hshared.trans (congrArg some (Except.ok.inj hq))
  | none =>
    rw [exec_sharedLogger_of_none hshared] at h
    obtain ⟨hnext, rfl⟩ := Prod.mk.inj h
    exact congrArg some (Except.ok.inj hnext)

/-- A program that begins with asking for the shared logger. -/
theorem asks_bind {f : Ref Logger → Run α} (hf : ∀ r, Abiding (f r)) (w : World) :
    w.Asks (exec (sharedLogger >>= f) w).2 := by
  have hask := asks_shared w
  obtain ⟨r, w₁, hr⟩ := Session.exists_exec_sharedLogger w
  rw [hr] at hask
  rw [exec_bind_ok hr]
  exact hask.trans_abides (hf r w₁)

theorem asks_new (state : AppState) (w : World) : w.Asks (exec (App.new state) w).2 :=
  asks_bind (fun _ => (Abiding.addState state).bind fun _ => .pure _) w

theorem environ_cloneHandler (r : Ref Handler) (w : World) :
    (exec (cloneHandler r) w).2.environ = w.environ := by
  rw [exec_cloneHandler]
  simp only
  repeat' split
  all_goals rfl

/-- A factory that is given no logger asks for the shared one once its handler is cloned. -/
theorem activate_cases (f : RouteFactory) (w : World) :
    (∃ s w', exec (f.activate none) w = (.ok s, w') ∧ w.Asks w') ∨
      ∃ v w', exec (f.activate none) w = (.error v, w') ∧ w.Abides w' := by
  have habides := Abiding.cloneHandler f.handler w
  have henviron := environ_cloneHandler f.handler w
  rw [RouteFactory.activate, exec_bind]
  cases hclone : exec (cloneHandler f.handler) w with
  | mk result w₁ =>
    rw [hclone] at habides henviron
    cases result with
    | error v => exact .inr ⟨v, w₁, rfl, habides⟩
    | ok r =>
      obtain ⟨l, w₂, hask⟩ := Session.exists_exec_sharedLogger w₁
      have hafter : (exec sharedLogger w₁).2.Abides w₂ := hask ▸ .refl w₂
      exact .inl ⟨⟨r, f.methods, l⟩, w₂, exec_bind_ok hask, w₁, habides, henviron, hafter⟩

end Run

/-! ### Parts of steps -/

namespace Session

variable {α β : Type}

theorem exec_findOptional_known {names : Session → Dict α} {name : String} {s : Session} {a : α}
    (h : (names s).get? name = some a) :
    exec (findOptional names (some name)) s = (.ok (some a), s) :=
  exec_bind_ok (exec_find_eq_ok.2 ⟨h, rfl⟩)

theorem exec_findOptional_unknown {names : Session → Dict α} {name : String} {s : Session}
    (h : (names s).get? name = none) :
    exec (findOptional names (some name)) s = (.error (.unknown name), s) :=
  exec_bind_error (exec_find_unknown h)

/-- A part of a step that leaves the shared logger alone and does not warn of default logging. -/
def Abiding (part : Step α) : Prop := ∀ s : Session, s.world.Abides (exec part s).2.world

namespace Abiding

theorem pure (a : α) : Abiding (Pure.pure a) := fun s => .refl s.world

theorem get : Abiding (MonadState.get : Step Session) := fun s => .refl s.world

theorem bind {part : Step α} {f : α → Step β} (hp : Abiding part) (hf : ∀ a, Abiding (f a)) :
    Abiding (part >>= f) := fun s =>
  exec_bind_along (R := fun s s' => s.world.Abides s'.world) .trans (hp s) fun a s₁ _ => hf a s₁

theorem run {program : Run α} (h : program.Abiding) : Abiding (Session.run program) := by
  intro s
  rw [exec_run]
  exact h s.world

/-- A part of a step that changes nothing in the world. -/
theorem of_world {part : Step α} (h : ∀ s, (exec part s).2.world = s.world) : Abiding part :=
  fun s => h s ▸ .refl s.world

theorem find (names : Session → Dict α) (name : String) : Abiding (Session.find names name) :=
  .of_world fun s => by rw [exec_find]

theorem findOptional (names : Session → Dict α) (name : Option String) :
    Abiding (Session.findOptional names name) := by
  cases name with
  | none => exact .pure _
  | some n => exact (find names n).bind fun _ => .pure _

/-- What comes after a name was found. -/
theorem findSome {names : Session → Dict α} {f : Option α → Step β} (name : String)
    (hf : ∀ a, Abiding (f (some a))) : Abiding (Session.findOptional names (some name) >>= f) := by
  intro s
  cases hname : (names s).get? name with
  | none =>
    rw [exec_bind_error (exec_findOptional_unknown hname)]
    exact .refl s.world
  | some a =>
    rw [exec_bind_ok (exec_findOptional_known hname)]
    exact hf a s

theorem forM {part : α → Step Unit} (h : ∀ a, Abiding (part a)) (as : List α) :
    Abiding (as.forM part) := by
  induction as with
  | nil => exact .pure ()
  | cons a rest ih => exact (h a).bind fun _ => ih

theorem naming {part : String → Step Unit} (h : ∀ name s, (exec (part name) s).2.world = s.world)
    (name : Option String) : Abiding (name.forM part) := by
  cases name with
  | none => exact .pure _
  | some n => exact .of_world (h n)

theorem trace (source : TraceSource) : Abiding (Session.trace source) := by
  cases source with
  | named name => exact .find _ name
  | given t => exact .pure t

theorem handler (source : HandlerSource) : Abiding (Session.handler source) := by
  cases source with
  | named name => exact .find _ name
  | given script =>
    rw [Session.handler]
    exact .run (.addHandler _)

theorem declare (d : RouteDeclaration) : Abiding (Session.declare d) :=
  (handler d.handler).bind fun _ => .pure _

theorem mountable (source : RouteSource) : Abiding (Session.mountable source) := by
  cases source with
  | named name => exact (find _ name).bind fun _ => .pure _
  | declared d => exact (declare d).bind fun _ => .pure _
  | foreign r => exact .pure _

theorem mountOn (name : String) (source : RouteSource) : Abiding (Session.mountOn name source) :=
  (find _ name).bind fun app => (mountable source).bind fun m =>
    (run (.mount app m)).bind fun _ => .of_world fun _ => rfl

end Abiding

end Session

/-! ### Commands -/

/-- Whether a command logs by itself: it writes an entry, or it makes a logger of its own from an
environment. -/
def Command.logs : Command → Bool
  | log .. | configureLogger .. => true
  | _ => false

/-- Whether a command may ask for the shared logger. -/
def Command.mayAsk : Command → Bool
  | nameSharedLogger _ | makeApp .. | activateFactory _ _ none => true
  | _ => false

namespace Session

/-- A command leaves the shared logger alone if it may not ask for it and does not log by itself. -/
theorem abiding_perform {c : Command} (hlogs : c.logs = false) (hask : c.mayAsk = false) :
    Abiding (perform c) := by
  cases c with
  | setClock clock => exact fun s => .of_eq rfl rfl rfl
  | makeTraceId => exact (Abiding.run .freshId).bind fun _ => .pure _
  | startTrace traceId name =>
    exact (Abiding.run (.startTrace traceId)).bind fun t =>
      (Abiding.naming (fun _ _ => rfl) name).bind fun _ => .pure _
  | startSpan parent name =>
    exact (Abiding.trace parent).bind fun p => (Abiding.run (.startSpan p)).bind fun t =>
      (Abiding.naming (fun _ _ => rfl) name).bind fun _ => .pure _
  | makeRequest init names =>
    exact (Abiding.run (.request init)).bind fun r => (Abiding.run (.lookups r.head names)).bind
      fun _ => (Abiding.run (.see r)).bind fun _ => .pure _
  | configure environ =>
    exact Abiding.get.bind fun s => (Abiding.run (.configuration _)).bind fun _ => .pure _
  | writeFile path content => exact (Abiding.run (.changeFiles _)).bind fun _ => .pure _
  | makeDirectory path => exact (Abiding.run (.changeFiles _)).bind fun _ => .pure _
  | loadEnvFile path => exact (Abiding.run (.loadEnvFile path)).bind fun _ => .pure _
  | showEnviron => exact Abiding.get.bind fun s => .pure _
  | makeLogger name settings =>
    exact (Abiding.run (.addLogger _)).bind fun r =>
      (Abiding.of_world fun _ => rfl).bind fun _ => .pure _
  | showLevel logger =>
    exact (Abiding.find _ logger).bind fun r => (Abiding.run (.logger r)).bind fun _ => .pure _
  | makeChild logger name source =>
    exact (Abiding.find _ logger).bind fun r => (Abiding.trace source).bind fun t =>
      (Abiding.run (.logger r)).bind fun l => (Abiding.run (.addLogger _)).bind fun child =>
        (Abiding.of_world fun _ => rfl).bind fun _ => .pure _
  | setTrace logger source =>
    refine (Abiding.find _ logger).bind fun r => ?_
    have hset : ∀ t, Abiding (do run (Run.setTrace r t); return Reply.done) := fun t =>
      (Abiding.run (.setTrace r t)).bind fun _ => .pure _
    cases source with
    | some source => exact (Abiding.trace source).bind fun t => hset (some t)
    | none => exact hset none
  | makeHandler name script =>
    exact (Abiding.run (.addHandler _)).bind fun r =>
      (Abiding.of_world fun _ => rfl).bind fun _ => .pure _
  | showCount name =>
    exact (Abiding.find _ name).bind fun r => (Abiding.run (.handler r)).bind fun _ => .pure _
  | startRoute name path shorthand methods =>
    exact (Abiding.of_world fun _ => rfl).bind fun _ => .pure _
  | addMethod builder method =>
    exact (Abiding.find _ builder).bind fun b => (Abiding.of_world fun _ => rfl).bind
      fun _ => .pure _
  | finishRoute builder name source =>
    exact (Abiding.find _ builder).bind fun b => (Abiding.handler source).bind fun h =>
      (Abiding.of_world fun _ => rfl).bind fun _ => .pure _
  | declareRoute name d =>
    exact (Abiding.declare d).bind fun r => (Abiding.of_world fun _ => rfl).bind fun _ => .pure _
  | extendRoute route name method =>
    exact (Abiding.find _ route).bind fun r => (Abiding.of_world fun _ => rfl).bind fun _ => .pure _
  | showRoute name => exact (Abiding.find _ name).bind fun _ => .pure _
  | createFactory route name =>
    exact (Abiding.find _ route).bind fun r => (Abiding.run (.create r)).bind fun f =>
      (Abiding.of_world fun _ => rfl).bind fun _ => .pure _
  | activateFactory factory name logger =>
    cases logger with
    | none => nomatch hask
    | some l =>
      exact (Abiding.find _ factory).bind fun f => Abiding.findSome l fun r =>
        (Abiding.run (.activate f r)).bind fun _ =>
          (Abiding.of_world fun _ => rfl).bind fun _ => .pure _
  | showService name methods =>
    exact (Abiding.find _ name).bind fun s => (Abiding.run (.pollService _)).bind fun _ => .pure _
  | callService name init =>
    exact (Abiding.find _ name).bind fun s => (Abiding.run (.request init)).bind fun r =>
      (Abiding.run (.callRoute s r)).bind fun _ => .pure _
  | mount name source =>
    exact (Abiding.mountOn name source).bind fun _ => (Abiding.find _ name).bind fun _ => .pure _
  | setAppLogger name logger =>
    exact (Abiding.find _ logger).bind fun r => (Abiding.find _ name).bind fun a =>
      (Abiding.of_world fun _ => rfl).bind fun _ => .pure _
  | showPaths name => exact (Abiding.find _ name).bind fun _ => .pure _
  | connect app name logger =>
    exact (Abiding.find _ app).bind fun a => (Abiding.findOptional _ logger).bind fun given =>
      (Abiding.run (.connect a given)).bind fun _ =>
        (Abiding.of_world fun _ => rfl).bind fun _ => .pure _
  | poll name =>
    exact (Abiding.find _ name).bind fun c => (Abiding.run (.poll c)).bind fun _ => .pure _
  | call name head io =>
    exact (Abiding.find _ name).bind fun c => (Abiding.run (.call c head io)).bind fun _ => .pure _
  | openTransport name kind => exact (Abiding.run (.setTransport name _)).bind fun _ => .pure _
  | writeTransport io text =>
    exact (Abiding.run (.onTransport io _)).bind fun _ =>
      (Abiding.run (.settleTransport io)).bind fun _ => .pure _
  | endTransport io =>
    exact (Abiding.run (.onTransport io _)).bind fun _ =>
      (Abiding.run (.settleTransport io)).bind fun _ => .pure _
  | destroyTransport io reason =>
    exact (Abiding.run (.destroyTransport io reason)).bind fun _ => .pure _
  | sendError io report headers =>
    exact (Abiding.run (.sendError io report headers)).bind fun _ => .pure _
  | log | configureLogger => nomatch hlogs
  | nameSharedLogger | makeApp => nomatch hask

/-- Whether a command asks for the shared logger: it makes an application, it activates a factory
without a logger and the handler is cloned, or it asks outright. -/
def asks (s : Session) : Command → Bool
  | .makeApp _ _ logger _ => logger.all fun l => (s.loggers.get? l).isSome
  | .activateFactory factory name none =>
    (s.step (.activateFactory factory name none)).1.result.isOk
  | .nameSharedLogger _ => true
  | _ => false

variable {α β : Type} {s : Session} {c : Command}

theorem asks_bind {part : Step α} {f : α → Step β}
    (h : s.world.Asks (exec part s).2.world) (hf : ∀ a, Abiding (f a)) :
    s.world.Asks (exec (part >>= f) s).2.world := by
  rw [exec_bind]
  cases hp : exec part s with
  | mk result s₁ =>
    rw [hp] at h
    cases result with
    | ok a => exact h.trans_abides (hf a s₁)
    | error stop => exact h

/-- A command that logs by itself changes no settings. -/
theorem keepsLoggers_of_logs (h : c.logs = true) (s : Session) :
    s.world.KeepsLoggers (exec (perform c) s).2.world := by
  cases c with
  | log logger level message context error =>
    rw [perform, exec_bind, exec_find]
    cases s.loggers.get? logger with
    | none => exact .refl s.world
    | some r =>
      rw [exec_bind_snd fun _ _ => rfl, exec_run, Run.exec_bind_ok (exec_logger r s.world)]
      let l := s.world.loggers.get r
      cases hf : l.fails? (l.entry s.world.clock level message context
          (if level = .error then error.bind Value.summary? else none)) with
      | some v =>
        rw [Logger.exec_log_of_fails hf]
        exact .refl s.world
      | none =>
        rw [Logger.exec_log_of_not_fails hf]
        exact ⟨rfl, .refl _⟩
  | configureLogger name environ =>
    let env := environ.getD s.world.environ
    have hnaming : ∀ r, Abiding (do
        nameLogger name r
        return Reply.level (← run (Run.logger r)).level) := fun r =>
      (Abiding.of_world fun _ => rfl).bind fun _ => (Abiding.run (.logger r)).bind fun _ => .pure _
    obtain ⟨r, w, hw, hkeeps⟩ : ∃ r w, Run.exec (configuredLogger env) s.world = (.ok r, w) ∧
        s.world.KeepsLoggers w := ⟨_, _, exec_configuredLogger env s.world, rfl, .push _ _⟩
    rw [perform, exec_bind_ok (show exec get s = (.ok s, s) from rfl),
      exec_bind_ok (exec_run_eq_ok.2 ⟨w, hw, rfl⟩)]
    exact hkeeps.trans (hnaming r (s.inWorld w)).toKeepsLoggers
  | _ => cases h

/-- An activation without a logger asks for the shared one if it succeeds. -/
theorem activateFactory_cases (factory name : String) (s : Session) :
    let after := exec (perform (.activateFactory factory name none)) s
    (after.1.isOk = true ∧ s.world.Asks after.2.world) ∨
      (after.1.isOk = false ∧ s.world.Abides after.2.world) := by
  intro after
  cases hfound : s.factories.get? factory with
  | none =>
    have hafter : after = (.error (.unknown factory), s) :=
      exec_bind_error (exec_find_unknown hfound)
    exact .inr (hafter ▸ ⟨rfl, .refl s.world⟩)
  | some f =>
    have hactivate : after = exec (run (f.activate none) >>= fun service => do
        nameService name service
        return .methods service.methods) s :=
      exec_bind_ok (exec_find_eq_ok.2 ⟨hfound, rfl⟩)
    rcases activate_cases f s.world with ⟨sv, w, hw, hasks⟩ | ⟨v, w, hw, habides⟩
    · have hafter : after = (.ok (.methods sv.methods),
          { s.inWorld w with services := s.services.set name sv }) :=
        hactivate.trans (exec_bind_ok (exec_run_eq_ok.2 ⟨w, hw, rfl⟩))
      exact .inl (hafter ▸ ⟨rfl, hasks⟩)
    · have hrun : exec (run (f.activate none)) s = (.error (.raised v), s.inWorld w) := by
        rw [exec_run, hw]
      have hafter : after = (.error (.raised v), s.inWorld w) :=
        hactivate.trans (exec_bind_error hrun)
      exact .inr (hafter ▸ ⟨rfl, habides⟩)

/-- What a command comes to that asks for the shared logger. -/
theorem asks_of_asks (h : s.asks c = true) : s.opened.world.Asks (s.step c).2.world := by
  rw [step_snd]
  cases c with
  | nameSharedLogger name =>
    have hask : s.opened.world.Asks (exec (run sharedLogger) s.opened).2.world := by
      rw [exec_run]
      exact Run.asks_shared _
    exact asks_bind hask fun r => Abiding.get.bind fun _ =>
      (Abiding.of_world fun _ => rfl).bind fun _ => (Abiding.run (.logger r)).bind fun _ => .pure _
  | makeApp name state logger sources =>
    obtain ⟨given, hgiven⟩ : ∃ given, exec (findOptional Session.loggers logger) s.opened =
        (.ok given, s.opened) := by
      cases logger with
      | none => exact ⟨none, rfl⟩
      | some l =>
        obtain ⟨r, hr⟩ := Option.isSome_iff_exists.1 h
        exact ⟨some r, exec_findOptional_known hr⟩
    have hask : s.opened.world.Asks (exec (run (App.new state)) s.opened).2.world := by
      rw [exec_run]
      exact asks_new state _
    rw [perform, exec_bind_ok hgiven]
    exact asks_bind hask fun app => (Abiding.of_world fun _ => rfl).bind fun _ =>
      (Abiding.forM (.mountOn name) sources).bind fun _ => (Abiding.find _ name).bind fun _ =>
        .pure _
  | activateFactory factory name logger =>
    cases logger with
    | some l => cases h
    | none =>
      rcases activateFactory_cases factory name s.opened with ⟨-, hasks⟩ | ⟨hfailed, -⟩
      · exact hasks
      · exact absurd (h.symm.trans hfailed) (by decide)
  | _ => cases h

/-- A command that does not ask for the shared logger leaves it alone. -/
theorem abides_of_not_asks (hlogs : c.logs = false) (h : s.asks c = false) :
    s.opened.world.Abides (s.step c).2.world := by
  rw [step_snd]
  cases hmay : c.mayAsk with
  | false => exact abiding_perform hlogs hmay s.opened
  | true =>
    cases c with
    | makeApp name state logger sources =>
      cases logger with
      | none => cases h
      | some l =>
        have hunknown : s.opened.loggers.get? l = none :=
          Option.isNone_iff_eq_none.1 (Option.isSome_eq_false_iff.1 h)
        rw [perform, exec_bind_error (exec_findOptional_unknown hunknown)]
        exact .refl _
    | activateFactory factory name logger =>
      cases logger with
      | some l => cases hmay
      | none =>
        rcases activateFactory_cases factory name s.opened with ⟨hok, -⟩ | ⟨-, habides⟩
        · exact absurd (h.symm.trans hok) (by decide)
        · exact habides
    | nameSharedLogger name => cases h
    | _ => cases hmay

end Session

end HttpDispatch
