import HttpDispatch.Proofs.Http.Sending
import HttpDispatch.Proofs.Log.Tracing
import HttpDispatch.Proofs.Session.Run

/-!
# Commands that have nothing to do with handlers

Handlers are made and cloned by few commands, and run by two.  Here are all the others: a session
rests while they are carried out (`resting_perform`), because the programs that they run leave the
handlers alone.
-/

namespace HttpDispatch

/-! ### Programs -/

namespace Run

namespace LeavesHandlers

theorem emit (e : Event) : LeavesHandlers (Run.emit e) := fun _ => rfl

theorem freshId : LeavesHandlers Run.freshId := fun _ => rfl

theorem startTrace (traceId : Option String) : LeavesHandlers (Run.startTrace traceId) := by
  intro w
  rw [exec_startTrace]
  rfl

theorem logger (r : Ref Logger) : LeavesHandlers (Run.logger r) := fun _ => rfl

theorem addLogger (l : Logger) : LeavesHandlers (Run.addLogger l) := fun _ => rfl

theorem addState (state : AppState) : LeavesHandlers (Run.addState state) := fun _ => rfl

theorem toSink (l : Logger) (e : Entry) : LeavesHandlers (l.toSink e) := by
  rw [Logger.toSink]
  cases l.settings.sink with
  | none => exact .pure _
  | some s =>
    dsimp only
    cases s.throws? e with
    | some v => exact .raise v
    | none => exact fun _ => rfl

theorem toConsole (l : Logger) (e : Entry) : LeavesHandlers (l.toConsole e) := by
  rw [Logger.toConsole]
  split
  · exact fun _ => rfl
  · exact .pure _

theorem log (l : Logger) (level : Level) (message : String) (context : Option Json)
    (error : Option ErrorSummary) : LeavesHandlers (l.log level message context error) := by
  rw [Logger.log]
  split
  · have hnow : LeavesHandlers now := fun _ => rfl
    exact hnow.bind fun clock => (toSink l _).bind fun _ => toConsole l _
  · exact .pure _

theorem configuredLogger (env : Environ) : LeavesHandlers (Run.configuredLogger env) := by
  rw [Run.configuredLogger]
  cases Config.ofEnviron env with
  | ok c => exact addLogger _
  | error f => exact (log _ .warn _ _ none).bind fun _ => addLogger _

theorem sharedLogger : LeavesHandlers Run.sharedLogger := by
  have hget : LeavesHandlers (MonadState.get : Run World) := fun _ => rfl
  have hmake : LeavesHandlers (do
      let r ← Run.configuredLogger (← get).environ
      modify fun w => { w with shared := some r }
      return r) :=
    hget.bind fun w => (configuredLogger w.environ).bind fun r => fun _ => rfl
  refine hget.bind fun w => ?_
  cases w.shared with
  | some r => exact .pure r
  | none => exact hmake

theorem configuration (env : Environ) : LeavesHandlers (Run.configuration env) := by
  rw [Run.configuration]
  cases Config.ofEnviron env with
  | ok c => exact .pure c
  | error f => exact .raise _

theorem changeFiles {β : Type} (change : FileTree → FileTree × Except FileError β) :
    LeavesHandlers (Run.changeFiles change) := by
  intro w
  rw [Run.changeFiles, exec_bind_ok (exec_get w)]
  cases change w.files with
  | mk files result =>
    cases result with
    | ok b => rfl
    | error e => rfl

theorem loadEnvFile (path : String) : LeavesHandlers (Run.loadEnvFile path) := by
  have hget : LeavesHandlers (MonadState.get : Run World) := fun _ => rfl
  rw [Run.loadEnvFile]
  refine hget.bind fun w => ?_
  cases w.files.read (if path = "" then defaultEnvPath else path) with
  | error e => exact .raise _
  | ok content =>
    have hmerge : LeavesHandlers (modify fun w : World => { w with
        environ := EnvFile.merge w.environ (EnvFile.bindings content).entries }) := fun _ => rfl
    exact hmerge.bind fun _ => hget.bind fun w => configuration w.environ

theorem settleTransport (io : String) : LeavesHandlers (Run.settleTransport io) := by
  intro w
  rw [exec_settleTransport]
  rfl

theorem destroyTransport (io : String) (reason : Value) :
    LeavesHandlers (Run.destroyTransport io reason) := by
  intro w
  rw [Run.destroyTransport, exec_bind_ok (exec_get w)]
  dsimp only
  split <;> rfl

theorem sendError (io : String) (r : Report) (headers : Dict String) :
    LeavesHandlers (Run.sendError io r headers) := fun w => (serves_sendError io r headers w).1

theorem pollService (s : Service) : LeavesHandlers s.poll := by
  cases s with
  | route s => exact .pure _
  | foreign r => exact (emit _).bind fun _ => .pure _

theorem poll (c : Connection) : LeavesHandlers c.poll := by
  rw [Connection.poll]
  induction c.routes with
  | nil => exact .pure _
  | cons m rest ih =>
    refine (pollService m.service).bind fun readiness => ?_
    split
    · exact ih
    · exact .pure _

theorem new (state : AppState) : LeavesHandlers (App.new state) :=
  sharedLogger.bind fun _ => (addState state).bind fun _ => .pure _

theorem request (init : RequestInit) : LeavesHandlers (Session.request init) := by
  rw [Session.request]
  cases RequestHead.ofInit? init.head with
  | none => exact .raise _
  | some head =>
    refine (addState init.state).bind fun state => ?_
    cases init.traceId <|> head.traceId? with
    | some id => exact .bind (.pure id) fun _ => .pure _
    | none => exact freshId.bind fun _ => .pure _

theorem lookups (head : RequestHead) (names : List String) :
    LeavesHandlers (Session.lookups head names) := by
  induction names with
  | nil => exact .pure _
  | cons name rest ih =>
    rw [Session.lookups]
    cases head.headers.lookup? name with
    | none => exact .raise _
    | some value => exact ih.bind fun _ => .pure _

end LeavesHandlers

end Run

/-! ### Commands -/

/-- The commands that make, clone and run no handler and put no object that mentions one under a
name. -/
def Command.Idle : Command → Prop
  | makeHandler .. | finishRoute .. | declareRoute .. | extendRoute .. | createFactory ..
  | activateFactory .. | callService .. | makeApp .. | mount .. | setAppLogger .. | connect ..
  | call .. => False
  | _ => True

namespace Session

namespace Resting

variable {α β : Type}

theorem leaving {program : Run α} (h : program.LeavesHandlers) : Resting (Session.run program) :=
  .run h.keeps

theorem nameTrace (name : String) (t : Trace) : Resting (Session.nameTrace name t) :=
  fun _ => ⟨rfl, .refl _⟩

theorem nameLogger (name : String) (r : Ref Logger) : Resting (Session.nameLogger name r) :=
  fun _ => ⟨rfl, .refl _⟩

theorem nameBuilder (name : String) (b : RouteBuilder) : Resting (Session.nameBuilder name b) :=
  fun _ => ⟨rfl, .refl _⟩

theorem trace (source : TraceSource) : Resting (Session.trace source) := by
  cases source with
  | named name => exact .find _ name
  | given t => exact .pure t

end Resting

open Run (LeavesHandlers)

/-- A session rests while an idle command is carried out. -/
theorem resting_perform {c : Command} (h : c.Idle) : Resting (perform c) := by
  cases c with
  | setClock clock => exact fun s => ⟨rfl, .refl _⟩
  | makeTraceId => exact (Resting.leaving .freshId).bind fun _ => .pure _
  | startTrace traceId name =>
    exact (Resting.leaving (.startTrace traceId)).bind fun t =>
      (Resting.forM (fun n => .nameTrace n t) name).bind fun _ => .pure _
  | startSpan parent name =>
    exact (Resting.trace parent).bind fun p => (Resting.leaving fun _ => rfl).bind fun t =>
      (Resting.forM (fun n => .nameTrace n t) name).bind fun _ => .pure _
  | makeRequest init names =>
    exact (Resting.leaving (.request init)).bind fun r =>
      (Resting.leaving (.lookups r.head names)).bind fun _ =>
        (Resting.leaving fun _ => rfl).bind fun _ => .pure _
  | configure environ =>
    exact Resting.get.bind fun s =>
      (Resting.leaving (.configuration _)).bind fun _ => .pure _
  | writeFile path content =>
    exact (Resting.leaving (.changeFiles _)).bind fun _ => .pure _
  | makeDirectory path =>
    exact (Resting.leaving (.changeFiles _)).bind fun _ => .pure _
  | loadEnvFile path => exact (Resting.leaving (.loadEnvFile path)).bind fun _ => .pure _
  | showEnviron => exact Resting.get.bind fun s => .pure _
  | makeLogger name settings =>
    exact (Resting.leaving (.addLogger _)).bind fun r =>
      (Resting.nameLogger name r).bind fun _ => .pure _
  | configureLogger name environ =>
    exact Resting.get.bind fun s => (Resting.leaving (.configuredLogger _)).bind fun r =>
      (Resting.nameLogger name r).bind fun _ => (Resting.leaving (.logger r)).bind fun _ => .pure _
  | nameSharedLogger name =>
    exact (Resting.leaving .sharedLogger).bind fun r => Resting.get.bind fun s =>
      (Resting.nameLogger name r).bind fun _ => (Resting.leaving (.logger r)).bind fun _ => .pure _
  | showLevel logger =>
    exact (Resting.find _ logger).bind fun r => (Resting.leaving (.logger r)).bind fun _ => .pure _
  | makeChild logger name source =>
    exact (Resting.find _ logger).bind fun r => (Resting.trace source).bind fun t =>
      (Resting.leaving (.logger r)).bind fun l => (Resting.leaving (.addLogger _)).bind fun child =>
        (Resting.nameLogger name child).bind fun _ => .pure _
  | setTrace logger source =>
    refine (Resting.find _ logger).bind fun r => ?_
    have hset : ∀ t, Resting (do run (Run.setTrace r t); return Reply.done) := fun t =>
      (Resting.leaving fun _ => rfl).bind fun _ => .pure _
    cases source with
    | some source => exact (Resting.trace source).bind fun t => hset (some t)
    | none => exact hset none
  | log logger level message context error =>
    exact (Resting.find _ logger).bind fun r => (Resting.leaving
      ((LeavesHandlers.logger r).bind fun l => .log l level message context _)).bind
        fun _ => .pure _
  | showCount name =>
    exact (Resting.find _ name).bind fun r => (Resting.leaving fun _ => rfl).bind fun _ => .pure _
  | startRoute name path shorthand methods =>
    exact (Resting.nameBuilder name _).bind fun _ => .pure _
  | addMethod builder method =>
    exact (Resting.find _ builder).bind fun b => (Resting.nameBuilder builder _).bind
      fun _ => .pure _
  | showRoute name => exact (Resting.find _ name).bind fun _ => .pure _
  | showService name methods =>
    exact (Resting.find _ name).bind fun s => (Resting.leaving (.pollService _)).bind
      fun _ => .pure _
  | showPaths name => exact (Resting.find _ name).bind fun _ => .pure _
  | poll name =>
    exact (Resting.find _ name).bind fun c => (Resting.leaving (.poll c)).bind fun _ => .pure _
  | openTransport name kind => exact (Resting.leaving fun _ => rfl).bind fun _ => .pure _
  | writeTransport io text =>
    exact (Resting.leaving fun _ => rfl).bind fun _ =>
      (Resting.leaving (.settleTransport io)).bind fun _ => .pure _
  | endTransport io =>
    exact (Resting.leaving fun _ => rfl).bind fun _ =>
      (Resting.leaving (.settleTransport io)).bind fun _ => .pure _
  | destroyTransport io reason =>
    exact (Resting.leaving (.destroyTransport io reason)).bind fun _ => .pure _
  | sendError io report headers =>
    exact (Resting.leaving (.sendError io report headers)).bind fun _ => .pure _
  | makeHandler | finishRoute | declareRoute | extendRoute | createFactory | activateFactory
  | callService | makeApp | mount | setAppLogger | connect | call => exact h.elim

end Session

end HttpDispatch
