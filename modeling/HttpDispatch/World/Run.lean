import HttpDispatch.World

/-!
# Programs

A program is a `Run`: it changes the world and may end by throwing a value; what it did before it
threw stays done.  `exec` is the meaning of a program, a function from a world to an outcome and
a world; the lemmas about it say what the elementary steps do, and how programs are put together.
-/

namespace HttpDispatch

/-- The error as a value that can be thrown. -/
def FileError.toValue (e : FileError) : Value := .error e.ownName? e.message none

/-- A program: it changes the world and may end by throwing. -/
abbrev Run (α : Type) := ExceptT Value (StateM World) α

namespace Run

variable {α β : Type}

/-- What a program comes to in a world: its answer or what it throws, and the world after it. -/
def exec (program : Run α) (w : World) : Except Value α × World :=
  Id.run (StateT.run (ExceptT.run program) w)

/-- Ends by throwing a value. -/
def raise (v : Value) : Run α := throw v

/-- Runs a program and hands over what it throws. -/
def attempt (program : Run α) : Run (Except Value α) :=
  ExceptT.mk (program.run.map Except.ok)

@[simp] theorem exec_pure (a : α) (w : World) : exec (pure a) w = (.ok a, w) := rfl

/-- A program that goes on after another one: unless that one throws, with its answer and in the
world that it leaves. -/
theorem exec_bind (program : Run α) (f : α → Run β) (w : World) :
    exec (program >>= f) w =
      match exec program w with
      | (.ok a, w') => exec (f a) w'
      | (.error v, w') => (.error v, w') := by
  show Id.run (StateT.run (ExceptT.run (ExceptT.bind program f)) w) = _
  simp only [ExceptT.run, ExceptT.bind, ExceptT.mk, ExceptT.bindCont, StateT.run_bind, exec]
  generalize StateT.run program w = outcome
  match outcome with
  | (.ok a, w') => rfl
  | (.error v, w') => rfl

/-- A program that goes on after one that answers. -/
theorem exec_bind_ok {program : Run α} {f : α → Run β} {w w' : World} {a : α}
    (h : exec program w = (.ok a, w')) : exec (program >>= f) w = exec (f a) w' := by
  rw [exec_bind, h]

/-- A program that would go on after one that throws. -/
theorem exec_bind_error {program : Run α} {f : α → Run β} {w w' : World} {v : Value}
    (h : exec program w = (.error v, w')) : exec (program >>= f) w = (.error v, w') := by
  rw [exec_bind, h]

/-- What a program answers makes no difference to what it leaves. -/
theorem exec_bind_pure_snd (program : Run α) (b : β) (w : World) :
    (exec (program >>= fun _ => pure b) w).2 = (exec program w).2 := by
  rw [exec_bind]
  obtain ⟨result, w'⟩ := exec program w
  cases result <;> rfl

@[simp] theorem exec_get (w : World) : exec get w = (.ok w, w) := rfl

@[simp] theorem exec_set (w w' : World) : exec (set w') w = (.ok (), w') := rfl

@[simp] theorem exec_modify (f : World → World) (w : World) :
    exec (modify f) w = (.ok (), f w) := rfl

@[simp] theorem exec_raise (v : Value) (w : World) :
    exec (raise v : Run α) w = (.error v, w) := rfl

@[simp] theorem exec_ofExcept (x : Except Value α) (w : World) :
    exec (ofExcept x) w = (x, w) := by
  cases x <;> rfl

/-- A program whose failure is handed over never throws. -/
theorem exec_attempt (program : Run α) (w : World) :
    exec (attempt program) w = (.ok (exec program w).1, (exec program w).2) := rfl

/-- Adds to the timeline. -/
def observe (o : Observation) : Run Unit :=
  modify fun w => { w with timeline := w.timeline ++ [o] }

@[simp] theorem exec_observe (o : Observation) (w : World) :
    exec (observe o) w = (.ok (), { w with timeline := w.timeline ++ [o] }) := rfl

/-- Adds an event to the timeline. -/
def emit (e : Event) : Run Unit := observe (.event e)

/-- The time. -/
def now : Run Int := do return (← get).clock

@[simp] theorem exec_now (w : World) : exec now w = (.ok w.clock, w) := rfl

/-- Draws a random number. -/
def draw : Run Nat := do
  let w ← get
  set { w with drawn := w.drawn + 1 }
  return w.nextDraw

@[simp] theorem exec_draw (w : World) :
    exec draw w = (.ok w.nextDraw, { w with drawn := w.drawn + 1 }) := rfl

/-- Makes an id from the clock and a draw. -/
def freshId : Run String := do
  let n ← draw
  return Trace.makeId (← now) n

/-- A trace for an id, or for a new one where there is none or it is empty. -/
def startTrace (traceId : Option String) : Run Trace := do
  match traceId with
  | some id => if id = "" then return .root (← freshId) (← now) else return .root id (← now)
  | none => return .root (← freshId) (← now)

/-- A new span below a position in a trace. -/
def startSpan (parent : Trace) : Run Trace := do
  let id ← freshId
  return parent.span id (← now)

/-! ### Shared objects -/

/-- A logger as it stands. -/
def logger (r : Ref Logger) : Run Logger := do return (← get).loggers.get r

/-- Makes a logger an object that can be shared. -/
def addLogger (l : Logger) : Run (Ref Logger) := do
  let w ← get
  set { w with loggers := w.loggers.push l }
  return w.loggers.next

@[simp] theorem exec_logger (r : Ref Logger) (w : World) :
    exec (logger r) w = (.ok (w.loggers.get r), w) := rfl

theorem exec_addLogger (l : Logger) (w : World) :
    exec (addLogger l) w = (.ok w.loggers.next, { w with loggers := w.loggers.push l }) := rfl

/-- Moves a logger to a trace, or out of any. -/
def setTrace (r : Ref Logger) (t : Option Trace) : Run Unit :=
  modify fun w => { w with loggers := w.loggers.modify r (·.withTrace t) }

/-- A handler as it stands. -/
def handler (r : Ref Handler) : Run Handler := do return (← get).handlers.get r

/-- Makes a handler an object that can be shared. -/
def addHandler (h : Handler) : Run (Ref Handler) := do
  let w ← get
  set { w with handlers := w.handlers.push h }
  return w.handlers.next

/-- Changes a handler. -/
def modifyHandler (r : Ref Handler) (f : Handler → Handler) : Run Unit :=
  modify fun w => { w with handlers := w.handlers.modify r f }

/-- Makes a state that can be shared. -/
def addState (s : AppState) : Run (Ref AppState) := do
  let w ← get
  set { w with states := w.states.push s }
  return w.states.next

/-- Changes a state, or throws the error of a change that fails. -/
def changeState (r : Ref AppState) (change : AppState → Except BumpError AppState) :
    Run Unit := do
  match change ((← get).states.get r) with
  | .ok s => modify fun w => { w with states := w.states.modify r fun _ => s }
  | .error e => raise e.toValue

/-- A request together with its state as it stands. -/
def see (r : Request) : Run SeenRequest := do
  return ⟨r, ((← get).states.get r.state).value⟩

/-! ### Files -/

/-- Changes the files, and throws the error of a change that fails. -/
def changeFiles {β : Type} (change : FileTree → FileTree × Except FileError β) : Run Unit := do
  let (files, result) := change (← get).files
  modify fun w => { w with files }
  match result with
  | .ok _ => pure ()
  | .error e => raise e.toValue

/-! ### Transports -/

/-- Puts a transport under a name. -/
def setTransport (io : String) (t : Transport) : Run Unit :=
  modify fun w => { w with transports := w.transports.set io t }

/-- Does something to a transport. -/
def onTransport (io : String) (f : Transport → Transport) : Run Unit := do
  setTransport io (f ((← get).transport io))

/-- Lets a transport settle; answers the message of its failure, if there is one. -/
def settleTransport (io : String) : Run (Option String) := do
  let t := (← get).transport io
  setTransport io t.settle
  match t.failure with
  | some message =>
    emit (.failed io (.error none message none))
    return some message
  | none => return none

/-- Destroys a transport for a reason.  The reason is seen, unless it counts for nothing or the
transport was destroyed before. -/
def destroyTransport (io : String) (reason : Value) : Run Unit := do
  let t := (← get).transport io
  setTransport io t.destroy
  if t.destroyed || reason.isVoid then pure () else emit (.failed io reason)

end Run

end HttpDispatch
