import HttpDispatch.Proofs.Log.Fallback
import HttpDispatch.Proofs.Log.History
import HttpDispatch.Proofs.Session.Growth

/-!
# Trees of loggers

The commands about loggers make loggers and children, move them between traces, and log.  Each of
them does one thing at most to one logger, which can be told from its text and the session before
it (`Session.act?`, `Session.advances_step`), and so a run of such commands has a history
(`Session.history`).  The loggers after the run are as this history tells
(`Session.reflects_after`).

So loggers do not influence each other (`Session.loggers_apart`): a logger puts on its entries what
the last thing said that was done to the logger itself, and delivers each entry once, as the root of
its tree was told to.  The exception is a sink that throws: then the console gets nothing.
-/

namespace HttpDispatch

/-- Whether a command is about loggers, or about the traces that they are put in. -/
def Command.isLogging : Command → Bool
  | setClock _ | makeTraceId | startTrace .. | startSpan .. | makeLogger .. | configureLogger ..
  | nameSharedLogger _ | showLevel _ | makeChild .. | setTrace .. | log .. => true
  | _ => false

/-- What a command says of an error on an entry of a level. -/
def Level.summary? (level : Level) (error : Option Value) : Option ErrorSummary :=
  if level = .error then error.bind Value.summary? else none

namespace Session

variable {α : Type} {s s' : Session} {c : Command}

/-- The position that is meant, if there is one of that name. -/
def meant? (s : Session) : TraceSource → Option Trace
  | .named name => s.traces.get? name
  | .given t => some t

/-- What a command does to a logger, if it does anything to one. -/
def act? (s : Session) : Command → Option LoggerAct
  | .makeLogger _ settings => some (.made s.world.loggers.next settings)
  | .configureLogger _ environ =>
    some (.made s.world.loggers.next (.ofEnviron (environ.getD s.world.environ)))
  | .nameSharedLogger _ =>
    match s.world.shared with
    | some _ => none
    | none => some (.made s.world.loggers.next (.ofEnviron s.world.environ))
  | .makeChild logger _ source => do
    let parent ← s.loggers.get? logger
    let t ← s.meant? source
    return .child s.world.loggers.next parent t
  | .setTrace logger none => do
    let r ← s.loggers.get? logger
    return .moved r none
  | .setTrace logger (some source) => do
    let r ← s.loggers.get? logger
    let t ← s.meant? source
    return .moved r (some t)
  | _ => none

/-- What commands do to loggers, the last of it first. -/
def history (s : Session) : List Command → List LoggerAct
  | [] => []
  | c :: rest => (s.step c).2.history rest ++ (s.act? c).toList

/-- Names and the session itself refer to loggers that are there. -/
structure Housed (s : Session) : Prop where
  named : ∀ name r, s.loggers.get? name = some r → s.world.loggers.Holds r
  shared : ∀ r, s.world.shared = some r → s.world.loggers.Holds r

/-- Between two sessions, this and nothing else was done to a logger. -/
structure Advances (s s' : Session) (act : Option LoggerAct) : Prop where
  fits : ∀ a, act = some a → a.Fits s.world.loggers
  loggers : s'.world.loggers = act.elim s.world.loggers (·.applyTo s.world.loggers)
  housed : s'.Housed

/-- Names and the session refer to what they referred to, or else to loggers that are there. -/
theorem Housed.advances (h : s.Housed) {act : Option LoggerAct}
    (hfits : ∀ a, act = some a → a.Fits s.world.loggers)
    (hloggers : s'.world.loggers = act.elim s.world.loggers (·.applyTo s.world.loggers))
    (hnames : ∀ name r, s'.loggers.get? name = some r →
      s.loggers.get? name = some r ∨ s'.world.loggers.Holds r)
    (hshared : ∀ r, s'.world.shared = some r →
      s.world.shared = some r ∨ s'.world.loggers.Holds r) :
    Advances s s' act := by
  have hold : ∀ r, s.world.loggers.Holds r → s'.world.loggers.Holds r := by
    intro r hr
    rw [hloggers]
    cases act with
    | none => exact hr
    | some a => exact LoggerAct.holds_applyTo a hr
  refine ⟨hfits, hloggers, fun name r hr => ?_, fun r hr => ?_⟩
  · exact (hnames name r hr).elim (fun hr => hold r (h.named name r hr)) id
  · exact (hshared r hr).elim (fun hr => hold r (h.shared r hr)) id

/-- Nothing was done to a logger, and none got a name. -/
theorem Housed.rests (h : s.Housed) (hloggers : s'.world.loggers = s.world.loggers)
    (hnames : s'.loggers = s.loggers) (hshared : s'.world.shared = s.world.shared) :
    Advances s s' none :=
  h.advances nofun hloggers (fun _ _ hr => .inl (hnames ▸ hr)) fun _ hr => .inl (hshared ▸ hr)

/-- A new logger got a name. -/
theorem Housed.advances_new (h : s.Housed) {act : LoggerAct} (name : String)
    (hfits : act.Fits s.world.loggers) (hloggers : s'.world.loggers = act.applyTo s.world.loggers)
    (hnames : s'.loggers = s.loggers.set name act.target)
    (hnew : s'.world.loggers.Holds act.target)
    (hshared : s'.world.shared = s.world.shared ∨ s'.world.shared = some act.target) :
    Advances s s' (some act) := by
  refine h.advances ?_ hloggers ?_ ?_
  · rintro a ⟨⟩
    exact hfits
  · intro other r hr
    rw [hnames] at hr
    rcases Dict.get?_set_eq_some hr with hold | ⟨-, rfl⟩
    · exact .inl hold
    · exact .inr hnew
  · intro r hr
    rcases hshared with hsame | hnow
    · exact .inl (hsame ▸ hr)
    · exact .inr (Option.some.inj (hnow.symm.trans hr) ▸ hnew)

/-! ### What a command does -/

/-- What comes after a logger was found is what is done. -/
theorem Housed.advances_find (h : s.Housed) (name : String) {f : Ref Logger → Step α}
    {act : Ref Logger → Option LoggerAct}
    (hf : ∀ r, s.loggers.get? name = some r → Advances s (exec (f r) s).2 (act r)) :
    Advances s (exec (find Session.loggers name >>= f) s).2
      ((s.loggers.get? name).bind act) := by
  cases hname : s.loggers.get? name with
  | none =>
    rw [exec_bind_error (exec_find_unknown hname)]
    exact h.rests rfl rfl rfl
  | some r =>
    rw [exec_bind_ok (exec_find_eq_ok.2 ⟨hname, rfl⟩)]
    exact hf r hname

/-- What comes after a position was found is what is done. -/
theorem Housed.advances_trace (h : s.Housed) (source : TraceSource) {f : Trace → Step α}
    {act : Trace → Option LoggerAct} (hf : ∀ t, Advances s (exec (f t) s).2 (act t)) :
    Advances s (exec (trace source >>= f) s).2 ((s.meant? source).bind act) := by
  cases source with
  | given t => exact hf t
  | named name =>
    show Advances s _ ((s.traces.get? name).bind act)
    cases hname : s.traces.get? name with
    | none =>
      rw [trace, exec_bind_error (exec_find_unknown hname)]
      exact h.rests rfl rfl rfl
    | some t =>
      rw [trace, exec_bind_ok (exec_find_eq_ok.2 ⟨hname, rfl⟩)]
      exact hf t

theorem advances_nameSharedLogger (h : s.Housed) (name : String) :
    Advances s (exec (perform (.nameSharedLogger name)) s).2 (s.act? (.nameSharedLogger name)) := by
  rw [perform, act?]
  cases hshared : s.world.shared with
  | none =>
    rw [exec_bind_ok (exec_run_eq_ok.2 ⟨_, Run.exec_sharedLogger_of_none hshared, rfl⟩)]
    exact h.advances_new name rfl rfl rfl (Store.holds_push_next _ _) (.inr rfl)
  | some r =>
    rw [exec_bind_ok (exec_run_eq_ok.2 ⟨_, Run.exec_sharedLogger_of_some hshared, rfl⟩)]
    refine h.advances nofun rfl (fun other q hq => ?_) fun q hq => .inl hq
    rcases Dict.get?_set_eq_some hq with hold | ⟨-, rfl⟩
    · exact .inl hold
    · exact .inr (h.shared q hshared)

theorem advances_makeChild (h : s.Housed) (logger name : String) (source : TraceSource) :
    Advances s (exec (perform (.makeChild logger name source)) s).2
      (s.act? (.makeChild logger name source)) := by
  refine h.advances_find logger fun parent _ => h.advances_trace source fun t => ?_
  exact h.advances_new name rfl rfl rfl (Store.holds_push_next _ _) (.inl rfl)

theorem advances_setTrace (h : s.Housed) (logger : String) (source : Option TraceSource) :
    Advances s (exec (perform (.setTrace logger source)) s).2
      (s.act? (.setTrace logger source)) := by
  have hmove : ∀ r t, s.loggers.get? logger = some r →
      Advances s (exec (do run (Run.setTrace r t); return Reply.done) s).2 (some (.moved r t)) := by
    intro r t hr
    refine h.advances ?_ rfl (fun _ _ hq => .inl hq) fun _ hq => .inl hq
    rintro a ⟨⟩
    exact h.named logger r hr
  cases source with
  | none => exact h.advances_find logger fun r hr => hmove r none hr
  | some source =>
    exact h.advances_find logger fun r hr => h.advances_trace source fun t => hmove r (some t) hr

theorem advances_log (h : s.Housed) (logger : String) (level : Level) (message : String)
    (context : Option Json) (error : Option Value) :
    Advances s (exec (perform (.log logger level message context error)) s).2 none := by
  rw [← Option.bind_fun_none (s.loggers.get? logger)]
  refine h.advances_find logger fun r _ => ?_
  rw [exec_bind_snd fun _ _ => rfl, exec_run, Run.exec_bind_ok (Run.exec_logger r s.world),
    ← Level.summary?]
  let l := s.world.loggers.get r
  cases hf : l.fails? (l.entry s.world.clock level message context (level.summary? error)) with
  | some v =>
    rw [Logger.exec_log_of_fails hf]
    exact h.rests rfl rfl rfl
  | none =>
    rw [Logger.exec_log_of_not_fails hf]
    exact h.rests rfl rfl rfl

/-- A command does to loggers what is said of it. -/
theorem advances_perform (h : s.Housed) (hc : c.isLogging = true) :
    Advances s (exec (perform c) s).2 (s.act? c) := by
  cases c with
  | setClock clock => exact h.rests rfl rfl rfl
  | makeTraceId => exact h.rests rfl rfl rfl
  | startTrace traceId name =>
    rw [perform, exec_bind_ok (exec_run_eq_ok.2 ⟨_, Run.exec_startTrace traceId s.world, rfl⟩)]
    cases name <;> exact h.rests rfl rfl rfl
  | startSpan parent name =>
    show Advances s _ none
    rw [← Option.bind_fun_none (s.meant? parent)]
    refine h.advances_trace parent fun t => ?_
    cases name <;> exact h.rests rfl rfl rfl
  | makeLogger name settings =>
    exact h.advances_new name rfl rfl rfl (Store.holds_push_next _ _) (.inl rfl)
  | configureLogger name environ =>
    have hget : exec get s = (.ok s, s) := rfl
    have hmade := Run.exec_configuredLogger (environ.getD s.world.environ) s.world
    rw [perform, exec_bind_ok hget, exec_bind_ok (exec_run_eq_ok.2 ⟨_, hmade, rfl⟩)]
    exact h.advances_new name rfl rfl rfl (Store.holds_push_next _ _) (.inl rfl)
  | nameSharedLogger name => exact advances_nameSharedLogger h name
  | showLevel logger =>
    show Advances s _ none
    rw [← Option.bind_fun_none (s.loggers.get? logger)]
    exact h.advances_find logger fun r _ => h.rests rfl rfl rfl
  | makeChild logger name source => exact advances_makeChild h logger name source
  | setTrace logger source => exact advances_setTrace h logger source
  | log logger level message context error =>
    exact advances_log h logger level message context error
  | _ => nomatch hc

theorem advances_step (h : s.Housed) (hc : c.isLogging = true) :
    Advances s (s.step c).2 (s.act? c) := by
  have hopened : s.opened.Housed := ⟨h.named, h.shared⟩
  have hact : s.opened.act? c = s.act? c := rfl
  obtain ⟨hfits, hloggers, hhoused⟩ := hact ▸ advances_perform hopened hc
  exact ⟨hfits, hloggers, hhoused⟩

/-! ### Runs -/

/-- After any commands about loggers, the loggers are as the history tells. -/
theorem reflects_after {before : List LoggerAct} {cs : List Command} (h : s.Housed)
    (htold : LoggerAct.Reflects s.world.loggers before) (hcs : ∀ c ∈ cs, c.isLogging = true) :
    LoggerAct.Reflects (s.after cs).world.loggers (s.history cs ++ before) := by
  induction cs generalizing s before with
  | nil => exact htold
  | cons c rest ih =>
    have hstep := advances_step h (hcs c List.mem_cons_self)
    have hnext : LoggerAct.Reflects (s.step c).2.world.loggers ((s.act? c).toList ++ before) := by
      rw [hstep.loggers]
      cases hact : s.act? c with
      | none => exact htold
      | some a => exact htold.applyTo (hstep.fits a hact)
    rw [after_cons, history, List.append_assoc]
    exact ih hstep.housed hnext fun d hd => hcs d (List.mem_cons_of_mem c hd)

theorem history_append (s : Session) (cs ds : List Command) :
    s.history (cs ++ ds) = (s.after cs).history ds ++ s.history cs := by
  induction cs generalizing s with
  | nil => exact (List.append_nil _).symm
  | cons c rest ih => rw [List.cons_append, history, ih, after_cons, history, List.append_assoc]

theorem housed_start (clock : Int) (draws : List Nat) (environ : Environ) :
    (start clock draws environ).Housed := ⟨nofun, nofun⟩

end Session

/-- The answer to a log call that makes this entry, of a logger with these settings: the entry goes
once to the sink and once to the console, if there are any, unless its level does not pass.  If the
sink throws on it, it goes nowhere, and the call comes to what the sink throws. -/
structure Answer.Logs (answer : Answer) (settings : Settings) (e : Entry) : Prop where
  dropped : e.level.passes settings.level = false →
    answer.result = .ok .done ∧ answer.timeline = []
  thrown : e.level.passes settings.level = true →
    ∀ v, settings.sink.bind (·.throws? e) = some v →
      answer.result = .error (.raised v) ∧ answer.timeline = []
  delivered : e.level.passes settings.level = true →
    settings.sink.bind (·.throws? e) = none →
      answer.result = .ok .done ∧
        answer.timeline = (settings.sink.map fun k => .logged k.name e).toList ++
          if settings.console then [.printed (e.line settings.json)] else []

namespace Session

variable {s : Session} {name : String} {r : Ref Logger}

/-- The answer to a log command shows what its log call comes to. -/
theorem answer_log (hname : s.loggers.get? name = some r) (level : Level) (message : String)
    (context : Option Json) (error : Option Value) {outcome : Except Value Unit} {w : World}
    (hexec : Run.exec ((s.world.loggers.get r).log level message context (level.summary? error))
      s.opened.world = (outcome, w)) :
    let answer := (s.step (.log name level message context error)).1
    answer.result = (outcome.map fun _ => Reply.done).mapError Stop.raised ∧
      answer.timeline = w.timeline := by
  have hlog : Run.exec (do (← Run.logger r).log level message context (level.summary? error))
      s.opened.world = (outcome, w) :=
    (Run.exec_bind_ok (Run.exec_logger r s.opened.world)).trans hexec
  have hperform : exec (perform (.log name level message context error)) s.opened =
      ((outcome.map fun _ => Reply.done).mapError Stop.raised, s.opened.inWorld w) := by
    have hfound : exec (find Session.loggers name) s.opened = (.ok r, s.opened) :=
      exec_find_eq_ok.2 ⟨hname, rfl⟩
    rw [perform, exec_bind_ok hfound]
    show exec (run (do (← Run.logger r).log level message context (level.summary? error)) >>= _)
      s.opened = _
    rw [exec_bind, exec_run, hlog]
    cases outcome <;> rfl
  exact ⟨congrArg Prod.fst hperform, congrArg (fun after => after.2.world.timeline) hperform⟩

theorem logs_step (hname : s.loggers.get? name = some r) (level : Level) (message : String)
    (context : Option Json) (error : Option Value) :
    let l := s.world.loggers.get r
    (s.step (.log name level message context error)).1.Logs l.settings
      (l.entry s.world.clock level message context (level.summary? error)) := by
  intro l
  let e := l.entry s.world.clock level message context (level.summary? error)
  constructor
  · intro (hpasses : level.passes l.level = false)
    have hnot : ¬ level.passes l.level = true := Bool.eq_false_iff.1 hpasses
    have hfails : l.fails? e = none := if_neg hnot
    have hexec := Logger.exec_log_of_not_fails (w := s.opened.world) hfails
    rw [Logger.emits, if_neg hnot] at hexec
    exact answer_log hname level message context error hexec
  · intro (hpasses : level.passes l.level = true) v (hv : l.throws? e = some v)
    have hexec := Logger.exec_log_of_throws (w := s.opened.world) hpasses hv
    exact answer_log hname level message context error hexec
  · intro (hpasses : level.passes l.level = true) (hreceives : l.throws? e = none)
    have hexec := Logger.exec_log (w := s.opened.world) hreceives
    rw [Logger.emits, if_pos hpasses] at hexec
    exact answer_log hname level message context error hexec

end Session

end HttpDispatch
