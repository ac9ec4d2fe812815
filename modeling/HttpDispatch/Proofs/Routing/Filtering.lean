import HttpDispatch.Proofs.Routing.Quiet
import HttpDispatch.Proofs.Routing.Reuse

/-!
# What the settings of a logger change

Two programs differ in the settings of a logger that never throws: its threshold, its console and
its sink.  A call makes entries that are decided by all but the settings (`Connection.entries`), and
the threshold only picks some of them (`Connection.entries_eq_filter`).

A host connects an application and takes requests on its connections, while time passes.  One step
of two hosts in two such programs leaves them in step (`Host.InStep.next`), and so do any number of
steps.

Main statement: `Host.serve_filters`.
-/

namespace HttpDispatch

open Run

/-! ### The entries of a call -/

namespace Logger

/-- The logger in its trace, with a threshold that lets every entry pass. -/
def unfiltered (l : Logger) : Logger := ⟨⟨.debug, false, false, none⟩, l.trace⟩

theorem made_eq_filter (l : Logger) (clock : Int) (level : Level) (message : String)
    (context : Option Json) (error : Option ErrorSummary) :
    l.made clock level message context error =
      (l.unfiltered.made clock level message context error).filter (·.level.passes l.level) := by
  have hdebug : level.passes l.unfiltered.level = true := level.passes_debug
  have hentry : l.unfiltered.entry clock level message context error =
      l.entry clock level message context error := rfl
  have hlevel : (l.entry clock level message context error).level = level := rfl
  rw [made, made, if_pos hdebug, hentry, List.filter_singleton, hlevel]
  cases level.passes l.level <;> rfl

end Logger

theorem RouteService.failureEntries_eq_filter (l : Logger) (clock : Int) (req : Request)
    (result : Except Value Value) :
    failureEntries l clock req result =
      (failureEntries l.unfiltered clock req result).filter (·.level.passes l.level) := by
  cases result with
  | ok v => rfl
  | error v =>
    have hentry : failureEntry l.unfiltered clock req v = failureEntry l clock req v := rfl
    have hlevel : (failureEntry l clock req v).level = .error := rfl
    rw [failureEntries, failureEntries, hentry, List.filter_singleton, hlevel, Level.passes_error]
    rfl

namespace Connection

/-- A connection of route services that all have its logger. -/
def OneLogger (c : Connection) : Prop :=
  ∀ m ∈ c.routes, ∃ s, m.service = .route s ∧ s.logger = c.logger

theorem OneLogger.onlyRoutes {c : Connection} (h : c.OneLogger) : c.OnlyRoutes :=
  fun m hm => (h m hm).imp fun _ hs => hs.1

/-- The entries that a logger makes during a call: it announces what a route takes, and tells of the
failure of the handler, or it warns of what no route takes, and of a response that was not sent. -/
def entries (c : Connection) (init : HeadInit) (headers : Headers) (io : String) (l : Logger)
    (w : World) : List Entry :=
  let given := headers.get? RequestHead.traceHeader
  let trace := w.traceFor given
  match c.routes.find? (·.takes init.path init.verb) with
  | some ⟨pattern, .route s⟩ =>
    let drawn := w.drawing (World.drawsFor given)
    let span := trace.span (Trace.makeId drawn.clock drawn.nextDraw) drawn.clock
    let req := c.requestFor init headers io w ⟨pattern, .route s⟩
    ((l.child trace).child span).made w.clock .debug (init.verb ++ " " ++ init.path)
        (some (.obj [("pattern", .str pattern.source)])) none ++
      RouteService.failureEntries l w.clock req
        ((w.drawing (World.drawsFor given + 1)).outcomeOf s.handler req).settle
  | _ =>
    let refusal := c.refusal init.path init.verb (w.traceIdFor given)
    refusalEntries (l.child trace) w.clock init.path init.verb refusal.1
      (Response.unsent? (w.transport io) refusal.1 (Response.text refusal.1 refusal.2 w.clock))

section Entries

variable (c : Connection) (init : HeadInit) (headers : Headers) (io : String) (l : Logger)
  (w : World)

theorem refusalEntries_eq_filter (clock : Int) (path method : String) (r : Report)
    (unsent : Option Fault) :
    refusalEntries l clock path method r unsent =
      (refusalEntries l.unfiltered clock path method r unsent).filter (·.level.passes l.level) := by
  cases unsent with
  | none => simp only [refusalEntries, List.append_nil, ← Logger.made_eq_filter]
  | some f => simp only [refusalEntries, List.filter_append, ← Logger.made_eq_filter]

/-- The threshold of a logger picks some of the entries, and the other settings do nothing. -/
theorem entries_eq_filter :
    c.entries init headers io l w =
      (c.entries init headers io l.unfiltered w).filter (·.level.passes l.level) := by
  have hchild : ∀ t, (l.child t).unfiltered = l.unfiltered.child t := fun _ => rfl
  simp only [entries]
  split
  · rw [List.filter_append, ← RouteService.failureEntries_eq_filter, Logger.made_eq_filter]
    rfl
  · rw [refusalEntries_eq_filter, hchild]
    rfl

/-- What entries are made is decided by nothing that is in the log. -/
theorem entries_muted : c.entries init headers io l w.muted = c.entries init headers io l w := rfl

end Entries

variable {c : Connection} {init : HeadInit} {headers : Headers} {w : World}

/-- What a call shows. -/
theorem logs_exec_call (hc : c.OneLogger) (hh : Headers.ofInit? init.headers = some headers)
    (hl : (w.loggers.get c.logger).NeverThrows) (io : String) :
    w.Logs (exec (c.call init io) w).2 (w.loggers.get c.logger)
      (c.entries init headers io (w.loggers.get c.logger) w) := by
  cases hfind : c.routes.find? (·.takes init.path init.verb) with
  | some m =>
    obtain ⟨pattern, service⟩ := m
    obtain ⟨s, rfl, hlogger⟩ := hc _ (List.mem_of_find?_eq_some hfind)
    let req := c.requestFor init headers io w ⟨pattern, .route s⟩
    let announced := c.announcing init headers w ⟨pattern, .route s⟩
    have hlog : announced.loggers.get s.logger = w.loggers.get c.logger := by
      rw [hlogger]
      rfl
    have hserve := s.shows_exec_call req announced (hlog ▸ hl)
    rw [hlog] at hserve
    rw [exec_call_taken hh hfind (hl _), Service.exec_call_route, entries, hfind]
    exact ((c.shows_announcing init headers w _).trans hserve).logs
  | none =>
    rw [exec_call_refusing hh hfind hl, entries, hfind]
    exact (shows_refusing _ io _ _ _ _).logs

theorem loggers_exec_call (hl : (w.loggers.get c.logger).NeverThrows) (init : HeadInit)
    (io : String) : (exec (c.call init io) w).2.loggers = w.loggers := by
  cases hh : Headers.ofInit? init.headers with
  | none => rw [exec_call_of_invalid hh]
  | some headers =>
    have hadmits : w.Admits (.call c init) := ⟨Option.isSome_iff_exists.2 ⟨headers, hh⟩, hl⟩
    exact (World.ages_next io hadmits).loggers

/-- In two worlds that differ in the log, and where no sink throws, a call comes to the same but for
the log. -/
theorem exec_call_congr (hc : c.OneLogger) (init : HeadInit) (io : String) {w' : World}
    (hmuted : w'.muted = w.muted) (hl : (w.loggers.get c.logger).NeverThrows)
    (hl' : (w'.loggers.get c.logger).NeverThrows) :
    (exec (c.call init io) w').1 = (exec (c.call init io) w).1 ∧
      (exec (c.call init io) w').2.muted = (exec (c.call init io) w).2.muted := by
  cases hh : Headers.ofInit? init.headers with
  | none =>
    rw [exec_call_of_invalid hh, exec_call_of_invalid hh]
    exact ⟨rfl, hmuted⟩
  | some headers =>
    obtain ⟨hanswer, hdeed⟩ := exec_call_muted_of_neverThrows hc.onlyRoutes hh io hl
    obtain ⟨hanswer', hdeed'⟩ := exec_call_muted_of_neverThrows hc.onlyRoutes hh io hl'
    exact ⟨hanswer'.trans hanswer.symm, by rw [hdeed', hdeed, hmuted]⟩

/-- In two such worlds, and with loggers in one trace, a call makes the same entries but for those
that do not pass. -/
theorem exists_entries_of_call (hc : c.OneLogger) (init : HeadInit) (io : String) {w' : World}
    (hmuted : w'.muted = w.muted)
    (htrace : (w'.loggers.get c.logger).trace = (w.loggers.get c.logger).trace)
    (hl : (w.loggers.get c.logger).NeverThrows) (hl' : (w'.loggers.get c.logger).NeverThrows) :
    ∃ entries : List Entry,
      w.Logs (exec (c.call init io) w).2 (w.loggers.get c.logger)
        (entries.filter (·.level.passes (w.loggers.get c.logger).level)) ∧
      w'.Logs (exec (c.call init io) w').2 (w'.loggers.get c.logger)
        (entries.filter (·.level.passes (w'.loggers.get c.logger).level)) := by
  cases hh : Headers.ofInit? init.headers with
  | none =>
    rw [exec_call_of_invalid hh, exec_call_of_invalid hh]
    exact ⟨[], .of_timeline rfl, .of_timeline rfl⟩
  | some headers =>
    have hunfiltered : (w'.loggers.get c.logger).unfiltered = (w.loggers.get c.logger).unfiltered :=
      congrArg (Logger.mk _) htrace
    have hlogs := logs_exec_call hc hh hl io
    have hlogs' := logs_exec_call hc hh hl' io
    rw [entries_eq_filter] at hlogs hlogs'
    rw [hunfiltered, ← entries_muted, hmuted, entries_muted] at hlogs'
    exact ⟨_, hlogs, hlogs'⟩

end Connection

/-! ### Two hosts in step -/

/-- A host: the connections of an application in a world, and what calls have come to so far. -/
structure Host where
  world : World
  connections : List Connection
  answers : List (Except Value Value)

/-- What happens to a host: it is another time, the application is connected once more, or a request
arrives on one of the connections. -/
inductive Arrival
  | wait (clock : Int)
  | connect
  | call (connection : Nat) (init : HeadInit) (io : String)

namespace Host

/-- A host without a connection. -/
def opening (w : World) : Host := ⟨w, [], []⟩

/-- The host after something has happened. -/
def next (app : App) (logger : Option (Ref Logger)) (h : Host) : Arrival → Host
  | .wait clock => { h with world := { h.world with clock } }
  | .connect =>
    match exec (app.connect logger) h.world with
    | (.ok c, w) => { h with world := w, connections := h.connections ++ [c] }
    | (.error v, w) => { h with world := w, answers := h.answers ++ [.error v] }
  | .call connection init io =>
    match h.connections[connection]? with
    | some c =>
      let (answer, w) := exec (c.call init io) h.world
      { h with world := w, answers := h.answers ++ [answer] }
    | none => h

theorem next_call_of_none {app : App} {logger : Option (Ref Logger)} {h : Host} {connection : Nat}
    (hc : h.connections[connection]? = none) {init : HeadInit} {io : String} :
    h.next app logger (.call connection init io) = h := by
  simp only [next, hc]

theorem next_call_of_some {app : App} {logger : Option (Ref Logger)} {h : Host} {connection : Nat}
    {c : Connection} (hc : h.connections[connection]? = some c) {init : HeadInit} {io : String} :
    h.next app logger (.call connection init io) =
      { h with
        world := (exec (c.call init io) h.world).2
        answers := h.answers ++ [(exec (c.call init io) h.world).1] } := by
  simp only [next, hc]

/-- The host after one thing after another has happened. -/
def serve (app : App) (logger : Option (Ref Logger)) (h : Host) (arrivals : List Arrival) : Host :=
  arrivals.foldl (next app logger) h

/-- Two hosts that began in two worlds have come to the same but for the log, where each has entries
that only differ by the threshold of its logger. -/
structure InStep (r : Ref Logger) (w w' : World) (h h' : Host) : Prop where
  connections : h'.connections = h.connections
  answers : h'.answers = h.answers
  muted : h'.world.muted = h.world.muted
  oneLogger : ∀ c ∈ h.connections, c.OneLogger ∧ c.logger = r
  loggers : h.world.loggers = w.loggers
  loggers' : h'.world.loggers = w'.loggers
  entries : ∃ entries : List Entry,
    w.Logs h.world (w.loggers.get r) (entries.filter (·.level.passes (w.loggers.get r).level)) ∧
    w'.Logs h'.world (w'.loggers.get r)
      (entries.filter (·.level.passes (w'.loggers.get r).level))

namespace InStep

variable {r : Ref Logger} {w w' : World} {h h' : Host}

theorem opening (hmuted : w'.muted = w.muted) : InStep r w w' (.opening w) (.opening w') :=
  ⟨rfl, rfl, hmuted, fun _ hc => absurd hc List.not_mem_nil, rfl, rfl, [], .of_timeline rfl,
    .of_timeline rfl⟩

/-- What is logged next comes behind what was logged before. -/
theorem logs_next (hstep : InStep r w w' h h') (more : List Entry) {u u' : World}
    (hmore : h.world.Logs u (w.loggers.get r)
      (more.filter (·.level.passes (w.loggers.get r).level)))
    (hmore' : h'.world.Logs u' (w'.loggers.get r)
      (more.filter (·.level.passes (w'.loggers.get r).level))) :
    ∃ entries : List Entry,
      w.Logs u (w.loggers.get r) (entries.filter (·.level.passes (w.loggers.get r).level)) ∧
      w'.Logs u' (w'.loggers.get r)
        (entries.filter (·.level.passes (w'.loggers.get r).level)) := by
  obtain ⟨entries, hlogs, hlogs'⟩ := hstep.entries
  refine ⟨entries ++ more, ?_, ?_⟩
  · rw [List.filter_append]
    exact hlogs.trans hmore
  · rw [List.filter_append]
    exact hlogs'.trans hmore'

theorem wait (hstep : InStep r w w' h h') (app : App) (logger : Option (Ref Logger)) (clock : Int) :
    InStep r w w' (h.next app logger (.wait clock)) (h'.next app logger (.wait clock)) where
  connections := hstep.connections
  answers := hstep.answers
  muted := congrArg (fun u : World => { u with clock }) hstep.muted
  oneLogger := hstep.oneLogger
  loggers := hstep.loggers
  loggers' := hstep.loggers'
  entries := hstep.logs_next [] (.of_timeline rfl) (.of_timeline rfl)

theorem connect {app : App} (happ : app.OnlyHandlers) {logger : Option (Ref Logger)}
    (hstep : InStep (logger.getD app.logger) w w' h h') :
    InStep (logger.getD app.logger) w w' (h.next app logger .connect)
      (h'.next app logger .connect) := by
  have hquiet := Quiet.connect app logger
  obtain ⟨hanswer, hmuted⟩ := hquiet.congr hstep.muted
  have hloggers := hquiet.loggers h.world
  have hloggers' := hquiet.loggers h'.world
  have hlogs := hstep.logs_next [] (hquiet.logs h.world _) (hquiet.logs h'.world _)
  simp only [next]
  generalize hw : exec (app.connect logger) h.world = outcome at *
  generalize exec (app.connect logger) h'.world = outcome' at *
  obtain ⟨_, u⟩ := outcome
  obtain ⟨result, u'⟩ := outcome'
  obtain rfl := hanswer
  cases result with
  | ok c =>
    refine ⟨congrArg (· ++ [c]) hstep.connections, hstep.answers, hmuted, fun c' hc' => ?_,
      hloggers.trans hstep.loggers, hloggers'.trans hstep.loggers', hlogs⟩
    rcases List.mem_append.1 hc' with hc' | hc'
    · exact hstep.oneLogger c' hc'
    · obtain rfl := List.mem_singleton.1 hc'
      obtain ⟨_, _, -, -, rfl⟩ := App.connect_eq_ok.1 hw
      exact ⟨fun m hm => happ.exists_route hw hm, rfl⟩
  | error v =>
    exact ⟨hstep.connections, congrArg (· ++ [.error v]) hstep.answers, hmuted, hstep.oneLogger,
      hloggers.trans hstep.loggers, hloggers'.trans hstep.loggers', hlogs⟩

theorem call (hstep : InStep r w w' h h')
    (htrace : (w'.loggers.get r).trace = (w.loggers.get r).trace)
    (hl : (w.loggers.get r).NeverThrows) (hl' : (w'.loggers.get r).NeverThrows) (app : App)
    (logger : Option (Ref Logger)) (connection : Nat) (init : HeadInit) (io : String) :
    InStep r w w' (h.next app logger (.call connection init io))
      (h'.next app logger (.call connection init io)) := by
  have hsame : h'.connections[connection]? = h.connections[connection]? :=
    congrArg (·[connection]?) hstep.connections
  cases hc : h.connections[connection]? with
  | none =>
    rw [next_call_of_none hc, next_call_of_none (hsame.trans hc)]
    exact hstep
  | some c =>
    rw [next_call_of_some hc, next_call_of_some (hsame.trans hc)]
    obtain ⟨hone, rfl⟩ := hstep.oneLogger c (List.mem_of_getElem? hc)
    rw [← hstep.loggers, ← hstep.loggers'] at htrace
    rw [← hstep.loggers] at hl
    rw [← hstep.loggers'] at hl'
    obtain ⟨hanswer, hmuted⟩ := Connection.exec_call_congr hone init io hstep.muted hl hl'
    obtain ⟨more, hmore, hmore'⟩ :=
      Connection.exists_entries_of_call hone init io hstep.muted htrace hl hl'
    rw [hstep.loggers] at hmore
    rw [hstep.loggers'] at hmore'
    exact {
      connections := hstep.connections
      answers := congrArg₂ (· ++ [·]) hstep.answers hanswer
      muted := hmuted
      oneLogger := hstep.oneLogger
      loggers := (Connection.loggers_exec_call hl init io).trans hstep.loggers
      loggers' := (Connection.loggers_exec_call hl' init io).trans hstep.loggers'
      entries := hstep.logs_next more hmore hmore' }

/-- One step of two hosts that are in step leaves them in step. -/
theorem next {app : App} (happ : app.OnlyHandlers) {logger : Option (Ref Logger)}
    (hstep : InStep (logger.getD app.logger) w w' h h')
    (htrace : (w'.loggers.get (logger.getD app.logger)).trace =
      (w.loggers.get (logger.getD app.logger)).trace)
    (hl : (w.loggers.get (logger.getD app.logger)).NeverThrows)
    (hl' : (w'.loggers.get (logger.getD app.logger)).NeverThrows) (arrival : Arrival) :
    InStep (logger.getD app.logger) w w' (h.next app logger arrival)
      (h'.next app logger arrival) := by
  cases arrival with
  | wait clock => exact hstep.wait app logger clock
  | connect => exact hstep.connect happ
  | call connection init io => exact hstep.call htrace hl hl' app logger connection init io

theorem serve {app : App} (happ : app.OnlyHandlers) {logger : Option (Ref Logger)}
    (hstep : InStep (logger.getD app.logger) w w' h h')
    (htrace : (w'.loggers.get (logger.getD app.logger)).trace =
      (w.loggers.get (logger.getD app.logger)).trace)
    (hl : (w.loggers.get (logger.getD app.logger)).NeverThrows)
    (hl' : (w'.loggers.get (logger.getD app.logger)).NeverThrows) (arrivals : List Arrival) :
    InStep (logger.getD app.logger) w w' (h.serve app logger arrivals)
      (h'.serve app logger arrivals) := by
  induction arrivals generalizing h h' with
  | nil => exact hstep
  | cons arrival rest ih => exact ih (hstep.next happ htrace hl hl' arrival)

end InStep

/-- **Logging is invisible to routing, and the threshold is a pure filter.**  Two programs differ in
nothing but the log: in what the loggers are and in the lines that were written.  An application of
handlers gets the same requests in both, on any number of connections and at the same times, with a
logger that lets everything pass in the first and with any one in the same trace in the second,
where no sink throws.  Then the connections and the answers are the same, and so is all that happens
but for the log: the handlers that are run, the requests that they get, what is written to each
transport and whether it is closed.  The lines of the second program are what its logger shows of
the entries of the first whose priority is at least that of its threshold, in order; if it has a
sink, the sink receives these and no others. -/
theorem serve_filters {app : App} (happ : app.OnlyHandlers) (logger : Option (Ref Logger))
    {w w' : World} (hmuted : w'.muted = w.muted)
    (htrace : (w'.loggers.get (logger.getD app.logger)).trace =
      (w.loggers.get (logger.getD app.logger)).trace)
    (hlevel : (w.loggers.get (logger.getD app.logger)).level = .debug)
    (hl : (w.loggers.get (logger.getD app.logger)).NeverThrows)
    (hl' : (w'.loggers.get (logger.getD app.logger)).NeverThrows) (arrivals : List Arrival) :
    let l := w.loggers.get (logger.getD app.logger)
    let l' := w'.loggers.get (logger.getD app.logger)
    let h := (opening w).serve app logger arrivals
    let h' := (opening w').serve app logger arrivals
    h'.connections = h.connections ∧ h'.answers = h.answers ∧ h'.world.muted = h.world.muted ∧
      (∀ io, h'.world.transport io = h.world.transport io) ∧
      ∃ (seen seen' : List Observation) (entries : List Entry),
        h.world.timeline = w.timeline ++ seen ∧ h'.world.timeline = w'.timeline ++ seen' ∧
        Observation.events seen' = Observation.events seen ∧
        Observation.lines seen = entries.flatMap l.shows ∧
        Observation.lines seen' =
          (entries.filter fun e => l'.level.priority ≤ e.level.priority).flatMap l'.shows ∧
        (∀ s, l.settings.sink = some s → Observation.received s.name seen = entries) ∧
        ∀ s, l'.settings.sink = some s → Observation.received s.name seen' =
          entries.filter fun e => l'.level.priority ≤ e.level.priority := by
  intro l l' h h'
  have hstep := (InStep.opening hmuted).serve happ htrace hl hl' arrivals
  obtain ⟨entries, ⟨seen, ht, hlines⟩, ⟨seen', ht', hlines'⟩⟩ := hstep.entries
  have hall : entries.filter (·.level.passes l.level) = entries := by
    rw [List.filter_eq_self]
    intro e _
    rw [hlevel, Level.passes_debug]
  rw [hall] at hlines
  refine ⟨hstep.connections, hstep.answers, hstep.muted, fun io => ?_, seen, seen', entries, ht,
    ht', World.events_eq hmuted hstep.muted ht ht', hlines, hlines',
    fun s hs => Observation.received_of_lines hlines hs,
    fun s hs => Observation.received_of_lines hlines' hs⟩
  exact congrArg (·.transport io) hstep.muted

/-- A world in which a handler always throws, with a logger that lets everything pass. -/
def loudBoomWorld : World :=
  { Connection.boomWorld with
    loggers := ⟨[.ofSettings ⟨.debug, true, false, some (.capture "all")⟩]⟩ }

/-- With a quieter logger a failing handler is run on the same request. -/
theorem serve_filters_boom :
    Connection.boomWorld.muted = loudBoomWorld.muted ∧
      (loudBoomWorld.loggers.get ⟨0⟩).NeverThrows ∧
      (Connection.boomWorld.loggers.get ⟨0⟩).NeverThrows ∧
      let arrivals : List Arrival :=
        [.connect, .wait 1, .call 0 ⟨"GET", "/boom", none, .list []⟩ "c"]
      ((opening Connection.boomWorld).serve Connection.alwaysBoom none arrivals).world.muted =
        ((opening loudBoomWorld).serve Connection.alwaysBoom none arrivals).world.muted := by
  have happ : Connection.alwaysBoom.OnlyHandlers := fun m hm => List.mem_singleton.1 hm ▸ ⟨_, rfl⟩
  have hl : (loudBoomWorld.loggers.get ⟨0⟩).NeverThrows := fun _ => rfl
  have hl' : (Connection.boomWorld.loggers.get ⟨0⟩).NeverThrows := fun _ => rfl
  refine ⟨rfl, hl, hl', ?_⟩
  intro arrivals
  exact (serve_filters happ none rfl rfl rfl hl hl' arrivals).2.2.1

end Host

end HttpDispatch
