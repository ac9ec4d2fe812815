import HttpDispatch.Proofs.Routing.Allowed
import HttpDispatch.Proofs.Routing.Refusal

/-!
# What a sink that throws disturbs

A connection of route services tells its logger about a request at most three times: it announces
what a route takes or warns of what no route takes, the service reports the failure of its handler,
and one more warning says that a response was not sent.  What the sink throws on the report is
caught (`RouteService.exec_report`).  What it throws on the first line is not, and since nothing
has been done by then, the request is lost.  Nor is what it throws on the other warning, by which
the transport has had all that it will get.

To compare two runs that differ in what a sink throws, the log is left out of the world (`muted`).
A call whose warnings and announcement get through does the same on what is left, whatever the sink
throws on the report (`exec_call_muted`), so it comes to the same as with a sink that throws
nothing.

Main statement: `exec_call_undisturbed_iff`.
-/

namespace HttpDispatch

/-- The logger with a sink that throws nothing. -/
def Logger.reliable (l : Logger) : Logger :=
  { l with settings := { l.settings with
      sink := l.settings.sink.map fun s => .capture s.name } }

theorem Logger.neverThrows_reliable (l : Logger) : l.reliable.NeverThrows := by
  intro e
  rw [throws?, reliable]
  cases l.settings.sink with
  | none => rfl
  | some s => rfl

namespace World

/-- The world in which a logger has a sink that throws nothing. -/
def relying (w : World) (r : Ref Logger) : World :=
  { w with loggers := w.loggers.modify r Logger.reliable }

theorem get_loggers_relying (w : World) (r : Ref Logger) :
    (w.relying r).loggers.get r = (w.loggers.get r).reliable :=
  Store.get_modify_of_default rfl _ _

/-! ### The world without its log -/

/-- The world without loggers and lines. -/
def muted (w : World) : World :=
  { w with
    loggers := .empty
    timeline := w.timeline.filter (!·.isLine) }

@[simp] theorem muted_relying (w : World) (r : Ref Logger) : (w.relying r).muted = w.muted := rfl

@[simp] theorem muted_drawing (w : World) (draws : Nat) :
    (w.drawing draws).muted = w.muted.drawing draws := rfl

theorem muted_observing (w : World) (seen : List Observation) :
    (w.observing seen).muted = w.muted.observing (seen.filter (!·.isLine)) := by
  simp only [muted, observing, List.filter_append]

theorem muted_observing_lines {seen : List Observation} (h : ∀ o ∈ seen, o.isLine = true)
    (w : World) : (w.observing seen).muted = w.muted := by
  have hnone : seen.filter (!·.isLine) = [] := by
    rw [List.filter_eq_nil_iff]
    intro o ho
    rw [h o ho]
    decide
  rw [muted_observing, hnone, observing_nil]

theorem muted_observing_events {seen : List Observation} (h : ∀ o ∈ seen, o.isLine = false)
    (w : World) : (w.observing seen).muted = w.muted.observing seen := by
  have hall : seen.filter (!·.isLine) = seen := by
    rw [List.filter_eq_self]
    intro o ho
    rw [h o ho]
    rfl
  rw [muted_observing, hall]

theorem muted_afterHandling (w : World) (r : Ref Handler) (req : Request) :
    (w.afterHandling r req).muted = w.muted.afterHandling r req := by
  rw [afterHandling, muted_observing_events fun o ho => isLine_of_mem_seenHandling ho]
  rfl

theorem muted_afterSending (w : World) (io text : String) :
    (w.afterSending io text).muted = w.muted.afterSending io text := by
  have hfailures : ∀ failure, ∀ o ∈ Run.failures io failure, o.isLine = false := by
    intro failure o ho
    cases failure with
    | none => nomatch ho
    | some message => exact List.mem_singleton.1 ho ▸ rfl
  cases hclosed : (w.transport io).closed with
  | true =>
    have hmuted : (w.muted.transport io).closed = true := hclosed
    rw [afterSending_of_closed hclosed, afterSending_of_closed hmuted]
  | false =>
    have hmuted : (w.muted.transport io).closed = false := hclosed
    rw [afterSending_of_open hclosed, afterSending_of_open hmuted, afterClosing,
      muted_observing_events (hfailures _)]
    rfl

end World

open Run

namespace Connection

theorem isLine_of_mem_unsentWarning {l : Logger} {clock : Int} {path method : String} {r : Report}
    {unsent : Option Fault} {o : Observation} (h : o ∈ unsentWarning l clock path method r unsent) :
    o.isLine = true := by
  cases unsent with
  | none => nomatch h
  | some f => exact Logger.isLine_of_mem_emits h

theorem muted_refusing (l : Logger) (io path method : String) (refusal : Report × Dict String)
    (w : World) :
    (refusing l io path method refusal w).muted =
      w.muted.afterSending io (Response.text refusal.1 refusal.2 w.clock) := by
  have hwarning : ∀ o ∈ warning l w.clock path method refusal.1.message, o.isLine = true :=
    fun _ ho => Logger.isLine_of_mem_emits ho
  rw [refusing_eq, World.muted_observing_lines fun _ ho => isLine_of_mem_unsentWarning ho,
    World.muted_afterSending, World.muted_observing_lines hwarning]

/-! ### What a call does but for the log -/

/-- The first entry about a request: it announces what a route takes, or warns of what none
takes. -/
def openingEntry (c : Connection) (init : HeadInit) (headers : Headers) (w : World) : Entry :=
  let given := headers.get? RequestHead.traceHeader
  match c.routes.find? (·.takes init.path init.verb) with
  | some m => c.announcement init headers w m
  | none =>
    warningEntry ((w.loggers.get c.logger).child (w.traceFor given)) w.clock init.path init.verb
      (c.refusal init.path init.verb (w.traceIdFor given)).1.message

/-- The entry about the response to a request that no route takes, if it is not sent. -/
def closing? (c : Connection) (init : HeadInit) (headers : Headers) (io : String)
    (w : World) : Option Entry :=
  let given := headers.get? RequestHead.traceHeader
  let refusal := c.refusal init.path init.verb (w.traceIdFor given)
  match c.routes.find? (·.takes init.path init.verb) with
  | some _ => none
  | none =>
    (Response.unsent? (w.transport io) refusal.1 (Response.text refusal.1 refusal.2 w.clock)).map
      fun f => warningEntry ((w.loggers.get c.logger).child (w.traceFor given)) w.clock init.path
        init.verb (unsentMessage refusal.1 f)

/-- The world after a request, but for the log: a handler has taken it, or it was refused. -/
def deed (c : Connection) (init : HeadInit) (headers : Headers) (io : String) (w : World) : World :=
  let given := headers.get? RequestHead.traceHeader
  match c.routes.find? (·.takes init.path init.verb) with
  | some ⟨pattern, .route s⟩ =>
    (w.drawing (World.drawsFor given + 1)).afterHandling s.handler
      (c.requestFor init headers io w ⟨pattern, .route s⟩)
  | _ =>
    let refusal := c.refusal init.path init.verb (w.traceIdFor given)
    (w.drawing (World.drawsFor given)).afterSending io
      (Response.text refusal.1 refusal.2 w.clock)

variable {c : Connection} {init : HeadInit} {headers : Headers} {w : World}

theorem openingEntry_of_some {m : MountedService}
    (h : c.routes.find? (·.takes init.path init.verb) = some m) :
    c.openingEntry init headers w = c.announcement init headers w m := by
  rw [openingEntry, h]

section Refused

variable {io : String} (h : c.routes.find? (·.takes init.path init.verb) = none)
include h

theorem openingEntry_of_none :
    let given := headers.get? RequestHead.traceHeader
    c.openingEntry init headers w =
      warningEntry ((w.loggers.get c.logger).child (w.traceFor given)) w.clock init.path init.verb
        (c.refusal init.path init.verb (w.traceIdFor given)).1.message := by
  intro given
  rw [openingEntry, h]

theorem closing?_of_none :
    let given := headers.get? RequestHead.traceHeader
    let refusal := c.refusal init.path init.verb (w.traceIdFor given)
    c.closing? init headers io w =
      (Response.unsent? (w.transport io) refusal.1 (Response.text refusal.1 refusal.2 w.clock)).map
        fun f => warningEntry ((w.loggers.get c.logger).child (w.traceFor given)) w.clock init.path
          init.verb (unsentMessage refusal.1 f) := by
  intro given refusal
  rw [closing?, h]

end Refused

/-- A call whose announcement and warnings get through is answered, and what it does but for the log
depends on nothing that is in the log. -/
theorem exec_call_muted (hc : c.OnlyRoutes) (hh : Headers.ofInit? init.headers = some headers)
    (io : String)
    (hopening : (w.loggers.get c.logger).fails? (c.openingEntry init headers w) = none)
    (hclosing : (c.closing? init headers io w).bind (w.loggers.get c.logger).fails? = none) :
    (exec (c.call init io) w).1 = .ok .undefined ∧
      (exec (c.call init io) w).2.muted = c.deed init headers io w.muted := by
  cases hfind : c.routes.find? (·.takes init.path init.verb) with
  | some m =>
    rw [openingEntry_of_some hfind] at hopening
    obtain ⟨pattern, service⟩ := m
    obtain ⟨s, rfl⟩ := hc _ (List.mem_of_find?_eq_some hfind)
    rw [exec_call_announced hh hfind hopening, Service.exec_call_route, RouteService.exec_call]
    refine ⟨rfl, ?_⟩
    rw [World.muted_observing_lines fun _ ho => RouteService.isLine_of_mem_seenAfter ho,
      World.muted_afterHandling, announcing,
      World.muted_observing_lines fun _ ho => Logger.isLine_of_mem_emits ho, World.muted_drawing,
      deed, hfind]
    rfl
  | none =>
    rw [openingEntry_of_none hfind] at hopening
    rw [closing?_of_none hfind, Option.bind_map, Option.bind_eq_none_iff] at hclosing
    let drawn := w.drawing (World.drawsFor (headers.get? RequestHead.traceHeader))
    rw [exec_call_refused hh hfind, exec_refuse (w := drawn) hopening hclosing]
    refine ⟨rfl, ?_⟩
    rw [muted_refusing, deed, hfind]
    rfl

theorem exec_call_muted_of_neverThrows (hc : c.OnlyRoutes)
    (hh : Headers.ofInit? init.headers = some headers) (io : String)
    (hl : (w.loggers.get c.logger).NeverThrows) :
    (exec (c.call init io) w).1 = .ok .undefined ∧
      (exec (c.call init io) w).2.muted = c.deed init headers io w.muted :=
  exec_call_muted hc hh io (Logger.fails?_of_throws? (hl _))
    (Option.bind_eq_none_iff.2 fun _ _ => Logger.fails?_of_throws? (hl _))

/-- A call whose first line does not get through does nothing but draw ids. -/
theorem exec_call_lost (hh : Headers.ofInit? init.headers = some headers) {v : Value}
    (hopening : (w.loggers.get c.logger).fails? (c.openingEntry init headers w) = some v)
    (io : String) :
    ∃ draws, exec (c.call init io) w = (.error v, w.drawing draws) := by
  cases hfind : c.routes.find? (·.takes init.path init.verb) with
  | some m =>
    rw [openingEntry_of_some hfind] at hopening
    exact ⟨_, exec_call_unannounced hh hfind hopening io⟩
  | none =>
    rw [openingEntry_of_none hfind] at hopening
    let drawn := w.drawing (World.drawsFor (headers.get? RequestHead.traceHeader))
    rw [exec_call_refused hh hfind, exec_refuse_of_fails (w := drawn) hopening]
    exact ⟨_, rfl⟩

/-- A call that cannot say that its response was not sent fails, although it has done all it had to
do. -/
theorem exec_call_unsaid (hh : Headers.ofInit? init.headers = some headers) {io : String}
    {v : Value} (hopening : (w.loggers.get c.logger).fails? (c.openingEntry init headers w) = none)
    (hclosing : (c.closing? init headers io w).bind (w.loggers.get c.logger).fails? =
      some v) :
    (exec (c.call init io) w).1 = .error v ∧
      (exec (c.call init io) w).2.muted = c.deed init headers io w.muted := by
  cases hfind : c.routes.find? (·.takes init.path init.verb) with
  | some m =>
    rw [closing?, hfind] at hclosing
    nomatch hclosing
  | none =>
    rw [openingEntry_of_none hfind] at hopening
    rw [closing?_of_none hfind, Option.bind_map] at hclosing
    obtain ⟨f, hunsent, hlate⟩ := Option.bind_eq_some_iff.1 hclosing
    let drawn := w.drawing (World.drawsFor (headers.get? RequestHead.traceHeader))
    rw [exec_call_refused hh hfind, exec_refuse_of_fails_unsent (w := drawn) hopening hunsent hlate]
    refine ⟨rfl, ?_⟩
    have hwarning : ∀ l clock path method message,
        ∀ o ∈ warning l clock path method message, o.isLine = true :=
      fun _ _ _ _ _ _ ho => Logger.isLine_of_mem_emits ho
    rw [World.muted_afterSending, World.muted_observing_lines (hwarning _ _ _ _ _), deed, hfind]
    rfl

/-- **When a sink that throws disturbs a call.**  On a connection of an application of handlers,
compare a call in any world, where the sink may throw on any entries, with the same call where it
throws on none.  The second one is always answered.  The first one is answered, and does the same
but for the log, exactly if its first line gets through and, where a response is not sent, the line
that says so: then the same handler is run on the same request, or the same is written to the
transport.

If the first line does not get through, the call fails with what the sink threw; no handler is run,
and nothing is written.  If only the other line does not, the call has done the same but for the log
and fails all the same. -/
theorem exec_call_undisturbed_iff {app : App} (happ : app.OnlyHandlers)
    {logger : Option (Ref Logger)} {w₀ w₁ : World}
    (hconnect : exec (app.connect logger) w₀ = (.ok c, w₁))
    (hh : Headers.ofInit? init.headers = some headers) (io : String) (w : World) :
    let disturbed := exec (c.call init io) w
    let sound := exec (c.call init io) (w.relying c.logger)
    let opening := (w.loggers.get c.logger).fails? (c.openingEntry init headers w)
    let closing := (c.closing? init headers io w).bind (w.loggers.get c.logger).fails?
    sound.1 = .ok .undefined ∧
      (disturbed.1 = .ok .undefined ∧ disturbed.2.muted = sound.2.muted ↔
        opening = none ∧ closing = none) ∧
      (∀ v, opening = some v → ∃ draws, disturbed = (.error v, w.drawing draws)) ∧
      ∀ v, opening = none → closing = some v →
        disturbed.1 = .error v ∧ disturbed.2.muted = sound.2.muted := by
  intro disturbed sound opening closing
  have hc : c.OnlyRoutes := fun m hm => (happ.exists_route hconnect hm).imp fun _ hs => hs.1
  have hreliable : ((w.relying c.logger).loggers.get c.logger).NeverThrows :=
    World.get_loggers_relying w c.logger ▸ Logger.neverThrows_reliable _
  obtain ⟨hsound, hsoundDeed⟩ := exec_call_muted_of_neverThrows hc hh io hreliable
  have hsame : sound.2.muted = c.deed init headers io w.muted :=
    hsoundDeed.trans (congrArg _ (World.muted_relying w _))
  have hlost : ∀ v, opening = some v → ∃ draws, disturbed = (.error v, w.drawing draws) :=
    fun v hv => exec_call_lost hh hv io
  have hunsaid : ∀ v, opening = none → closing = some v →
      disturbed.1 = .error v ∧ disturbed.2.muted = sound.2.muted := by
    intro v hopening hclosing
    obtain ⟨hfails, hdeed⟩ := exec_call_unsaid hh hopening hclosing
    exact ⟨hfails, hdeed.trans hsame.symm⟩
  refine ⟨hsound, ⟨?_, ?_⟩, hlost, hunsaid⟩
  · rintro ⟨hanswered, -⟩
    cases hopening : opening with
    | some v =>
      obtain ⟨draws, hfails⟩ := hlost v hopening
      rw [hfails] at hanswered
      nomatch hanswered
    | none =>
      refine ⟨rfl, ?_⟩
      cases hclosing : closing with
      | none => rfl
      | some v =>
        rw [(hunsaid v hopening hclosing).1] at hanswered
        nomatch hanswered
  · rintro ⟨hopening, hclosing⟩
    obtain ⟨hanswered, hdeed⟩ := exec_call_muted hc hh io hopening hclosing
    exact ⟨hanswered, hdeed.trans hsame.symm⟩

/-- A route whose handler always fails. -/
def alwaysRefusing : App := ⟨[⟨⟨"/x"⟩, .route ⟨⟨0⟩, []⟩⟩], ⟨0⟩, ⟨0⟩⟩

/-- The connection of that route. -/
def alwaysRefusingConnection : Connection := ⟨[⟨⟨"/x"⟩, .route ⟨⟨0⟩, [], ⟨0⟩⟩⟩], ⟨0⟩, ⟨0⟩⟩

/-- The world of that handler, with a logger whose sink is full for entries of some levels. -/
def fullOn (levels : List Level) : World :=
  { World.initial 0 [] ∅ with
    handlers := ⟨[.ofScript ⟨"h", none, 0, none, [], [.rejected (.text "no")]⟩]⟩
    loggers :=
      ⟨[.ofSettings ⟨.debug, false, false, some (.refusing "sink" (.text "full") levels)⟩]⟩ }

/-- A sink that is full for errors disturbs nothing, although the handler fails. -/
theorem exec_call_undisturbed_fullOnErrors :
    alwaysRefusing.OnlyHandlers ∧
      exec (alwaysRefusing.connect none) (fullOn [.error]) =
        (.ok alwaysRefusingConnection, fullOn [.error]) ∧
      Headers.ofInit? (.list []) = some ⟨[]⟩ ∧
      let call := alwaysRefusingConnection.call ⟨"GET", "/x", none, .list []⟩ "c"
      (exec call (fullOn [.error])).1 = .ok .undefined ∧
        (exec call (fullOn [.error])).2.muted =
          (exec call ((fullOn [.error]).relying ⟨0⟩)).2.muted := by
  have happ : alwaysRefusing.OnlyHandlers := fun m hm => List.mem_singleton.1 hm ▸ ⟨_, rfl⟩
  have hconnect : exec (alwaysRefusing.connect none) (fullOn [.error]) =
      (.ok alwaysRefusingConnection, fullOn [.error]) := rfl
  let init : HeadInit := ⟨"GET", "/x", none, .list []⟩
  have hh : Headers.ofInit? init.headers = some ⟨[]⟩ := rfl
  have hpath : init.path = "/x" := by decide
  have hfind : alwaysRefusingConnection.routes.find? (·.takes init.path init.verb) =
      some ⟨⟨"/x"⟩, .route ⟨⟨0⟩, [], ⟨0⟩⟩⟩ := by
    rw [hpath]
    rfl
  have hclosing : alwaysRefusingConnection.closing? init ⟨[]⟩ "c" (fullOn [.error]) = none := by
    rw [closing?, hfind]
  obtain ⟨-, hiff, -⟩ := exec_call_undisturbed_iff happ hconnect hh "c" (fullOn [.error])
  refine ⟨happ, hconnect, hh, hiff.2 ⟨?_, ?_⟩⟩
  · rw [openingEntry_of_some hfind]
    rfl
  · rw [hclosing]
    rfl

/-- Not every call is undisturbed by what a sink throws: here it throws on the line that announces
the request, and the request never gets to the handler. -/
theorem exec_call_not_undisturbed :
    ¬ ∀ (app : App) (logger : Option (Ref Logger)) (c : Connection) (w₀ w₁ w : World)
        (init : HeadInit) (headers : Headers) (io : String),
      app.OnlyHandlers → exec (app.connect logger) w₀ = (.ok c, w₁) →
      Headers.ofInit? init.headers = some headers →
      (exec (c.call init io) w).1 = .ok .undefined ∧
        (exec (c.call init io) w).2.muted =
          (exec (c.call init io) (w.relying c.logger)).2.muted := by
  intro h
  let init : HeadInit := ⟨"GET", "/x", none, .list []⟩
  have happ : alwaysRefusing.OnlyHandlers := fun m hm => List.mem_singleton.1 hm ▸ ⟨_, rfl⟩
  have hh : Headers.ofInit? init.headers = some ⟨[]⟩ := rfl
  have hpath : init.path = "/x" := by decide
  have hfind : alwaysRefusingConnection.routes.find? (·.takes init.path init.verb) =
      some ⟨⟨"/x"⟩, .route ⟨⟨0⟩, [], ⟨0⟩⟩⟩ := by
    rw [hpath]
    rfl
  have hfull : ((fullOn [.debug]).loggers.get ⟨0⟩).fails?
      (alwaysRefusingConnection.announcement init ⟨[]⟩ (fullOn [.debug])
        ⟨⟨"/x"⟩, .route ⟨⟨0⟩, [], ⟨0⟩⟩⟩) = some (.text "full") := rfl
  have hcall := exec_call_unannounced hh hfind hfull "c"
  have hanswered := (h alwaysRefusing none alwaysRefusingConnection (fullOn [.debug])
    (fullOn [.debug]) (fullOn [.debug]) init _ "c" happ rfl hh).1
  rw [hcall] at hanswered
  nomatch hanswered

end Connection

end HttpDispatch
