import HttpDispatch.Proofs.Routing.Activation
import HttpDispatch.Proofs.Routing.FirstMatch
import HttpDispatch.Proofs.Routing.Refusal

/-!
# Which entries carry the id of a request

A request has one trace id, which it brings or which is made for it.  Main statement
(`exec_call_correlates`): the handler sees this id, the report of a refusal has it, and all entries
carry it that the connection makes during the call, since it makes them with a child of its logger.

The entry about a failure of the handler is made by the service.  Its logger was chosen when the
connection was made and is in no trace of any request, so this entry carries the id of that
logger, or none (`exec_call_not_correlated`).
-/

namespace HttpDispatch

namespace Observation

/-- The lines among what is seen. -/
def lines (seen : List Observation) : List Observation := seen.filter isLine

@[simp] theorem lines_append (seen more : List Observation) :
    lines (seen ++ more) = lines seen ++ lines more :=
  List.filter_append ..

theorem lines_of_isLine {seen : List Observation} (h : ∀ o ∈ seen, o.isLine = true) :
    lines seen = seen :=
  List.filter_eq_self.2 h

theorem lines_eq_nil {seen : List Observation} (h : ∀ o ∈ seen, o.isLine = false) :
    lines seen = [] :=
  List.filter_eq_nil_iff.2 fun o ho => by rw [h o ho]; decide

end Observation

namespace Logger

/-- The entries that a log call makes: one, if its level passes. -/
def made (l : Logger) (clock : Int) (level : Level) (message : String) (context : Option Json)
    (error : Option ErrorSummary) : List Entry :=
  if level.passes l.level then [l.entry clock level message context error] else []

theorem emits_eq_flatMap (l : Logger) (clock : Int) (level : Level) (message : String)
    (context : Option Json) (error : Option ErrorSummary) :
    l.emits clock level message context error =
      (l.made clock level message context error).flatMap l.shows := by
  rw [emits, made]
  split
  · exact List.flatMap_singleton .. |>.symm
  · rfl

theorem mem_made {l : Logger} {clock : Int} {level : Level} {message : String}
    {context : Option Json} {error : Option ErrorSummary} {e : Entry}
    (h : e ∈ l.made clock level message context error) :
    e = l.entry clock level message context error := by
  rw [made] at h
  split at h
  · exact List.mem_singleton.1 h
  · exact absurd h List.not_mem_nil

end Logger

/-- Between two worlds, what was seen shows these requests on their way into services, and its
lines are what a logger shows of these entries. -/
def World.Shows (w w' : World) (l : Logger) (entries : List Entry) (reqs : List Request) : Prop :=
  ∃ seen, w'.timeline = w.timeline ++ seen ∧ Observation.lines seen = entries.flatMap l.shows ∧
    Observation.requests seen = reqs

namespace World

variable {w w₁ w₂ : World} {l : Logger} {entries more : List Entry} {reqs others : List Request}

theorem Shows.trans (h : w.Shows w₁ l entries reqs) (h' : w₁.Shows w₂ l more others) :
    w.Shows w₂ l (entries ++ more) (reqs ++ others) := by
  obtain ⟨seen, ht, hl, hr⟩ := h
  obtain ⟨seen', ht', hl', hr'⟩ := h'
  refine ⟨seen ++ seen', ?_, ?_, ?_⟩
  · rw [ht', ht, List.append_assoc]
  · rw [Observation.lines_append, hl, hl', List.flatMap_append]
  · rw [Observation.requests_append, hr, hr']

/-- Lines that a logger shows of entries are these entries. -/
theorem shows_observing {w₁ : World} (ht : w₁.timeline = w.timeline) (l : Logger)
    (entries : List Entry) : w.Shows (w₁.observing (entries.flatMap l.shows)) l entries [] := by
  have hlines : ∀ o ∈ entries.flatMap l.shows, o.isLine = true := by
    intro o ho
    obtain ⟨e, -, he⟩ := List.mem_flatMap.1 ho
    exact Logger.isLine_of_mem_shows he
  refine ⟨_, ?_, Observation.lines_of_isLine hlines, Observation.requests_of_isLine hlines⟩
  rw [timeline_observing, ht]

theorem shows_afterSending (w : World) (io text : String) (l : Logger) :
    w.Shows (w.afterSending io text) l [] [] := by
  obtain ⟨failure, ht⟩ := w.exists_timeline_afterSending io text
  refine ⟨_, ht, Observation.lines_eq_nil ?_, Run.requests_failures io failure⟩
  intro o ho
  cases failure with
  | none => exact absurd ho List.not_mem_nil
  | some message => exact List.mem_singleton.1 ho ▸ rfl

end World

/-- The body of a response names the trace of its report. -/
theorem Report.traceId_toResponse (r : Report) (clock : Int) :
    ∃ members, r.toResponse clock = .obj [("error", .obj members)] ∧
      Json.member? "traceId" members = r.traceId.map .str := by
  refine ⟨_, rfl, ?_⟩
  cases r.details <;> cases r.suggestion <;> cases r.traceId <;> rfl

/-- How an entry of a call is tied to the trace of its request: by the id of the trace, or, where it
tells of the failure of a handler on one of these requests, only by the id of the logger. -/
inductive Entry.Correlates (l : Logger) (traceId : String) (reqs : List Request) : Entry → Prop
  | inTrace {e : Entry} : e.level ≠ .error → e.traceId = some traceId → Correlates l traceId reqs e
  | ofLogger {e : Entry} {req : Request} {v : Value} : req ∈ reqs →
      e.TellsFailure req "FramedError" v.display → e.traceId = l.trace.map Trace.traceId →
      Correlates l traceId reqs e

/-- An entry below the highest level that is made in a trace carries its id. -/
theorem Logger.correlates_of_mem_made {l : Logger} {t : Trace} {clock : Int} {level : Level}
    {message : String} {context : Option Json} {e : Entry} (hlevel : level ≠ .error)
    (he : e ∈ (l.child t).made clock level message context none) (parent : Logger)
    (reqs : List Request) : e.Correlates parent t.traceId reqs := by
  rw [mem_made he]
  exact .inTrace hlevel (traceId_child l t clock level message context none)

open Run

/-! ### A service -/

namespace RouteService

/-- The entries of a service about what an outcome settles to. -/
def failureEntries (l : Logger) (clock : Int) (req : Request) : Except Value Value → List Entry
  | .ok _ => []
  | .error v => [failureEntry l clock req v]

theorem correlates_of_mem_failureEntries {l : Logger} {clock : Int} {req : Request}
    {result : Except Value Value} {e : Entry} (he : e ∈ failureEntries l clock req result)
    (traceId : String) : e.Correlates l traceId [req] := by
  cases result with
  | ok v => exact absurd he List.not_mem_nil
  | error v =>
    rw [List.mem_singleton.1 he]
    exact .ofLogger (List.mem_singleton_self _) (tellsFailure_failureEntry l clock req v) rfl

/-- A service shows its request, and then the failure of its handler. -/
theorem shows_exec_call (s : RouteService) (req : Request) (w : World)
    (hl : (w.loggers.get s.logger).NeverThrows) :
    w.Shows (exec (s.call req) w).2 (w.loggers.get s.logger)
      (failureEntries (w.loggers.get s.logger) w.clock req (w.outcomeOf s.handler req).settle)
      [req] := by
  generalize hlog : w.loggers.get s.logger = l at hl
  have hafter : ∀ result, seenAfter l w.clock req result =
      (failureEntries l w.clock req result).flatMap l.shows := by
    intro result
    cases result with
    | ok v => rfl
    | error v =>
      rw [seenAfter, seenReport, hl]
      exact (List.flatMap_singleton ..).symm
  have hhandling : w.Shows (w.afterHandling s.handler req) l [] [req] :=
    ⟨_, rfl, Observation.lines_eq_nil fun _ ho => World.isLine_of_mem_seenHandling ho,
      World.requests_seenHandling w s.handler req⟩
  rw [exec_call, hlog, hafter]
  exact hhandling.trans (World.shows_observing rfl l _)

end RouteService

/-! ### A connection -/

namespace Connection

/-- The entry that announces a request. -/
theorem shows_announcing (c : Connection) (init : HeadInit) (headers : Headers) (w : World)
    (m : MountedService) :
    w.Shows (c.announcing init headers w m) (w.loggers.get c.logger)
      ((c.spanLogger headers w).made w.clock .debug (init.verb ++ " " ++ init.path)
        (some (.obj [("pattern", .str m.pattern.source)])) none) [] := by
  rw [announcing, Logger.emits_eq_flatMap]
  exact World.shows_observing rfl (w.loggers.get c.logger) _

/-- The entries of a refusal: the warning, and the one about a response that is not sent. -/
def refusalEntries (l : Logger) (clock : Int) (path method : String) (r : Report)
    (unsent : Option Fault) : List Entry :=
  let context := some (RouteService.requestContext method path)
  l.made clock .warn r.message context none ++
    match unsent with
    | none => []
    | some f => l.made clock .warn (unsentMessage r f) context none

/-- The entry of the first warning is shown, and then the response is sent. -/
theorem shows_warned (l : Logger) (io path method message text : String) (w : World) :
    w.Shows ((w.observing (warning l w.clock path method message)).afterSending io text) l
      (l.made w.clock .warn message (some (RouteService.requestContext method path)) none) [] := by
  let entries := l.made w.clock .warn message (some (RouteService.requestContext method path)) none
  have hwarned : w.Shows (w.observing (entries.flatMap l.shows)) l entries [] :=
    World.shows_observing rfl l entries
  have hsent := hwarned.trans (World.shows_afterSending _ io text l)
  rw [warning, Logger.emits_eq_flatMap]
  rwa [List.append_nil] at hsent

theorem shows_refusing (l : Logger) (io path method : String) (refusal : Report × Dict String)
    (w : World) :
    w.Shows (refusing l io path method refusal w) l
      (refusalEntries l w.clock path method refusal.1
        (Response.unsent? (w.transport io) refusal.1
          (Response.text refusal.1 refusal.2 w.clock))) [] := by
  rw [refusing_eq]
  refine (shows_warned l io path method refusal.1.message
    (Response.text refusal.1 refusal.2 w.clock) w).trans ?_
  cases Response.unsent? (w.transport io) refusal.1 (Response.text refusal.1 refusal.2 w.clock) with
  | none =>
    rw [unsentWarning, World.observing_nil]
    exact ⟨[], (List.append_nil _).symm, rfl, rfl⟩
  | some f =>
    have hlate : warning l w.clock path method (unsentMessage refusal.1 f) = _ :=
      Logger.emits_eq_flatMap ..
    rw [unsentWarning, hlate]
    exact World.shows_observing rfl l _

theorem correlates_of_mem_refusalEntries {l : Logger} {t : Trace} {clock : Int}
    {path method : String} {r : Report} {unsent : Option Fault} {e : Entry}
    (he : e ∈ refusalEntries (l.child t) clock path method r unsent) (reqs : List Request) :
    e.Correlates l t.traceId reqs := by
  rcases List.mem_append.1 he with he | he
  · exact Logger.correlates_of_mem_made (by decide) he l reqs
  · cases unsent with
    | none => exact absurd he List.not_mem_nil
    | some f => exact Logger.correlates_of_mem_made (by decide) he l reqs

/-- **What belongs together by the id of a request.**  On a connection of an application of
handlers, and where no sink throws, a call shows requests and entries.  The requests that handlers
see carry the trace id of the request.  So do all entries but those about the failure of a handler,
which carry the id of the trace of the logger, if it is in one.  Where no handler gets the request,
what is sent is the report of a refusal, and its body names the id. -/
theorem exec_call_correlates {app : App} (happ : app.OnlyHandlers) {logger : Option (Ref Logger)}
    {c : Connection} {w₀ w₁ : World} (hconnect : exec (app.connect logger) w₀ = (.ok c, w₁))
    {init : HeadInit} {headers : Headers} (hh : Headers.ofInit? init.headers = some headers)
    (io : String) (w : World) (hl : (w.loggers.get c.logger).NeverThrows) :
    let traceId := w.traceIdFor (headers.get? RequestHead.traceHeader)
    ∃ (entries : List Entry) (reqs : List Request),
      w.Shows (exec (c.call init io) w).2 (w.loggers.get c.logger) entries reqs ∧
      (∀ req ∈ reqs, req.traceId = traceId) ∧
      (∀ e ∈ entries, e.Correlates (w.loggers.get c.logger) traceId reqs) ∧
      (reqs = [] → ∃ (r : Report) (extra : Dict String) (members : List (String × Json)),
        (exec (c.call init io) w).2.transports = (exec (sendError io r extra) w).2.transports ∧
        r.toResponse w.clock = .obj [("error", .obj members)] ∧
        Json.member? "traceId" members = some (.str traceId)) := by
  intro traceId
  let given := headers.get? RequestHead.traceHeader
  cases hfind : c.routes.find? (·.takes init.path init.verb) with
  | some m =>
    obtain ⟨s, hs, hlogger⟩ := happ.exists_route hconnect (List.mem_of_find?_eq_some hfind)
    let req := c.requestFor init headers io w m
    let announced := c.announcing init headers w m
    have hcall : (exec (c.call init io) w).2 = (exec (s.call req) announced).2 := by
      rw [exec_call_taken hh hfind (hl _), hs, Service.exec_call_route]
    have hlog : announced.loggers.get s.logger = w.loggers.get c.logger := by rw [hlogger]; rfl
    have hserve := s.shows_exec_call req announced (hlog ▸ hl)
    rw [hlog] at hserve
    have hreq : ∀ q ∈ [req], q.traceId = traceId := fun q hq => List.mem_singleton.1 hq ▸ rfl
    refine ⟨_, [req], hcall ▸ (c.shows_announcing init headers w m).trans hserve, hreq, ?_, nofun⟩
    intro e he
    rcases List.mem_append.1 he with he | he
    · exact Logger.correlates_of_mem_made (by decide) he _ [req]
    · exact RouteService.correlates_of_mem_failureEntries he traceId
  | none =>
    let refusal := c.refusal init.path init.verb traceId
    let l := (w.loggers.get c.logger).child (w.traceFor given)
    let drawn := w.drawing (World.drawsFor given)
    have hcall : (exec (c.call init io) w).2 =
        refusing l io init.path init.verb refusal drawn := by
      rw [exec_call_refusing hh hfind hl]
    have hshows := shows_refusing l io init.path init.verb refusal drawn
    refine ⟨_, [], hcall ▸ hshows, fun _ hq => absurd hq List.not_mem_nil,
      fun e he => correlates_of_mem_refusalEntries he [], fun _ => ?_⟩
    obtain ⟨members, hbody, hmember⟩ := refusal.1.traceId_toResponse w.clock
    refine ⟨refusal.1, refusal.2, members, ?_, hbody, ?_⟩
    · have hwarned : (drawn.observing (warning l w.clock init.path init.verb
          refusal.1.message)).transports = w.transports := rfl
      have hsent := World.transports_afterSending_congr hwarned io
        (Response.text refusal.1 refusal.2 w.clock)
      rw [hcall, refusing_eq, exec_sendError_eq]
      exact hsent
    · rw [hmember, (refuses_refusal c init traceId).traceId]
      rfl

/-- A route whose handler always throws. -/
def alwaysBoom : App := ⟨[⟨⟨"/boom"⟩, .route ⟨⟨0⟩, []⟩⟩], ⟨0⟩, ⟨0⟩⟩

/-- The world of that handler, with a logger that is in no trace. -/
def boomWorld : World :=
  let boom : Script := ⟨"boom", none, 0, none, [], [.raised (.error none "boom" none)]⟩
  { World.initial 0 [] ∅ with
    handlers := ⟨[.ofScript boom]⟩
    loggers := ⟨[.ofSettings ⟨.info, false, false, some (.capture "sink")⟩]⟩ }

/-- The connection of the route in that world. -/
def boomConnection : Connection := ⟨[⟨⟨"/boom"⟩, .route ⟨⟨0⟩, [], ⟨0⟩⟩⟩], ⟨0⟩, ⟨0⟩⟩

/-- Such a request shows its id, and perhaps a failure. -/
theorem exec_call_correlates_alwaysBoom :
    alwaysBoom.OnlyHandlers ∧
      exec (alwaysBoom.connect none) boomWorld = (.ok boomConnection, boomWorld) ∧
      Headers.ofInit? (.list [("x-trace-id", "t-1")]) = some ⟨[("x-trace-id", "t-1")]⟩ ∧
      (boomWorld.loggers.get ⟨0⟩).NeverThrows ∧
      ∃ (entries : List Entry) (reqs : List Request),
        boomWorld.Shows (exec (boomConnection.call
            ⟨"GET", "/boom", none, .list [("x-trace-id", "t-1")]⟩ "c") boomWorld).2
          (boomWorld.loggers.get ⟨0⟩) entries reqs ∧
        (∀ req ∈ reqs, req.traceId = "t-1") ∧
        ∀ e ∈ entries, e.Correlates (boomWorld.loggers.get ⟨0⟩) "t-1" reqs := by
  have happ : alwaysBoom.OnlyHandlers := fun m hm => List.mem_singleton.1 hm ▸ ⟨_, rfl⟩
  have hconnect : exec (alwaysBoom.connect none) boomWorld = (.ok boomConnection, boomWorld) := rfl
  let init : HeadInit := ⟨"GET", "/boom", none, .list [("x-trace-id", "t-1")]⟩
  have hh : Headers.ofInit? init.headers = some ⟨[("x-trace-id", "t-1")]⟩ := by decide
  have hl : (boomWorld.loggers.get boomConnection.logger).NeverThrows := fun _ => rfl
  obtain ⟨entries, reqs, hshows, hreqs, hentries, -⟩ :=
    exec_call_correlates happ hconnect hh "c" boomWorld hl
  exact ⟨happ, hconnect, hh, hl, entries, reqs, hshows, hreqs, hentries⟩

/-- Not all entries of a call carry the id of the request: the handler fails, its request brings an
id, and the entry about the failure carries none. -/
theorem exec_call_not_correlated :
    ¬ ∀ (app : App) (logger : Option (Ref Logger)) (c : Connection) (w₀ w₁ w w' : World)
        (init : HeadInit) (headers : Headers) (io : String) (seen : List Observation),
      app.OnlyHandlers → exec (app.connect logger) w₀ = (.ok c, w₁) →
      Headers.ofInit? init.headers = some headers → (w.loggers.get c.logger).NeverThrows →
      (exec (c.call init io) w).2 = w' → w'.timeline = w.timeline ++ seen →
      ∀ sink e, .logged sink e ∈ seen →
        e.traceId = some (w.traceIdFor (headers.get? RequestHead.traceHeader)) := by
  intro h
  let init : HeadInit := ⟨"GET", "/boom", none, .list [("x-trace-id", "t-1")]⟩
  let headers : Headers := ⟨[("x-trace-id", "t-1")]⟩
  let m : MountedService := ⟨⟨"/boom"⟩, .route ⟨⟨0⟩, [], ⟨0⟩⟩⟩
  let req := boomConnection.requestFor init headers "c" boomWorld m
  have hh : Headers.ofInit? init.headers = some headers := by decide
  have hpath : init.path = "/boom" := by decide
  have hfind : boomConnection.routes.find? (·.takes init.path init.verb) = some m := by
    rw [hpath]
    rfl
  have hcall := exec_call_taken hh hfind (w := boomWorld) rfl "c"
  rw [Service.exec_call_route, RouteService.exec_call] at hcall
  have htimeline : (exec (boomConnection.call init "c") boomWorld).2.timeline =
      boomWorld.timeline ++ ([.event (.handled "boom" 1 ⟨req, none⟩)] ++ [.logged "sink"
        (RouteService.failureEntry (boomWorld.loggers.get ⟨0⟩) 0 req (.error none "boom" none))]) := by
    rw [hcall]
    rfl
  have happ : alwaysBoom.OnlyHandlers := fun m hm => List.mem_singleton.1 hm ▸ ⟨_, rfl⟩
  have hl : (boomWorld.loggers.get boomConnection.logger).NeverThrows := fun _ => rfl
  have hid := h alwaysBoom none boomConnection boomWorld boomWorld boomWorld _ init headers "c" _
    happ rfl hh hl rfl htimeline "sink" _ (List.mem_append_right _ (List.mem_singleton_self _))
  nomatch hid

end Connection

end HttpDispatch
