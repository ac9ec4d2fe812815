import HttpDispatch.Proofs.Log.Tracing
import HttpDispatch.Proofs.Routing.Refusal
import HttpDispatch.Proofs.Routing.Report
import HttpDispatch.Proofs.Routing.Selection

/-!
# How a connection answers

A request whose headers are valid goes one of two ways.  Where a route takes it, the connection
announces it by one line and hands it over, and that is all the connection does (`exec_call_taken`).
Otherwise the connection refuses it with a report of its own choice (`exec_call_refused`), and
refusing never fails: what goes wrong on the way to the transport becomes another line.

A call is therefore answered but for two reasons (`exec_call_answers_iff`).  Invalid headers end it
before any route is looked at, and a foreign route ends it in a failure of its own.
-/

namespace HttpDispatch

namespace HeadInit

/-- The path of the target: what stands before its first question mark. -/
def path (init : HeadInit) : String := String.ofList (init.uri.toList.takeWhile (· != '?'))

/-- The method in its canonical form. -/
def verb (init : HeadInit) : String := Method.normalize init.method

/-- The head with these headers. -/
def withHeaders (init : HeadInit) (headers : Headers) : RequestHead :=
  { method := init.verb
    uri := init.uri
    version := init.version.getD RequestHead.defaultVersion
    headers }

theorem ofInit?_eq (init : HeadInit) :
    RequestHead.ofInit? init = (Headers.ofInit? init.headers).map init.withHeaders := rfl

theorem ofInit?_of_valid {init : HeadInit} {headers : Headers}
    (h : Headers.ofInit? init.headers = some headers) :
    RequestHead.ofInit? init = some (init.withHeaders headers) := by
  rw [ofInit?_eq, h]
  rfl

end HeadInit

open Run

namespace Service

theorem exec_call_route (s : RouteService) (req : Request) (w : World) :
    exec (call req (.route s)) w = (.ok .undefined, (exec (s.call req) w).2) := by
  rw [call, RouteService.exec_call, exec_bind_ok (RouteService.exec_call s req w)]
  rfl

theorem exec_call_foreign (r : ForeignRoute) (req : Request) (w : World) :
    exec (call req (.foreign r)) w =
      (r.outcome.settle,
        w.observing [.event (.called r.path ⟨req, (w.states.get req.state).value⟩)]) := by
  have hsee : exec (see req) w = (.ok ⟨req, (w.states.get req.state).value⟩, w) := rfl
  have hemit : ∀ seen, exec (emit (.called r.path seen)) w =
      (.ok (), w.observing [.event (.called r.path seen)]) := fun _ => rfl
  rw [call, exec_bind_ok hsee, exec_bind_ok (hemit _)]
  cases r.outcome.settle with
  | ok v => rfl
  | error v => rfl

end Service

namespace Connection

/-! ### A request that a route takes -/

/-- The request that a route gets. -/
def requestFor (c : Connection) (init : HeadInit) (headers : Headers) (io : String) (w : World)
    (m : MountedService) : Request :=
  { head := init.withHeaders headers
    params := (m.pattern.params? init.path).getD ∅
    traceId := w.traceIdFor (headers.get? RequestHead.traceHeader)
    state := c.state
    io }

/-- The logger of a request, in a span of its trace. -/
def spanLogger (c : Connection) (headers : Headers) (w : World) : Logger :=
  let given := headers.get? RequestHead.traceHeader
  let w₁ := w.drawing (World.drawsFor given)
  ((w.loggers.get c.logger).child (w.traceFor given)).child
    ((w.traceFor given).span (Trace.makeId w₁.clock w₁.nextDraw) w₁.clock)

/-- The entry that announces a request that a route takes. -/
def announcement (c : Connection) (init : HeadInit) (headers : Headers) (w : World)
    (m : MountedService) : Entry :=
  (c.spanLogger headers w).entry w.clock .debug (init.verb ++ " " ++ init.path)
    (some (.obj [("pattern", .str m.pattern.source)])) none

/-- The world when a request has been announced that a route takes. -/
def announcing (c : Connection) (init : HeadInit) (headers : Headers) (w : World)
    (m : MountedService) : World :=
  (w.drawing (World.drawsFor (headers.get? RequestHead.traceHeader) + 1)).observing
    ((c.spanLogger headers w).emits w.clock .debug (init.verb ++ " " ++ init.path)
      (some (.obj [("pattern", .str m.pattern.source)])) none)

/-- A request that a route takes is announced, and then it is handed over. -/
theorem exec_call_matched {c : Connection} {init : HeadInit} {headers : Headers}
    {m : MountedService} (hh : Headers.ofInit? init.headers = some headers)
    (hm : c.routes.find? (·.takes init.path init.verb) = some m) (io : String) (w : World) :
    exec (c.call init io) w =
      exec (do
          (c.spanLogger headers w).debug (init.verb ++ " " ++ init.path)
            (some (.obj [("pattern", .str m.pattern.source)]))
          m.service.call (c.requestFor init headers io w m))
        (w.drawing (World.drawsFor (headers.get? RequestHead.traceHeader) + 1)) := by
  have hd : dispatch (init.withHeaders headers).target.path (init.withHeaders headers).method
      c.routes = .taken m ((m.pattern.params? init.path).getD ∅) := by
    have htake := dispatch_eq init.path init.verb c.routes
    rwa [hm] at htake
  rw [call, HeadInit.ofInit?_of_valid hh]
  show exec (startTrace (headers.get? RequestHead.traceHeader) >>= _) w = _
  rw [exec_bind_ok (exec_startTrace _ w), exec_bind_ok (exec_logger _ _)]
  simp only [hd]
  show exec (startSpan _ >>= _) _ = _
  rw [exec_bind_ok (exec_startSpan _ _), World.drawing_drawing]
  rfl

section Announcing

variable {c : Connection} {init : HeadInit} {headers : Headers} {w : World} {m : MountedService}

theorem exec_call_announced (hh : Headers.ofInit? init.headers = some headers)
    (hm : c.routes.find? (·.takes init.path init.verb) = some m)
    (hl : (w.loggers.get c.logger).fails? (c.announcement init headers w m) = none) (io : String) :
    exec (c.call init io) w =
      exec (m.service.call (c.requestFor init headers io w m)) (c.announcing init headers w m) := by
  have hspan : (c.spanLogger headers w).fails? (c.announcement init headers w m) = none := hl
  rw [exec_call_matched hh hm]
  exact exec_bind_ok (Logger.exec_log_of_not_fails hspan)

/-- Where the request cannot be announced, it is not handed over either. -/
theorem exec_call_unannounced (hh : Headers.ofInit? init.headers = some headers)
    (hm : c.routes.find? (·.takes init.path init.verb) = some m) {v : Value}
    (hl : (w.loggers.get c.logger).fails? (c.announcement init headers w m) = some v)
    (io : String) :
    exec (c.call init io) w =
      (.error v, w.drawing (World.drawsFor (headers.get? RequestHead.traceHeader) + 1)) := by
  have hspan : (c.spanLogger headers w).fails? (c.announcement init headers w m) = some v := hl
  rw [exec_call_matched hh hm]
  exact exec_bind_error (Logger.exec_log_of_fails hspan)

theorem exec_call_taken (hh : Headers.ofInit? init.headers = some headers)
    (hm : c.routes.find? (·.takes init.path init.verb) = some m)
    (hl : (w.loggers.get c.logger).throws? (c.announcement init headers w m) = none)
    (io : String) :
    exec (c.call init io) w =
      exec (m.service.call (c.requestFor init headers io w m)) (c.announcing init headers w m) :=
  exec_call_announced hh hm (Logger.fails?_of_throws? hl) io

end Announcing

/-! ### A request that no route takes -/

/-- The report and the headers of the answer to a request that no route takes. -/
def refusal (c : Connection) (path method traceId : String) : Report × Dict String :=
  if c.routes.any (·.covers path) then
    let allowed := (methodsAt path c.routes).eraseDups
    (notAllowedReport path method traceId allowed,
      Dict.ofList [("allow", String.intercalate ", " allowed)])
  else (noRouteReport path method traceId, ∅)

theorem exec_call_refused {c : Connection} {init : HeadInit} {headers : Headers}
    (hh : Headers.ofInit? init.headers = some headers)
    (hm : c.routes.find? (·.takes init.path init.verb) = none) (io : String) (w : World) :
    exec (c.call init io) w =
      exec (refuse ((w.loggers.get c.logger).child (w.traceFor (headers.get? RequestHead.traceHeader)))
          io init.path init.verb
          (c.refusal init.path init.verb (w.traceIdFor (headers.get? RequestHead.traceHeader))))
        (w.drawing (World.drawsFor (headers.get? RequestHead.traceHeader))) := by
  have hd : dispatch (init.withHeaders headers).target.path (init.withHeaders headers).method
      c.routes = if c.routes.any (·.covers init.path) then .notAllowed (methodsAt init.path c.routes)
        else .noRoute := by
    have hnone := dispatch_eq init.path init.verb c.routes
    rwa [hm] at hnone
  rw [call, HeadInit.ofInit?_of_valid hh]
  show exec (startTrace (headers.get? RequestHead.traceHeader) >>= _) w = _
  rw [exec_bind_ok (exec_startTrace _ w), exec_bind_ok (exec_logger _ _)]
  by_cases hany : c.routes.any (·.covers init.path) = true
  · rw [if_pos hany] at hd
    simp only [hd, refusal, if_pos hany]
    rfl
  · rw [if_neg hany] at hd
    simp only [hd, refusal, if_neg hany]
    rfl

theorem exec_call_refusing {c : Connection} {init : HeadInit} {headers : Headers} {w : World}
    (hh : Headers.ofInit? init.headers = some headers)
    (hm : c.routes.find? (·.takes init.path init.verb) = none)
    (hl : (w.loggers.get c.logger).NeverThrows) (io : String) :
    exec (c.call init io) w =
      (.ok .undefined,
        refusing ((w.loggers.get c.logger).child (w.traceFor (headers.get? RequestHead.traceHeader)))
          io init.path init.verb
          (c.refusal init.path init.verb (w.traceIdFor (headers.get? RequestHead.traceHeader)))
          (w.drawing (World.drawsFor (headers.get? RequestHead.traceHeader)))) := by
  rw [exec_call_refused hh hm, exec_refuse_of_neverThrows (hl.child _)]

/-! ### What a call comes to -/

/-- A call whose headers are invalid ends before anything is done. -/
theorem exec_call_of_invalid {c : Connection} {init : HeadInit}
    (hh : Headers.ofInit? init.headers = none) (io : String) (w : World) :
    exec (c.call init io) w = (.error (.platformError "TypeError"), w) := by
  have hhead : RequestHead.ofInit? init = none := by
    rw [HeadInit.ofInit?_eq, hh]
    rfl
  rw [call, hhead]
  rfl

/-- What a call comes to, as far as it is decided by the head and the routes: all there is to it. -/
def answer (c : Connection) (init : HeadInit) : Except Value Value :=
  if (Headers.ofInit? init.headers).isNone then .error (.platformError "TypeError")
  else match c.routes.find? (·.takes init.path init.verb) with
    | some ⟨_, .foreign r⟩ => r.outcome.settle
    | _ => .ok .undefined

theorem exec_call_fst {c : Connection} {w : World} (hl : (w.loggers.get c.logger).NeverThrows)
    (init : HeadInit) (io : String) : (exec (c.call init io) w).1 = c.answer init := by
  rw [answer]
  cases hh : Headers.ofInit? init.headers with
  | none =>
    rw [exec_call_of_invalid hh]
    rfl
  | some headers =>
    rw [if_neg (by simp)]
    cases hm : c.routes.find? (·.takes init.path init.verb) with
    | none =>
      rw [exec_call_refusing hh hm hl]
    | some m =>
      obtain ⟨pattern, service⟩ := m
      rw [exec_call_taken hh hm (hl _)]
      cases service with
      | route s => rw [Service.exec_call_route]
      | foreign r => rw [Service.exec_call_foreign]

/-- **When a call is answered.**  Whatever its transport, a call is answered with nothing exactly
if its headers are valid and the first route that takes it, where it is a foreign one, answers with
nothing.  It fails exactly if its headers are invalid or that route fails. -/
theorem exec_call_answers_iff (c : Connection) (init : HeadInit) (io : String) (w : World)
    (hl : (w.loggers.get c.logger).NeverThrows) :
    ((exec (c.call init io) w).1 = .ok .undefined ↔
      (Headers.ofInit? init.headers).isSome = true ∧
        ∀ pattern r, c.routes.find? (·.takes init.path init.verb) = some ⟨pattern, .foreign r⟩ →
          r.outcome.settle = .ok .undefined) ∧
    ∀ v, (exec (c.call init io) w).1 = .error v ↔
      (Headers.ofInit? init.headers = none ∧ v = .platformError "TypeError") ∨
      ((Headers.ofInit? init.headers).isSome = true ∧
        ∃ pattern r, c.routes.find? (·.takes init.path init.verb) = some ⟨pattern, .foreign r⟩ ∧
          r.outcome.settle = .error v) := by
  rw [exec_call_fst hl, answer]
  cases hh : Headers.ofInit? init.headers with
  | none => simp [eq_comm]
  | some headers =>
    cases hm : c.routes.find? (·.takes init.path init.verb) with
    | none => simp
    | some m =>
      obtain ⟨pattern, service⟩ := m
      cases service with
      | route s => simp
      | foreign r => simp

/-- A request is answered even where there is no route. -/
theorem exec_call_answers_no_route :
    (((World.initial 0 [] ∅).loggers.get ⟨0⟩).NeverThrows) ∧
      (exec (call ⟨[], ⟨0⟩, ⟨0⟩⟩ ⟨"GET", "/", none, .list [("a", "x")]⟩ "c")
        (World.initial 0 [] ∅)).1 = .ok .undefined := by
  have hl : ((World.initial 0 [] ∅).loggers.get ⟨0⟩).NeverThrows := fun _ => rfl
  refine ⟨hl, (exec_call_answers_iff ⟨[], ⟨0⟩, ⟨0⟩⟩ _ "c" _ hl).1.2 ⟨by decide, ?_⟩⟩
  intro pattern r h
  exact absurd h (by simp)

/-- A request with a header whose name holds a blank is not answered. -/
theorem exec_call_not_always : ¬ ∀ (c : Connection) (init : HeadInit) (io : String) (w : World),
    (w.loggers.get c.logger).NeverThrows → (exec (c.call init io) w).1 = .ok .undefined := by
  intro h
  have hcall := h ⟨[], ⟨0⟩, ⟨0⟩⟩ ⟨"GET", "/", none, .list [("bad name", "x")]⟩ "c"
    (World.initial 0 [] ∅) fun _ => rfl
  have hinvalid : (Headers.ofInit? (.list [("bad name", "x")])).isNone = true := by decide
  rw [exec_call_fst fun _ => rfl, answer, if_pos hinvalid] at hcall
  nomatch hcall

end Connection

end HttpDispatch
