import HttpDispatch.Proofs.Http.Ageing
import HttpDispatch.Proofs.Http.Framing
import HttpDispatch.Proofs.Routing.Order
import HttpDispatch.Proofs.Routing.Spelling

/-!
# What the sender of a refused request receives

That a connection refuses a request is said by the program that it runs
(`Connection.RefusesMethod`, `Connection.RefusesPath`).  Here it is said by what comes of this
program where nothing stands in its way, that is with a logger that never throws and on a transport
that accepts a response: the call succeeds, a warning is logged before anything else happens, and
the receiver reads a head of known lines (`Connection.Refused`).

Main statements: `Connection.RefusesMethod.received` and `Connection.RefusesPath.received`.  A
connection that decides by some token refuses in one of these two ways what no route takes
(`Connection.DecidesBy.refuses`).
-/

namespace HttpDispatch

namespace Connection

open Run

/-- What a call comes to that refuses a request: `called`.  It succeeds, with this warning of the
logger first, and the transport has a response with a head of these lines, which may tell the length
of the body.  If the transport can be ended, nothing else is seen. -/
structure Refused (l : Logger) (io path method : String) (w : World) (message : String)
    (head : Nat → List String) (called : Except Value Value × World) : Prop where
  answered : called.1 = .ok .undefined
  received : ∃ (text : String) (front body : List UInt8) (later : List Observation),
    called.2.timeline = w.timeline ++ (l.emits w.clock .warn message
      (some (.obj [("method", .str method), ("path", .str path)])) none ++ later) ∧
    (¬ (w.transport io).FailsEnding text → later = []) ∧
    (called.2.transport io).output = (w.transport io).written ++ text ∧
    splitHead? (octets text) = some (front, body) ∧
    lines front = (head body.length).map octets

/-- Sending to an open transport leaves no more to be seen than how the transport fails. -/
theorem timeline_refusing {io : String} {w : World} (hopen : (w.transport io).closed = false)
    (l : Logger) (path method : String) (refusal : Report × Dict String) :
    let text := Response.text refusal.1 refusal.2 w.clock
    let failure := ((w.transport io).closing text).failure
    (refusing l io path method refusal w).timeline =
      w.timeline ++ (warning l w.clock path method refusal.1.message ++
        (failures io failure ++ unsentWarning l w.clock path method refusal.1
          (failure.map (Response.writeFailed refusal.1)))) := by
  intro text failure
  have hunsent : Response.unsent? (w.transport io) refusal.1 text =
      failure.map (Response.writeFailed refusal.1) := by
    rw [Response.unsent?, hopen]
    rfl
  let warned := w.observing (warning l w.clock path method refusal.1.message)
  rw [refusing_eq, hunsent, World.timeline_observing,
    World.afterSending_of_open (w := warned) hopen, World.afterClosing, World.timeline_observing,
    ← List.append_assoc, ← List.append_assoc]
  rfl

theorem refused_refuse {l : Logger} {io path method : String} {w : World} {head : Nat → List String}
    (refusal : Report × Dict String) (ha : (w.transport io).Accepts) (hl : l.NeverThrows)
    (hheaders : ∀ e ∈ refusal.2.entries, OneLine e.1 ∧ OneLine e.2)
    (hhead : ∀ body, Response.headLines refusal.1 refusal.2 body = head (octets body).length) :
    Refused l io path method w refusal.1.message head
      (exec (refuse l io path method refusal) w) := by
  let text := Response.text refusal.1 refusal.2 w.clock
  obtain ⟨hopen, hwriting⟩ : (w.transport io).closed = false ∧
      ¬ (w.transport io).FailsWriting text := Transport.accepts_iff.1 ha
  obtain ⟨front, hsplit, hlines⟩ :=
    Response.exists_splitHead?_text (r := refusal.1) hheaders w.clock
  rw [exec_refuse_of_neverThrows hl]
  refine ⟨rfl, text, front, _, _, timeline_refusing hopen l path method refusal, fun hending => ?_,
    output_refusing ha l path method refusal, hsplit, hhead _ ▸ hlines⟩
  have hfailure : ((w.transport io).closing text).failure = none := by
    cases hf : ((w.transport io).closing text).failure with
    | none => rfl
    | some message =>
      exact absurd ⟨Option.not_isSome_iff_eq_none.1 hwriting, by rw [hf]; rfl⟩ hending
  show failures io ((w.transport io).closing text).failure ++ _ = []
  rw [hfailure]
  rfl

/-- What is refused in a world from which something was drawn is refused in the world itself. -/
theorem Refused.of_drawing {l : Logger} {io path method message : String} {w : World}
    {head : Nat → List String} {called : Except Value Value × World} {n : Nat}
    (h : Refused l io path method (w.drawing n) message head called) :
    Refused l io path method w message head called := ⟨h.answered, h.received⟩

section

variable {l : Logger} {io : String} {w : World}

theorem refused_notAllowedReport {allowed : List String} (path method traceId : String)
    (hallowed : ∀ x ∈ allowed, OneLine x) (ha : (w.transport io).Accepts) (hl : l.NeverThrows) :
    Refused l io path method w ("Method " ++ method ++ " not allowed for " ++ path)
      (fun length => ["HTTP/1.1 405 Method Not Allowed", "content-type: application/json",
        "content-length: " ++ toString length, "allow: " ++ String.intercalate ", " allowed])
      (exec (refuse l io path method (notAllowedReport path method traceId allowed,
        Dict.ofList [("allow", String.intercalate ", " allowed)])) w) :=
  let refusal := (notAllowedReport path method traceId allowed,
    Dict.ofList [("allow", String.intercalate ", " allowed)])
  refused_refuse refusal ha hl (oneLine_allow hallowed) fun body =>
    headLines_notAllowedReport path method traceId body allowed

theorem refused_noRouteReport (path method traceId : String) (ha : (w.transport io).Accepts)
    (hl : l.NeverThrows) :
    Refused l io path method w ("No route for " ++ path)
      (fun length => ["HTTP/1.1 404 Not Found", "content-type: application/json",
        "content-length: " ++ toString length])
      (exec (refuse l io path method (noRouteReport path method traceId, ∅)) w) :=
  refused_refuse (noRouteReport path method traceId, ∅) ha hl
    (fun _ he => absurd he List.not_mem_nil) fun body =>
      headLines_noRouteReport path method traceId body

end

/-! ### Connections -/

variable {c : Connection} {init : HeadInit} {headers : Headers} {io : String} {w : World}

/-- Where a method is not allowed, the log says so, and the receiver reads the methods that are. -/
theorem RefusesMethod.received {allowed : List String} (h : c.RefusesMethod init headers allowed)
    (hallowed : ∀ x ∈ allowed, OneLine x) (ha : (w.transport io).Accepts)
    (hl : (w.loggers.get c.logger).NeverThrows) :
    Refused ((w.loggers.get c.logger).child (w.traceFor (headers.get? RequestHead.traceHeader)))
      io init.path init.verb w ("Method " ++ init.verb ++ " not allowed for " ++ init.path)
      (fun length => ["HTTP/1.1 405 Method Not Allowed", "content-type: application/json",
        "content-length: " ++ toString length, "allow: " ++ String.intercalate ", " allowed])
      (exec (c.call init io) w) := by
  let given := headers.get? RequestHead.traceHeader
  have hrefused := refused_notAllowedReport (w := w.drawing (World.drawsFor given)) init.path
    init.verb (w.traceIdFor given) hallowed ha (hl.child (w.traceFor given))
  rw [h io w]
  exact hrefused.of_drawing

/-- Where there is no route, the log says so, and the receiver reads that nothing was found. -/
theorem RefusesPath.received (h : c.RefusesPath init headers) (ha : (w.transport io).Accepts)
    (hl : (w.loggers.get c.logger).NeverThrows) :
    Refused ((w.loggers.get c.logger).child (w.traceFor (headers.get? RequestHead.traceHeader)))
      io init.path init.verb w ("No route for " ++ init.path)
      (fun length => ["HTTP/1.1 404 Not Found", "content-type: application/json",
        "content-length: " ++ toString length])
      (exec (c.call init io) w) := by
  let given := headers.get? RequestHead.traceHeader
  have hrefused := refused_noRouteReport (w := w.drawing (World.drawsFor given)) init.path init.verb
    (w.traceIdFor given) ha (hl.child (w.traceFor given))
  rw [h io w]
  exact hrefused.of_drawing

/-- What no route takes by the token that decides is refused, because of its method if a route
covers its path, and otherwise because of the path. -/
theorem DecidesBy.refuses {token : String} (h : c.DecidesBy init headers token)
    (hnone : c.routes.find? (·.takes init.path token) = none) :
    if c.routes.any (·.covers init.path) then
      c.RefusesMethod init headers (methodsAt init.path c.routes).eraseDups
    else c.RefusesPath init headers := by
  split
  · next hany =>
    intro io w given
    rw [h.refused hnone io w, refusal, if_pos hany]
  · next hany =>
    intro io w given
    rw [h.refused hnone io w, refusal, if_neg hany]

end Connection

end HttpDispatch
