import HttpDispatch.Proofs.Http.Sending
import HttpDispatch.Routing.Connection

/-!
# What a refusal comes to

A refusal is a warning, the sending of a response, and one more warning where the response is not
sent.  Why it is not sent depends on the transport alone (`Response.unsent?`), and so does what
becomes of the transport (`World.afterSending`); the two come together in `refusing_eq`.

A sink that throws ends the refusal.  If it throws on the first warning, nothing is sent
(`exec_refuse_of_fails`); if it throws on the second one, the transport has had its response, or has
failed on it (`exec_refuse_of_fails_unsent`).
-/

namespace HttpDispatch

/-- What keeps a response from being sent: its transport is closed, or it fails. -/
def Response.unsent? (t : Transport) (r : Report) (text : String) : Option Fault :=
  if t.closed then some (closedBefore r) else (t.closing text).failure.map (writeFailed r)

/-- The world after a response was sent, or was not. -/
def World.afterSending (w : World) (io text : String) : World :=
  if (w.transport io).closed then w else w.afterClosing io text

namespace World

theorem afterSending_of_closed {w : World} {io : String} (h : (w.transport io).closed = true)
    (text : String) : w.afterSending io text = w := if_pos h

theorem afterSending_of_open {w : World} {io : String} (h : (w.transport io).closed = false)
    (text : String) : w.afterSending io text = w.afterClosing io text := by
  rw [afterSending, h]
  rfl

/-- A response is sent in the same way, whatever was seen and drawn before. -/
theorem transports_afterSending_congr {w w' : World} (h : w'.transports = w.transports)
    (io text : String) : (w'.afterSending io text).transports = (w.afterSending io text).transports := by
  have ht : w'.transport io = w.transport io := by rw [transport, transport, h]
  cases hclosed : (w.transport io).closed with
  | true => rw [afterSending_of_closed (ht ▸ hclosed), afterSending_of_closed hclosed, h]
  | false =>
    rw [afterSending_of_open (ht ▸ hclosed), afterSending_of_open hclosed]
    show w'.transports.set io _ = w.transports.set io _
    rw [show w'.stage.transport io = w'.transport io from rfl, ht, h]
    rfl

/-- Sending writes no line; of a transport that fails, this is seen. -/
theorem exists_timeline_afterSending (w : World) (io text : String) :
    ∃ failure, (w.afterSending io text).timeline = w.timeline ++ Run.failures io failure := by
  cases hclosed : (w.transport io).closed with
  | true => exact ⟨none, by rw [afterSending_of_closed hclosed, Run.failures_none, List.append_nil]⟩
  | false => exact ⟨_, by rw [afterSending_of_open hclosed]; rfl⟩

@[simp] theorem clock_afterSending (w : World) (io text : String) :
    (w.afterSending io text).clock = w.clock := by
  rw [afterSending]
  split <;> rfl

@[simp] theorem loggers_afterSending (w : World) (io text : String) :
    (w.afterSending io text).loggers = w.loggers := by
  rw [afterSending]
  split <;> rfl

end World

open Run

theorem Run.exec_sendError_eq (io : String) (r : Report) (headers : Dict String) (w : World) :
    exec (sendError io r headers) w =
      (match Response.unsent? (w.transport io) r (Response.text r headers w.clock) with
        | none => .ok ()
        | some f => .error f.toValue,
        w.afterSending io (Response.text r headers w.clock)) := by
  cases hclosed : (w.transport io).closed with
  | true =>
    rw [exec_sendError_of_closed hclosed, World.afterSending_of_closed hclosed, Response.unsent?,
      if_pos hclosed]
  | false =>
    rw [exec_sendError hclosed, World.afterSending_of_open hclosed, Response.unsent?, hclosed]
    cases ((w.transport io).closing (Response.text r headers w.clock)).failure with
    | none => rfl
    | some message => rfl

namespace Connection

/-- The program that refuses a request. -/
def refuse (l : Logger) (io path method : String) (refusal : Report × Dict String) : Run Value := do
  reject l io path method refusal.1 refusal.2
  return .undefined

/-- The world after a request was refused. -/
def refusing (l : Logger) (io path method : String) (refusal : Report × Dict String) (w : World) :
    World :=
  let context := some (RouteService.requestContext method path)
  let warned := w.observing (l.emits w.clock .warn refusal.1.message context none)
  match exec (sendError io refusal.1 refusal.2) warned with
  | (.ok _, w') => w'
  | (.error v, w') =>
    w'.observing (l.emits w'.clock .warn
      ("Could not send " ++ toString refusal.1.status ++ " response: " ++ v.display) context none)

/-! ### The two warnings -/

/-- The entry of a warning about a request that is refused. -/
def warningEntry (l : Logger) (clock : Int) (path method message : String) : Entry :=
  l.entry clock .warn message (some (RouteService.requestContext method path)) none

/-- What is seen of the warning about a request that is refused. -/
def warning (l : Logger) (clock : Int) (path method message : String) : List Observation :=
  l.emits clock .warn message (some (RouteService.requestContext method path)) none

/-- The message about a response that is not sent. -/
def unsentMessage (r : Report) (f : Fault) : String :=
  "Could not send " ++ toString r.status ++ " response: " ++ f.toValue.display

/-- What is seen of the warning about a response that is not sent, if it is not. -/
def unsentWarning (l : Logger) (clock : Int) (path method : String) (r : Report) :
    Option Fault → List Observation
  | none => []
  | some f => warning l clock path method (unsentMessage r f)

/-- A refusal is a warning, the sending of the response, and where this fails one more warning. -/
theorem refusing_eq (l : Logger) (io path method : String) (refusal : Report × Dict String)
    (w : World) :
    let text := Response.text refusal.1 refusal.2 w.clock
    refusing l io path method refusal w =
      ((w.observing (warning l w.clock path method refusal.1.message)).afterSending io
        text).observing
        (unsentWarning l w.clock path method refusal.1
          (Response.unsent? (w.transport io) refusal.1 text)) := by
  intro text
  have hsend := exec_sendError_eq io refusal.1 refusal.2
    (w.observing (warning l w.clock path method refusal.1.message))
  rw [World.transport_observing, World.clock_observing] at hsend
  simp only [warning] at hsend
  simp only [refusing, hsend]
  cases Response.unsent? (w.transport io) refusal.1 text with
  | none => exact (World.observing_nil _).symm
  | some f =>
    simp only [World.clock_afterSending]
    rfl

/-! ### Running a refusal -/

section Refusing

variable {l : Logger} {io path method : String} {refusal : Report × Dict String} {w : World}

/-- After its first warning a refusal sends the response, and where this fails it warns again. -/
theorem exec_refuse_warned
    (hfirst : l.fails? (warningEntry l w.clock path method refusal.1.message) = none) :
    let text := Response.text refusal.1 refusal.2 w.clock
    exec (refuse l io path method refusal) w =
      exec (do
          match Response.unsent? (w.transport io) refusal.1 text with
          | none => pure ()
          | some f =>
            l.warn (unsentMessage refusal.1 f) (some (RouteService.requestContext method path))
          return .undefined)
        ((w.observing (warning l w.clock path method refusal.1.message)).afterSending io text) := by
  intro text
  let warned := w.observing (warning l w.clock path method refusal.1.message)
  have hwarn : exec (l.warn refusal.1.message (some (RouteService.requestContext method path))) w =
      (.ok (), warned) := Logger.exec_log_of_not_fails hfirst
  have hattempt := exec_attempt (sendError io refusal.1 refusal.2) warned
  rw [exec_sendError_eq, World.transport_observing, World.clock_observing] at hattempt
  rw [refuse, reject, exec_bind, exec_bind_ok hwarn, exec_bind_ok hattempt, ← exec_bind]
  cases Response.unsent? (w.transport io) refusal.1 text with
  | none => rfl
  | some f => rfl

/-- The second warning bears the same time as the first one. -/
theorem fails?_sent {message text : String} {seen : List Observation} {v? : Option Value}
    (h : l.fails? (warningEntry l w.clock path method message) = v?) :
    l.fails? (warningEntry l ((w.observing seen).afterSending io text).clock path method message) =
      v? := by
  rw [World.clock_afterSending]
  exact h

/-- A refusal whose warnings get through never fails: what goes wrong on the way to the transport
becomes the second of them. -/
theorem exec_refuse
    (hfirst : l.fails? (warningEntry l w.clock path method refusal.1.message) = none)
    (hsecond : ∀ f, Response.unsent? (w.transport io) refusal.1
        (Response.text refusal.1 refusal.2 w.clock) = some f →
      l.fails? (warningEntry l w.clock path method (unsentMessage refusal.1 f)) = none) :
    exec (refuse l io path method refusal) w =
      (.ok .undefined, refusing l io path method refusal w) := by
  rw [exec_refuse_warned hfirst, refusing_eq]
  cases hunsent : Response.unsent? (w.transport io) refusal.1
      (Response.text refusal.1 refusal.2 w.clock) with
  | none => exact congrArg _ (World.observing_nil _).symm
  | some f =>
    have hlate := hsecond f hunsent
    refine exec_bind_ok (a := ()) ((Logger.exec_log_of_not_fails (fails?_sent hlate)).trans ?_)
    rw [World.clock_afterSending]
    rfl

/-- A refusal that cannot be logged is not sent either. -/
theorem exec_refuse_of_fails {v : Value}
    (hfirst : l.fails? (warningEntry l w.clock path method refusal.1.message) = some v) :
    exec (refuse l io path method refusal) w = (.error v, w) := by
  have hwarn : exec (l.warn refusal.1.message (some (RouteService.requestContext method path))) w =
      (.error v, w) := Logger.exec_log_of_fails hfirst
  have hreject : exec (reject l io path method refusal.1 refusal.2) w = (.error v, w) :=
    exec_bind_error hwarn
  exact exec_bind_error hreject

/-- Where it cannot be logged that the response was not sent, the refusal fails after all. -/
theorem exec_refuse_of_fails_unsent {v : Value} {f : Fault}
    (hfirst : l.fails? (warningEntry l w.clock path method refusal.1.message) = none)
    (hunsent : Response.unsent? (w.transport io) refusal.1
      (Response.text refusal.1 refusal.2 w.clock) = some f)
    (hsecond :
      l.fails? (warningEntry l w.clock path method (unsentMessage refusal.1 f)) = some v) :
    exec (refuse l io path method refusal) w =
      (.error v, (w.observing (warning l w.clock path method refusal.1.message)).afterSending io
        (Response.text refusal.1 refusal.2 w.clock)) := by
  rw [exec_refuse_warned hfirst, hunsent]
  exact exec_bind_error (Logger.exec_log_of_fails (fails?_sent hsecond))

theorem exec_refuse_of_neverThrows (hl : l.NeverThrows) :
    exec (refuse l io path method refusal) w =
      (.ok .undefined, refusing l io path method refusal w) :=
  exec_refuse (Logger.fails?_of_throws? (hl _)) fun _ _ => Logger.fails?_of_throws? (hl _)

end Refusing

/-- A refusal is a line, the sending of a response, and perhaps another line. -/
theorem exists_refusing_eq (l : Logger) (io path method : String) (refusal : Report × Dict String)
    (w : World) : ∃ line more, (∀ o ∈ line, o.isLine = true) ∧ (∀ o ∈ more, o.isLine = true) ∧
      refusing l io path method refusal w =
        (exec (sendError io refusal.1 refusal.2) (w.observing line)).2.observing more := by
  let context := some (RouteService.requestContext method path)
  let line := l.emits w.clock .warn refusal.1.message context none
  have hlines : ∀ clock message, ∀ o ∈ l.emits clock .warn message context none,
      o.isLine = true := fun _ _ _ ho => Logger.isLine_of_mem_emits ho
  cases hs : exec (sendError io refusal.1 refusal.2) (w.observing line) with
  | mk result w' =>
    cases result with
    | ok =>
      refine ⟨line, [], hlines _ _, fun _ h => absurd h List.not_mem_nil, ?_⟩
      rw [hs, World.observing_nil]
      simp only [refusing, context, line, hs]
    | error v =>
      refine ⟨line, _, hlines _ _, hlines w'.clock
        ("Could not send " ++ toString refusal.1.status ++ " response: " ++ v.display), ?_⟩
      rw [hs]
      simp only [refusing, context, line, hs]

end Connection

end HttpDispatch
