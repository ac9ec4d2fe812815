import HttpDispatch.Http.Response
import HttpDispatch.Proofs.Routing.Handling

/-!
# Sending an error

Sending an error either finds its transport closed, and then does nothing but throw, or writes the
whole response at once, ends the transport and lets it settle.  It throws again where the transport
fails on that.
-/

namespace HttpDispatch

namespace Transport

/-- A transport that is given a text and ended. -/
def closing (t : Transport) (text : String) : Transport := (t.write text).finish

/-- Whether the transport is open and takes a text without failing. -/
structure Accepts (t : Transport) : Prop where
  responsive : t.responsive = true
  kind : ∀ message, t.kind ≠ .failsWrite message

/-- What was written to the transport and will be passed on. -/
def written (t : Transport) : String := t.output ++ t.waiting.getD ""

theorem written_write {t : Transport} (h : t.Accepts) (text : String) :
    (t.write text).written = t.written ++ text := by
  obtain ⟨kind, output, waiting, ended, destroyed, failure⟩ := t
  rw [write, if_pos h.responsive]
  cases kind with
  | failsWrite message => exact absurd rfl (h.kind message)
  | direct | slow | failsEnd =>
    cases waiting with
    | none => simp [written]
    | some behind => simp [written, String.append_assoc]

@[simp] theorem written_finish (t : Transport) : t.finish.written = t.written := by
  rw [finish]
  split
  · split <;> rfl
  · rfl

theorem output_settle (t : Transport) : t.settle.output = t.written := rfl

end Transport

namespace Stage

@[simp] theorem transport_onTransport (s : Stage) (io : String) (f : Transport → Transport) :
    (s.onTransport io f).transport io = f (s.transport io) := by
  rw [transport, onTransport, Dict.get?_set_self]
  rfl

theorem onTransport_onTransport (s : Stage) (io : String) (f g : Transport → Transport) :
    (s.onTransport io f).onTransport io g = s.onTransport io fun t => g (f t) := by
  rw [onTransport, transport_onTransport, onTransport, onTransport, Dict.set_set]

end Stage

namespace World

/-- The world after a transport was given a text, was ended, and has settled. -/
def afterClosing (w : World) (io text : String) : World :=
  (w.onStage (w.stage.onTransport io fun t => (t.closing text).settle)).observing
    (Run.failures io ((w.transport io).closing text).failure)

theorem transport_afterClosing (w : World) (io text : String) :
    (w.afterClosing io text).transport io = ((w.transport io).closing text).settle :=
  w.stage.transport_onTransport io fun t => (t.closing text).settle

end World

@[simp] theorem Run.requests_failures (io : String) (failure : Option String) :
    Observation.requests (failures io failure) = [] := by
  cases failure <;> rfl

namespace Run

theorem exec_onTransport (io : String) (f : Transport → Transport) (w : World) :
    exec (onTransport io f) w = (.ok (), w.onStage (w.stage.onTransport io f)) := rfl

theorem exec_sendError_of_closed {io : String} {w : World} (h : (w.transport io).closed = true)
    (r : Report) (headers : Dict String) :
    exec (sendError io r headers) w = (.error (Response.closedBefore r).toValue, w) := by
  rw [sendError, exec_bind_ok (exec_get w), if_pos h]
  rfl

theorem exec_sendError {io : String} {w : World} (h : (w.transport io).closed = false)
    (r : Report) (headers : Dict String) :
    exec (sendError io r headers) w =
      (match ((w.transport io).closing (Response.text r headers w.clock)).failure with
        | none => .ok ()
        | some message => .error (Response.writeFailed r message).toValue,
        w.afterClosing io (Response.text r headers w.clock)) := by
  let f : Transport → Transport := fun t => t.closing (Response.text r headers w.clock)
  let w₁ := w.onStage (w.stage.onTransport io f)
  have ht : w₁.transport io = f (w.transport io) := w.stage.transport_onTransport io f
  have hstage : w₁.stage.onTransport io (·.settle) =
      w.stage.onTransport io fun t => (f t).settle := Stage.onTransport_onTransport _ io f _
  have hsettle : exec (settleTransport io) w₁ =
      (.ok (f (w.transport io)).failure, w.afterClosing io (Response.text r headers w.clock)) := by
    rw [exec_settleTransport, ht, hstage]
    rfl
  rw [sendError, exec_bind_ok (exec_get w), if_neg (by rw [h]; decide), exec_bind_ok (exec_now w)]
  show exec (onTransport io f >>= _) w = _
  rw [exec_bind_ok (exec_onTransport io f w)]
  cases hf : ((w.transport io).closing (Response.text r headers w.clock)).failure with
  | none =>
    rw [show (f (w.transport io)).failure = none from hf] at hsettle
    rw [exec_bind_ok hsettle]
    rfl
  | some message =>
    rw [show (f (w.transport io)).failure = some message from hf] at hsettle
    rw [exec_bind_ok hsettle]
    rfl

/-- A transport that accepts a response has it, in one piece and last. -/
theorem output_sendError {io : String} {w : World} (h : (w.transport io).Accepts) (r : Report)
    (headers : Dict String) :
    ((exec (sendError io r headers) w).2.transport io).output =
      (w.transport io).written ++ Response.text r headers w.clock := by
  have hopen : (w.transport io).closed = false := by
    have hr := h.responsive
    rw [Transport.responsive, Bool.and_eq_true, Bool.not_eq_true'] at hr
    exact hr.1
  rw [exec_sendError hopen, World.transport_afterClosing, Transport.output_settle,
    Transport.closing, Transport.written_finish, Transport.written_write h]

theorem serves_sendError (io : String) (r : Report) (headers : Dict String) (w : World) :
    (exec (sendError io r headers) w).2.handlers = w.handlers ∧
      w.Serves (exec (sendError io r headers) w).2 [] := by
  by_cases hclosed : (w.transport io).closed = true
  · rw [exec_sendError_of_closed hclosed]
    exact ⟨rfl, .refl w⟩
  · rw [exec_sendError (eq_false_of_ne_true hclosed)]
    exact ⟨rfl, _, rfl, requests_failures _ _⟩

end Run

end HttpDispatch
