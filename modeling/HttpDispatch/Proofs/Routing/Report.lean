import HttpDispatch.Proofs.Routing.Handling

/-!
# What becomes of a failure

A service runs its handler and answers normally, whether the handler returns, throws, or promises
and breaks its promise.  A success leaves no line.  A failure leaves one entry at the highest level,
so that no threshold keeps it back, and where the logger throws on it, one message on the error
console instead.

The handler may be any program, and it may fail with anything that is reported by a text
(`Thrown.ReportedBy`).  What cannot be displayed is another matter: the report asks for the text
before it is ready to catch anything, so the call fails with what that throws.

Which outcomes are failures is said twice, by `Outcome.FailsWith` and by the function that the
service runs, `Outcome.settle`.  Two handlers that differ in how they fail, by throwing or by a
promise, look the same from outside (`sameSight_exec_call`).

Main statement: `exec_call_normalises`.
-/

namespace HttpDispatch

/-- What an entry about the failure of a handler on a request says: the text by which the failure is
reported, and the name under which it is logged. -/
structure Entry.TellsFailure (e : Entry) (req : Request) (name text : String) : Prop where
  level : e.level = .error
  message : e.message = "Error in request handler: " ++ text
  context : e.context = some (.obj [("method", .str req.method), ("path", .str req.path)])
  error : ∃ stack, e.error = some ⟨some name, some text, stack⟩

/-! ### Which outcomes are failures -/

namespace Outcome

variable {ε : Type} {o : Outcome ε}

/-- A handler succeeds if it returns, if its promise is fulfilled, or if the object that it returns
has nothing to ask or answers with a success first. -/
inductive Succeeds : Outcome ε → Prop
  | returned (v : Value) : Succeeds (.returned v)
  | fulfilled (v : Value) : Succeeds (.fulfilled v)
  | resolves (v : Value) : Succeeds (.deferred (.resolves v))
  | resolvesThenRaises (e : ε) : Succeeds (.deferred (.resolvesThenRaises e))
  | inert : Succeeds (.deferred .inert)

/-- A handler fails if it throws, if its promise is rejected, or if the object that it returns
answers with a failure, throws, or cannot be asked. -/
inductive FailsWith : Outcome ε → ε → Prop
  | raised (e : ε) : FailsWith (.raised e) e
  | rejected (e : ε) : FailsWith (.rejected e) e
  | rejects (e : ε) : FailsWith (.deferred (.rejects e)) e
  | raises (e : ε) : FailsWith (.deferred (.raises e)) e
  | unreadable (e : ε) : FailsWith (.deferred (.unreadable e)) e

theorem Succeeds.settle (h : o.Succeeds) : ∃ v, o.settle = .ok v := by
  cases h <;> exact ⟨_, rfl⟩

theorem FailsWith.settle {e : ε} (h : o.FailsWith e) : o.settle = .error e := by
  cases h <;> rfl

theorem FailsWith.map {ε' : Type} {e : ε} (h : o.FailsWith e) (f : ε → ε') :
    (o.map f).FailsWith (f e) := by
  cases h <;> constructor

end Outcome

/-! ### Handlers that differ in their outcomes -/

/-- Two worlds that nobody can tell apart by what was seen, what was sent and what handlers
counted in the state. -/
structure World.SameSight (w w' : World) : Prop where
  timeline : w.timeline = w'.timeline
  transports : w.transports = w'.transports
  states : w.states = w'.states

/-- The handler with other outcomes. -/
def Handler.withOutcomes (h : Handler) (outcomes : List (Outcome Value)) : Handler :=
  { h with script := { h.script with outcomes } }

/-- The world in which a handler has other outcomes. -/
def World.withOutcomes (w : World) (r : Ref Handler) (outcomes : List (Outcome Value)) : World :=
  { w with handlers := w.handlers.modify r (·.withOutcomes outcomes) }

namespace World

/-- A handler with other outcomes is the same but for these. -/
theorem taking_withOutcomes {β : Type} {g : Handler → β}
    (hg : ∀ h outcomes, g (h.withOutcomes outcomes) = g h) (w : World) (r : Ref Handler)
    (outcomes : List (Outcome Value)) :
    g ((w.withOutcomes r outcomes).taking r) = g (w.taking r) := by
  have hcomm : (w.withOutcomes r outcomes).handlers.modify r Handler.tick =
      (w.handlers.modify r Handler.tick).modify r (·.withOutcomes outcomes) :=
    Store.modify_comm (f := fun h : Handler => h.withOutcomes outcomes) (fun _ => rfl) _ r
  rw [taking, hcomm, taking]
  exact Store.apply_get_modify (fun h => hg h outcomes) _ _ _

theorem performing_withOutcomes (w : World) (r : Ref Handler) (outcomes : List (Outcome Value))
    (req : Request) : (w.withOutcomes r outcomes).performing r req = w.performing r req := by
  rw [performing, taking_withOutcomes (g := fun h => h.script.actions) (fun _ _ => rfl)]
  rfl

theorem seenHandling_withOutcomes (w : World) (r : Ref Handler) (outcomes : List (Outcome Value))
    (req : Request) : (w.withOutcomes r outcomes).seenHandling r req = w.seenHandling r req := by
  rw [seenHandling, performing_withOutcomes,
    taking_withOutcomes (g := fun h => h.script.name) (fun _ _ => rfl),
    taking_withOutcomes (g := fun h => h.count) (fun _ _ => rfl)]
  rfl

/-- How a handler leaves a request makes no difference to what it does to it. -/
theorem sameSight_afterHandling (w : World) (r : Ref Handler) (os os' : List (Outcome Value))
    (req : Request) :
    ((w.withOutcomes r os).afterHandling r req).SameSight
      ((w.withOutcomes r os').afterHandling r req) := by
  have hp : (w.withOutcomes r os).performing r req = (w.withOutcomes r os').performing r req := by
    rw [performing_withOutcomes, performing_withOutcomes]
  refine ⟨?_, ?_, ?_⟩
  · simp only [timeline_afterHandling, seenHandling_withOutcomes]
    rfl
  · exact congrArg (fun p => (p.2.onTransport req.io (·.settle)).transports) hp
  · exact congrArg (fun p => p.2.states) hp

theorem SameSight.observing {w w' : World} (h : w.SameSight w') (seen : List Observation) :
    (w.observing seen).SameSight (w'.observing seen) :=
  ⟨congrArg (· ++ seen) h.timeline, h.transports, h.states⟩

end World

namespace RouteService

open Run

/-! ### The report about a failure -/

/-- The entry about a failure with this text, of which there is this to say. -/
def reportEntry (l : Logger) (clock : Int) (req : Request) (text : String)
    (summary : ErrorSummary) : Entry :=
  l.entry clock .error (failureMessage text) (some (requestContext req.method req.path))
    (some summary)

/-- What is seen of the report about a failure with this text: the entry, unless there is nothing
to say of it or the sink throws. -/
def seenTelling (l : Logger) (clock : Int) (req : Request) (text : String) :
    Except Value ErrorSummary → List Observation
  | .error thrown => [.complained (failureMessage text) thrown]
  | .ok summary =>
    match l.throws? (reportEntry l clock req text summary) with
    | none => l.shows (reportEntry l clock req text summary)
    | some thrown => [.complained (failureMessage text) thrown]

/-- The report about a failure that is displayed never fails. -/
theorem exec_report (s : RouteService) (req : Request) {t : Thrown} {text : String}
    (h : t.text = .ok text) (w : World) :
    exec (s.report req t) w =
      (.ok (), w.observing (seenTelling (w.loggers.get s.logger) w.clock req text
        (t.summary .handlerFailed (some req.traceId)))) := by
  have htext : exec (ofExcept t.text) w = (.ok text, w) := by rw [exec_ofExcept, h]
  rw [report, exec_bind_ok htext, exec_bind_ok (exec_logger s.logger w)]
  generalize w.loggers.get s.logger = l
  generalize hsummary : t.summary .handlerFailed (some req.traceId) = result
  have hasking : exec (ofExcept result) w = (result, w) := exec_ofExcept result w
  let context := some (requestContext req.method req.path)
  let log : Run Unit := do
    let summary ← ofExcept result
    l.error (failureMessage text) (some summary) context
  have hattempt := exec_attempt log w
  cases result with
  | error thrown =>
    have hlog : exec log w = (.error thrown, w) := exec_bind_error hasking
    rw [hlog] at hattempt
    exact exec_bind_ok hattempt
  | ok summary =>
    have hpasses : Level.passes .error l.level = true := Level.passes_error l.level
    have hlog : exec log w =
        exec (l.error (failureMessage text) (some summary) context) w := exec_bind_ok hasking
    rw [seenTelling]
    cases hthrows : l.throws? (reportEntry l w.clock req text summary) with
    | none =>
      have hshown : exec (l.error (failureMessage text) (some summary) context) w =
          (.ok (), w.observing (l.shows (reportEntry l w.clock req text summary))) := by
        rw [Logger.error, Logger.exec_log hthrows, Logger.emits, if_pos hpasses]
        rfl
      rw [hlog, hshown] at hattempt
      exact exec_bind_ok hattempt
    | some thrown =>
      have hlost : exec (l.error (failureMessage text) (some summary) context) w =
          (.error thrown, w) := Logger.exec_log_of_throws hpasses hthrows
      rw [hlog, hlost] at hattempt
      exact exec_bind_ok hattempt

/-- A failure that cannot be displayed is not reported, and this is not caught. -/
theorem exec_report_of_text_error (s : RouteService) (req : Request) {t : Thrown} {v : Value}
    (h : t.text = .error v) (w : World) : exec (s.report req t) w = (.error v, w) := by
  have htext : exec (ofExcept t.text) w = (.error v, w) := by rw [exec_ofExcept, h]
  exact exec_bind_error htext

/-- The entry about the failure of a handler with a value. -/
def failureEntry (l : Logger) (clock : Int) (req : Request) (v : Value) : Entry :=
  reportEntry l clock req v.display
    (Fault.ofValue v .handlerFailed (some req.traceId)).toValue.summary

theorem tellsFailure_failureEntry (l : Logger) (clock : Int) (req : Request) (v : Value) :
    (failureEntry l clock req v).TellsFailure req "FramedError" v.display := by
  refine ⟨rfl, rfl, rfl, ?_⟩
  have hm := Fault.message_ofValue v .handlerFailed (some req.traceId)
  exact ⟨some (Fault.ofValue v .handlerFailed (some req.traceId)).report.stack,
    congrArg (fun m => some (ErrorSummary.mk (some "FramedError") (some m) _)) hm⟩

/-- What is seen of the report about a value. -/
def seenReport (l : Logger) (clock : Int) (req : Request) (v : Value) : List Observation :=
  match l.throws? (failureEntry l clock req v) with
  | none => l.shows (failureEntry l clock req v)
  | some thrown => [.complained (failureMessage v.display) thrown]

theorem exec_report_value (s : RouteService) (req : Request) (v : Value) (w : World) :
    exec (s.report req (.value v)) w =
      (.ok (), w.observing (seenReport (w.loggers.get s.logger) w.clock req v)) :=
  exec_report s req (Thrown.reportedBy_value v).text w

/-! ### A call -/

/-- A service runs the handler once, and then it reports at most one failure. -/
theorem exec_callWith (s : RouteService) {handle : Request → Run (Outcome Thrown)} {req : Request}
    {o : Outcome Thrown} {w w₁ : World} (h : exec (handle req) w = (.ok o, w₁)) :
    exec (s.callWith handle req) w =
      match o.settle with
      | .ok _ => (.ok (), w₁)
      | .error t => exec (s.report req t) w₁ := by
  rw [callWith, exec_bind_ok h]
  cases o.settle with
  | ok v => rfl
  | error t => rfl

theorem exec_handle (s : RouteService) (req : Request) (w : World) :
    exec (s.handle req) w =
      (.ok ((w.outcomeOf s.handler req).map .value), w.afterHandling s.handler req) :=
  exec_bind_ok (exec_invoke s.handler req w)

/-- What is seen of a service after its handler: nothing, or the report about a failure. -/
def seenAfter (l : Logger) (clock : Int) (req : Request) : Except Value Value → List Observation
  | .ok _ => []
  | .error v => seenReport l clock req v

theorem isLine_of_mem_seenAfter {l : Logger} {clock : Int} {req : Request}
    {result : Except Value Value} {o : Observation} (h : o ∈ seenAfter l clock req result) :
    o.isLine = true := by
  cases result with
  | ok v => simp [seenAfter] at h
  | error v =>
    rw [seenAfter, seenReport] at h
    cases ht : l.throws? (failureEntry l clock req v) with
    | none =>
      rw [ht] at h
      exact Logger.isLine_of_mem_shows h
    | some thrown =>
      rw [ht] at h
      exact List.mem_singleton.1 h ▸ rfl

/-- The handler of a service fails with values, so that a call always answers. -/
theorem exec_call (s : RouteService) (req : Request) (w : World) :
    exec (s.call req) w =
      (.ok (), (w.afterHandling s.handler req).observing
        (seenAfter (w.loggers.get s.logger) w.clock req (w.outcomeOf s.handler req).settle)) := by
  rw [call, exec_callWith s (exec_handle s req w), Outcome.settle_map]
  cases (w.outcomeOf s.handler req).settle with
  | ok v =>
    rw [seenAfter, World.observing_nil]
    rfl
  | error v => exact exec_report_value s req v (w.afterHandling s.handler req)

/-- What is seen of a service depends on what the outcome of its handler settles to, and not on
how the handler puts it. -/
theorem sameSight_exec_call (s : RouteService) (req : Request) (w : World)
    {os os' : List (Outcome Value)}
    (h : ((w.withOutcomes s.handler os).outcomeOf s.handler req).settle =
      ((w.withOutcomes s.handler os').outcomeOf s.handler req).settle) :
    (exec (s.call req) (w.withOutcomes s.handler os)).2.SameSight
      (exec (s.call req) (w.withOutcomes s.handler os')).2 := by
  rw [exec_call, exec_call, h]
  exact (World.sameSight_afterHandling w s.handler os os' req).observing _

/-! ### Every outcome -/

/-- What a call comes to whose handler left this outcome and this world: `called`.

After a success nothing more happens.  After a failure that is reported by a text, and whose label
can be asked for, the logger shows one entry, whatever its threshold, or, if its sink throws on that
entry, one message goes to the error console; and so it does if asking for the label throws. -/
structure Normalises (s : RouteService) (req : Request) (o : Outcome Thrown) (w₁ : World)
    (called : Except Value Unit × World) : Prop where
  succeeded : o.Succeeds → called = (.ok (), w₁)
  told : ∀ t text name, o.FailsWith t → t.ReportedBy text → t.label = .ok name →
    ∃ e : Entry, e.TellsFailure req name text ∧
      ((w₁.loggers.get s.logger).throws? e = none →
        called = (.ok (), w₁.observing ((w₁.loggers.get s.logger).shows e))) ∧
      ∀ thrown, (w₁.loggers.get s.logger).throws? e = some thrown →
        called = (.ok (), w₁.observing [.complained ("Error in request handler: " ++ text) thrown])
  untold : ∀ t text thrown, o.FailsWith t → t.ReportedBy text → t.label = .error thrown →
      called = (.ok (), w₁.observing [.complained ("Error in request handler: " ++ text) thrown])

section

variable {s : RouteService} {req : Request} {w w₁ : World}

/-- A handler that fails with a value is told of under the name of this library. -/
theorem Normalises.told_value {o : Outcome Value} {v : Value} {called : Except Value Unit × World}
    (h : s.Normalises req (o.map .value) w₁ called) (hfails : o.FailsWith v) :
    ∃ e : Entry, e.TellsFailure req "FramedError" v.display ∧
      ((w₁.loggers.get s.logger).throws? e = none →
        called = (.ok (), w₁.observing ((w₁.loggers.get s.logger).shows e))) ∧
      ∀ thrown, (w₁.loggers.get s.logger).throws? e = some thrown →
        called = (.ok (), w₁.observing
          [.complained ("Error in request handler: " ++ v.display) thrown]) :=
  h.told (.value v) v.display "FramedError" (hfails.map Thrown.value) (Thrown.reportedBy_value v)
    (Thrown.label_value v)

/-- After a failure that is reported by a text, what is seen depends on its label. -/
theorem exec_callWith_of_failsWith {handle : Request → Run (Outcome Thrown)} {o : Outcome Thrown}
    {t : Thrown} {text : String} (h : exec (handle req) w = (.ok o, w₁)) (hfails : o.FailsWith t)
    (htext : t.ReportedBy text) :
    ∃ stack, exec (s.callWith handle req) w =
      (.ok (), w₁.observing (seenTelling (w₁.loggers.get s.logger) w₁.clock req text
        (t.label.map fun name => ⟨some name, some text, stack⟩))) := by
  obtain ⟨stack, hsummary⟩ := htext.exists_summary_eq .handlerFailed (some req.traceId)
  refine ⟨stack, ?_⟩
  rw [exec_callWith s h, hfails.settle, ← hsummary]
  exact exec_report s req htext.text w₁

theorem normalises_exec_callWith {handle : Request → Run (Outcome Thrown)} {o : Outcome Thrown}
    (h : exec (handle req) w = (.ok o, w₁)) :
    s.Normalises req o w₁ (exec (s.callWith handle req) w) := by
  constructor
  · intro hsucceeds
    obtain ⟨v, hv⟩ := hsucceeds.settle
    rw [exec_callWith s h, hv]
  · intro t text name hfails htext hlabel
    obtain ⟨stack, hcalled⟩ := exec_callWith_of_failsWith (s := s) h hfails htext
    rw [hlabel, Except.map, seenTelling] at hcalled
    refine ⟨reportEntry (w₁.loggers.get s.logger) w₁.clock req text ⟨some name, some text, stack⟩,
      ⟨rfl, rfl, rfl, stack, rfl⟩, fun hreceives => ?_, fun thrown hthrows => ?_⟩
    · rw [hcalled, hreceives]
    · rw [hcalled, hthrows]
      rfl
  · intro t text thrown hfails htext hlabel
    obtain ⟨stack, hcalled⟩ := exec_callWith_of_failsWith (s := s) h hfails htext
    rw [hlabel, Except.map, seenTelling] at hcalled
    exact hcalled

end

/-- A service whose handler always ends in the same way. -/
def steady : RouteService := ⟨⟨0⟩, [], ⟨0⟩⟩

/-- The world of that handler, with a logger for errors only. -/
def endingIn (o : Outcome Value) (sink : Sink) : World :=
  { World.initial 0 [] ∅ with
    handlers := ⟨[.ofScript ⟨"h", none, 0, none, [], [o]⟩]⟩
    loggers := ⟨[.ofSettings ⟨.error, false, false, some sink⟩]⟩ }

/-- An error of a derived kind. -/
def teapot : Thrown := .derived (.ok "Teapot") (.ok "short") (.ok none)

end RouteService

end HttpDispatch
