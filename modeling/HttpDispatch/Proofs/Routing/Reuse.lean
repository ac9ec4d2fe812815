import HttpDispatch.Proofs.Http.Ageing
import HttpDispatch.Proofs.Routing.FirstMatch
import HttpDispatch.Proofs.Routing.Refusal

/-!
# Many requests on one transport

A transport may carry any number of requests, for any number of connections, and meanwhile handlers
write to it, end it or destroy it.  None of this reopens it (`World.ages_after`).  Main statement
(`exec_call_accounted`): every request that is refused is accounted for by a warning, and by one
more where its response is not sent; and only one of the responses to such requests gets through,
because the transport is ended with it.

The second warning does not say that the response was not passed on.  A transport that takes the
whole response and then fails on its ending gets this warning as well
(`exec_call_not_only_undelivered`).
-/

namespace HttpDispatch

namespace Response

theorem text_ne_empty (r : Report) (headers : Dict String) (clock : Int) :
    text r headers clock ≠ "" := by
  intro h
  have hlist := congrArg String.toList h
  rw [text] at hlist
  simp [lineEnd] at hlist

/-- A response is not sent where its transport is closed or fails, on the writing or on the
ending. -/
theorem isSome_unsent? {t : Transport} {r : Report} {text : String} :
    (unsent? t r text).isSome = true ↔
      t.destroyed = true ∨ t.ended = true ∨ t.FailsWriting text ∨ t.FailsEnding text := by
  rw [← or_assoc, ← Transport.closed_eq_true, unsent?]
  cases hclosed : t.closed with
  | true => simp
  | false =>
    rw [if_neg (by decide), Option.isSome_map]
    by_cases hwriting : t.FailsWriting text
    · rw [Transport.closing_of_failsWriting hwriting]
      exact ⟨fun _ => .inr (.inl hwriting), fun _ => hwriting⟩
    · have hnone : (t.write text).failure = none := Option.not_isSome_iff_eq_none.1 hwriting
      simp [hwriting, Transport.FailsEnding, hnone]

end Response

namespace World

/-- The second world may be the first one at a later time, with the same loggers. -/
structure Ages (w w' : World) : Prop where
  stage : w.stage.Ages w'.stage
  loggers : w'.loggers = w.loggers

namespace Ages

variable {w w' w'' : World}

theorem refl (w : World) : w.Ages w := ⟨.refl _, rfl⟩

theorem trans (h : w.Ages w') (h' : w'.Ages w'') : w.Ages w'' :=
  ⟨h.stage.trans h'.stage, h'.loggers.trans h.loggers⟩

theorem onTransport {f : Transport → Transport} (hf : ∀ t : Transport, t.Ages (f t)) (w : World)
    (io : String) : w.Ages (w.onStage (w.stage.onTransport io f)) :=
  ⟨.onTransport hf _ _, rfl⟩

theorem observing (h : w.Ages w') (seen : List Observation) : w.Ages (w'.observing seen) :=
  ⟨h.stage, h.loggers⟩

theorem drawing (h : w.Ages w') (draws : Nat) : w.Ages (w'.drawing draws) := ⟨h.stage, h.loggers⟩

end Ages

theorem ages_afterHandling (w : World) (r : Ref Handler) (req : Request) :
    w.Ages (w.afterHandling r req) :=
  ⟨(Stage.ages_perform req _ w.stage).trans (.onTransport (fun t => t.ages_settle) _ req.io), rfl⟩

theorem ages_afterSending (w : World) (io text : String) : w.Ages (w.afterSending io text) := by
  refine ⟨?_, loggers_afterSending w io text⟩
  cases hclosed : (w.transport io).closed with
  | true =>
    rw [afterSending_of_closed hclosed]
    exact .refl _
  | false =>
    rw [afterSending_of_open hclosed]
    exact .onTransport (fun t => (t.ages_closing text).trans (t.closing text).ages_settle) w.stage io

/-- Between two worlds, a transport passed a text on, behind all that was written to it before. -/
def PassesOn (w w' : World) (io text : String) : Prop :=
  (w'.transport io).output = (w.transport io).written ++ text

/-- A text that is not empty is passed on exactly by a transport that accepts it. -/
theorem passesOn_afterSending_iff {w : World} {io text : String} (htext : text ≠ "") :
    w.PassesOn (w.afterSending io text) io text ↔ (w.transport io).Accepts := by
  generalize ht : w.transport io = t
  have hnot : ∀ out more : String, out ≠ out ++ more ++ text := by
    intro out more h
    have hlength := congrArg (fun s : String => s.toList.length) h
    have hpos : 0 < text.toList.length := List.length_pos_iff.2 fun hnil =>
      htext (String.toList_eq_nil_iff.1 hnil)
    simp only [String.toList_append, List.length_append] at hlength
    omega
  rw [PassesOn, ht]
  cases hclosed : t.closed with
  | true =>
    rw [afterSending_of_closed (ht ▸ hclosed), ht]
    refine iff_of_false (hnot _ _) fun h => ?_
    rw [(Transport.responsive_eq_true.1 h.responsive).1] at hclosed
    nomatch hclosed
  | false =>
    rw [afterSending_of_open (ht ▸ hclosed), transport_afterClosing, ht, Transport.output_settle]
    by_cases hwriting : t.FailsWriting text
    · have hwritten := Transport.written_write_of_failsWriting hwriting
      rw [Transport.closing_of_failsWriting hwriting, hwritten]
      refine iff_of_false (fun h => hnot t.written "" (by simpa using h)) fun h => ?_
      exact (Transport.accepts_iff.1 h).2 hwriting
    · have haccepts : t.Accepts := Transport.accepts_iff.2 ⟨hclosed, hwriting⟩
      rw [Transport.closing, Transport.written_finish, Transport.written_write haccepts]
      exact iff_of_true rfl haccepts

/-- A transport that has passed on a response is ended. -/
theorem ended_afterSending {w : World} {io : String} (h : (w.transport io).Accepts)
    (text : String) : ((w.afterSending io text).transport io).ended = true := by
  rw [afterSending_of_open (Transport.responsive_eq_true.1 h.responsive).1, transport_afterClosing]
  exact (Transport.ages_settle _).ended (Transport.ended_closing h text)

end World

open Run

/-! ### What happens on a transport -/

/-- Something that happens on a transport: a connection takes a request, a service takes one
without a connection, or a handler that is still at work writes a text, ends the transport or
destroys it. -/
inductive Turn
  | call (c : Connection) (init : HeadInit)
  | serve (s : RouteService) (req : Request)
  | write (text : String)
  | finish
  | destroy (reason : Value)

namespace World

/-- The world after something has happened on a transport. -/
def next (io : String) (w : World) : Turn → World
  | .call c init => (exec (c.call init io) w).2
  | .serve s req => (exec (s.call req) w).2
  | .write text => (exec (do onTransport io (·.write text); settleTransport io) w).2
  | .finish => (exec (do onTransport io (·.finish); settleTransport io) w).2
  | .destroy reason => (exec (destroyTransport io reason) w).2

/-- The world after one thing after another has happened on a transport. -/
def after (io : String) (w : World) (turns : List Turn) : World := turns.foldl (next io) w

/-- Requests have valid headers, and the loggers of their connections never throw. -/
def Admits (w : World) : Turn → Prop
  | .call c init =>
    (Headers.ofInit? init.headers).isSome = true ∧ (w.loggers.get c.logger).NeverThrows
  | _ => True

theorem ages_settled (io : String) (w : World) {f : Transport → Transport}
    (hf : ∀ t : Transport, t.Ages (f t)) :
    w.Ages (exec (do onTransport io f; settleTransport io) w).2 := by
  rw [exec_bind_ok (exec_onTransport io f w), exec_settleTransport]
  have hsettle := Ages.onTransport (fun t => t.ages_settle) (w.onStage (w.stage.onTransport io f)) io
  exact (Ages.onTransport hf w io).trans (hsettle.observing _)

theorem ages_exec_service (s : Service) (req : Request) (w : World) :
    w.Ages (exec (s.call req) w).2 := by
  cases s with
  | route s =>
    rw [Service.exec_call_route, RouteService.exec_call]
    exact (w.ages_afterHandling s.handler req).observing _
  | foreign r =>
    rw [Service.exec_call_foreign]
    exact (Ages.refl w).observing _

/-- Nothing that happens on a transport reopens it. -/
theorem ages_next (io : String) {w : World} {t : Turn} (h : w.Admits t) : w.Ages (w.next io t) := by
  cases t with
  | call c init =>
    obtain ⟨hvalid, hl⟩ := h
    obtain ⟨headers, hh⟩ := Option.isSome_iff_exists.1 hvalid
    rw [next]
    cases hfind : c.routes.find? (·.takes init.path init.verb) with
    | some m =>
      rw [Connection.exec_call_taken hh hfind (hl _)]
      have hannounced : w.Ages (c.announcing init headers w m) :=
        ((Ages.refl w).drawing _).observing _
      exact hannounced.trans (ages_exec_service m.service _ _)
    | none =>
      rw [Connection.exec_call_refusing hh hfind hl, Connection.refusing_eq]
      have hwarned := fun seen => ((Ages.refl w).drawing
        (drawsFor (headers.get? RequestHead.traceHeader))).observing seen
      exact ((hwarned _).trans (ages_afterSending _ io _)).observing _
  | serve s req =>
    rw [next, RouteService.exec_call]
    exact (w.ages_afterHandling s.handler req).observing _
  | write text => exact ages_settled io w fun t => t.ages_write text
  | finish => exact ages_settled io w fun t => t.ages_finish
  | destroy reason =>
    have hdestroy := Ages.onTransport (fun t => t.ages_destroy) w io
    rw [next, destroyTransport, exec_bind_ok (exec_get w)]
    show w.Ages (exec (setTransport io _ >>= _) w).2
    rw [exec_bind_ok (show exec (setTransport io ((w.transport io).destroy)) w =
      (.ok (), w.onStage (w.stage.onTransport io (·.destroy))) from rfl)]
    split
    · exact hdestroy
    · exact hdestroy.observing _

theorem Ages.admits {w w' : World} (h : w.Ages w') {t : Turn} (ht : w.Admits t) : w'.Admits t := by
  cases t with
  | call c init => exact ⟨ht.1, h.loggers ▸ ht.2⟩
  | serve | write | finish | destroy => trivial

theorem ages_after (io : String) {w : World} {turns : List Turn} (h : ∀ t ∈ turns, w.Admits t) :
    w.Ages (w.after io turns) := by
  induction turns generalizing w with
  | nil => exact .refl w
  | cons t rest ih =>
    have hnext := ages_next io (h t List.mem_cons_self)
    exact hnext.trans (ih fun t ht => hnext.admits (h t (List.mem_cons_of_mem _ ht)))

end World

/-! ### Requests that are refused -/

/-- What a refusal on a transport comes to: one warning with the message of the report, and one
more exactly where the transport is destroyed or ended, or fails on the response. -/
structure World.Accounts (w w' : World) (io : String) (l : Logger) (path method : String)
    (r : Report) (text : String) : Prop where
  seen : ∃ failure, w'.timeline = w.timeline ++
    (Connection.warning l w.clock path method r.message ++ failures io failure ++
      Connection.unsentWarning l w.clock path method r (Response.unsent? (w.transport io) r text))
  unsent : (Response.unsent? (w.transport io) r text).isSome = true ↔
    (w.transport io).destroyed = true ∨ (w.transport io).ended = true ∨
      (w.transport io).FailsWriting text ∨ (w.transport io).FailsEnding text
  /-- Nothing is written to a transport that is destroyed or ended. -/
  untouched : (w.transport io).destroyed = true ∨ (w.transport io).ended = true →
    w'.transports = w.transports
  /-- Every other transport gets the whole response, unless it fails on the writing. -/
  passesOn : w.PassesOn w' io text ↔ ¬ ((w.transport io).destroyed = true ∨
    (w.transport io).ended = true ∨ (w.transport io).FailsWriting text)
  ended : w.PassesOn w' io text → (w'.transport io).ended = true

/-- A request with valid headers that no route of a connection takes. -/
structure Connection.Unmatched (c : Connection) (init : HeadInit) (headers : Headers) : Prop where
  valid : Headers.ofInit? init.headers = some headers
  untaken : ∀ m ∈ c.routes, m.takes init.path init.verb = false

namespace Connection

/-- The report and the further headers with which a connection refuses a request. -/
def refusalFor (c : Connection) (init : HeadInit) (headers : Headers) (w : World) :
    Report × Dict String :=
  c.refusal init.path init.verb (w.traceIdFor (headers.get? RequestHead.traceHeader))

/-- The logger of a connection, in the trace of a request. -/
def requestLogger (c : Connection) (headers : Headers) (w : World) : Logger :=
  (w.loggers.get c.logger).child (w.traceFor (headers.get? RequestHead.traceHeader))

/-- The response to a request that is refused. -/
def refusalText (c : Connection) (init : HeadInit) (headers : Headers) (w : World) : String :=
  Response.text (c.refusalFor init headers w).1 (c.refusalFor init headers w).2 w.clock

namespace Unmatched

variable {c : Connection} {init : HeadInit} {headers : Headers} {w : World}

/-- The world in which the refusal of a request has been announced. -/
def warned (c : Connection) (init : HeadInit) (headers : Headers) (w : World) : World :=
  (w.drawing (World.drawsFor (headers.get? RequestHead.traceHeader))).observing
    (warning (c.requestLogger headers w) w.clock init.path init.verb
      (c.refusalFor init headers w).1.message)

theorem next_eq (h : c.Unmatched init headers) (hl : (w.loggers.get c.logger).NeverThrows)
    (io : String) :
    w.next io (.call c init) =
      ((warned c init headers w).afterSending io (c.refusalText init headers w)).observing
        (unsentWarning (c.requestLogger headers w) w.clock init.path init.verb
          (c.refusalFor init headers w).1
          (Response.unsent? (w.transport io) (c.refusalFor init headers w).1
            (c.refusalText init headers w))) := by
  have hfind := MountedService.find?_eq_none h.untaken
  rw [World.next, exec_call_refusing h.valid hfind hl, refusing_eq]
  rfl

theorem passesOn_iff (h : c.Unmatched init headers) (hl : (w.loggers.get c.logger).NeverThrows)
    (io : String) :
    w.PassesOn (w.next io (.call c init)) io (c.refusalText init headers w) ↔
      (w.transport io).Accepts := by
  have hsending : (warned c init headers w).PassesOn
      ((warned c init headers w).afterSending io (c.refusalText init headers w)) io
      (c.refusalText init headers w) ↔ ((warned c init headers w).transport io).Accepts :=
    World.passesOn_afterSending_iff (Response.text_ne_empty _ _ _)
  rw [h.next_eq hl]
  exact hsending

/-- A refused request is accounted for. -/
theorem accounts (h : c.Unmatched init headers) (hl : (w.loggers.get c.logger).NeverThrows)
    (io : String) :
    w.Accounts (w.next io (.call c init)) io (c.requestLogger headers w) init.path init.verb
      (c.refusalFor init headers w).1 (c.refusalText init headers w) := by
  have hnext := h.next_eq hl io
  have hpasses := h.passesOn_iff hl io
  refine ⟨?_, Response.isSome_unsent?, ?_, ?_, ?_⟩
  · obtain ⟨failure, hsent⟩ :=
      (warned c init headers w).exists_timeline_afterSending io (c.refusalText init headers w)
    refine ⟨failure, ?_⟩
    rw [hnext, World.timeline_observing, hsent, warned, World.timeline_observing,
      List.append_assoc, List.append_assoc, List.append_assoc]
    rfl
  · intro hclosed
    have hclosed' : ((warned c init headers w).transport io).closed = true :=
      Transport.closed_eq_true.2 hclosed
    rw [hnext, World.afterSending_of_closed hclosed']
    rfl
  · rw [hpasses, ← or_assoc, ← Transport.closed_eq_true, not_or, Bool.not_eq_true]
    exact Transport.accepts_iff
  · intro hpassed
    have haccepts : ((warned c init headers w).transport io).Accepts := hpasses.1 hpassed
    rw [hnext, World.transport_observing]
    exact World.ended_afterSending haccepts _

/-- A transport that is ended gets nothing from a refusal. -/
theorem transport_next_of_ended (h : c.Unmatched init headers)
    (hl : (w.loggers.get c.logger).NeverThrows) {io : String}
    (hended : (w.transport io).ended = true) :
    (w.next io (.call c init)).transport io = w.transport io := by
  rw [World.transport, (h.accounts hl io).untouched (.inr hended)]
  rfl

end Unmatched

/-- **Refusals on one transport.**  Connections take requests on a transport, and handlers write to
it, end it or destroy it, in any order.  Every request that is refused is accounted for.  A response
that is passed on is the only one: the transport is ended by it and stays ended, and no refusal
after it changes anything about the transport. -/
theorem exec_call_accounted (io : String) (w : World) {turns before later : List Turn}
    (hadmits : ∀ t ∈ turns, w.Admits t) {c : Connection} {init : HeadInit} {headers : Headers}
    (hturns : turns = before ++ .call c init :: later) (hun : c.Unmatched init headers) :
    let w₁ := w.after io before
    let w₂ := w₁.next io (.call c init)
    (c.refusalFor init headers w₁).1.Refuses (c.refusalFor init headers w₁).2 c init
        (w₁.traceIdFor (headers.get? RequestHead.traceHeader)) ∧
      w₁.Accounts w₂ io (c.requestLogger headers w₁) init.path init.verb
        (c.refusalFor init headers w₁).1 (c.refusalText init headers w₁) ∧
      (w₁.PassesOn w₂ io (c.refusalText init headers w₁) →
        ∀ (between rest : List Turn) (c' : Connection) (init' : HeadInit) (headers' : Headers),
          later = between ++ .call c' init' :: rest → c'.Unmatched init' headers' →
          let w₃ := w₂.after io between
          (w₃.transport io).ended = true ∧
            (w₃.next io (.call c' init')).transport io = w₃.transport io ∧
            ¬ w₃.PassesOn (w₃.next io (.call c' init')) io (c'.refusalText init' headers' w₃)) := by
  subst hturns
  intro w₁ w₂
  have hages₁ : w.Ages w₁ := World.ages_after io fun t ht => hadmits t (List.mem_append_left _ ht)
  have hadmits₁ : ∀ t ∈ .call c init :: later, w₁.Admits t :=
    fun t ht => hages₁.admits (hadmits t (List.mem_append_right _ ht))
  have hages₂ : w₁.Ages w₂ := World.ages_next io (hadmits₁ _ List.mem_cons_self)
  have hadmits₂ : ∀ t ∈ later, w₂.Admits t :=
    fun t ht => hages₂.admits (hadmits₁ t (List.mem_cons_of_mem _ ht))
  have haccounts := hun.accounts (hadmits₁ _ List.mem_cons_self).2 io
  refine ⟨refuses_refusal c init _, haccounts, ?_⟩
  rintro hpasses between rest c' init' headers' rfl hun' w₃
  have hages₃ : w₂.Ages w₃ := World.ages_after io fun t ht => hadmits₂ t (List.mem_append_left _ ht)
  have hended : (w₃.transport io).ended = true :=
    (hages₃.stage io).ended (haccounts.ended hpasses)
  have hl' : (w₃.loggers.get c'.logger).NeverThrows :=
    (hages₃.admits (hadmits₂ _ (List.mem_append_right _ List.mem_cons_self))).2
  refine ⟨hended, hun'.transport_next_of_ended hl' hended, fun hpasses' => ?_⟩
  exact (hun'.accounts hl' io).passesOn.1 hpasses' (.inr (.inl hended))

/-- A connection without routes. -/
def routeless : Connection := ⟨[], ⟨0⟩, ⟨0⟩⟩

/-- A request for it. -/
def gone : HeadInit := ⟨"GET", "/gone", none, .list []⟩

theorem unmatched_gone : routeless.Unmatched gone ⟨[]⟩ := ⟨rfl, fun _ h => nomatch h⟩

/-- Of two such requests on one transport, the first gets its response, and the second does not,
whatever is written in between. -/
theorem exec_call_accounted_gone :
    let turns : List Turn := [.call routeless gone, .write "late", .call routeless gone]
    (∀ t ∈ turns, (World.initial 0 [] ∅).Admits t) ∧ routeless.Unmatched gone ⟨[]⟩ ∧
      let w₂ := (World.initial 0 [] ∅).next "c" (.call routeless gone)
      let w₃ := w₂.after "c" [.write "late"]
      (World.initial 0 [] ∅).PassesOn w₂ "c" (routeless.refusalText gone ⟨[]⟩ (.initial 0 [] ∅)) ∧
        (w₃.next "c" (.call routeless gone)).transport "c" = w₃.transport "c" := by
  intro turns
  have hadmits : ∀ t ∈ turns, (World.initial 0 [] ∅).Admits t := by
    have hcall : (World.initial 0 [] ∅).Admits (.call routeless gone) := ⟨rfl, fun _ => rfl⟩
    intro t ht
    rcases List.mem_cons.1 ht with rfl | ht
    · exact hcall
    rcases List.mem_cons.1 ht with rfl | ht
    · trivial
    · exact List.mem_singleton.1 ht ▸ hcall
  have hturns : turns = [] ++ .call routeless gone :: [.write "late", .call routeless gone] := rfl
  obtain ⟨-, haccounts, hlater⟩ :=
    exec_call_accounted "c" (.initial 0 [] ∅) hadmits hturns unmatched_gone
  have hpasses := haccounts.passesOn.2 (by rintro (h | h | h) <;> nomatch h)
  exact ⟨hadmits, unmatched_gone, hpasses,
    (hlater hpasses [.write "late"] [] routeless gone ⟨[]⟩ rfl unmatched_gone).2.1⟩

/-- The second warning is not only about responses that are not passed on: a transport that fails
on its ending has passed on the whole response. -/
theorem exec_call_not_only_undelivered :
    ¬ ∀ (c : Connection) (init : HeadInit) (headers : Headers) (io : String) (w : World)
        (seen : List Observation),
      c.Unmatched init headers → (w.loggers.get c.logger).NeverThrows →
      (w.next io (.call c init)).timeline = w.timeline ++ seen →
      ∀ sink e f, .logged sink e ∈ seen →
        e.message = unsentMessage (c.refusalFor init headers w).1 f →
        ¬ w.PassesOn (w.next io (.call c init)) io (c.refusalText init headers w) := by
  intro h
  let w : World :=
    { World.initial 0 [] ∅ with
      loggers := ⟨[.ofSettings ⟨.info, false, false, some (.capture "sink")⟩]⟩
      transports := Dict.ofList [("c", .fresh (.failsEnd "late"))] }
  have hl : (w.loggers.get routeless.logger).NeverThrows := fun _ => rfl
  have haccounts := unmatched_gone.accounts hl "c"
  obtain ⟨failure, hseen⟩ := haccounts.seen
  let r := (routeless.refusalFor gone ⟨[]⟩ w).1
  let f := Response.writeFailed r "late"
  let e := (routeless.requestLogger ⟨[]⟩ w).entry 0 .warn (unsentMessage r f)
    (some (RouteService.requestContext "GET" "/gone")) none
  have hunsent : Response.unsent? (w.transport "c") r (routeless.refusalText gone ⟨[]⟩ w) =
      some f := rfl
  have hline : .logged "sink" e ∈ unsentWarning (routeless.requestLogger ⟨[]⟩ w) w.clock gone.path
      gone.verb r (some f) := List.mem_singleton_self _
  rw [hunsent] at hseen
  refine h routeless gone ⟨[]⟩ "c" w _ unmatched_gone hl hseen "sink" e f
    (List.mem_append_right _ hline) rfl (haccounts.passesOn.2 ?_)
  rintro (h | h | h) <;> nomatch h

end Connection

end HttpDispatch
