import HttpDispatch.Proofs.Routing.Answer
import HttpDispatch.Proofs.Session.Growth

/-!
# Services in a session

Two commands make services, and two call them.

A service that is made runs what it got of the handler of its factory, and if handlers are copied
this is a handler of its own (`Session.growing_activateFactory`, `Session.growing_connect`).  A call
is dispatched to one service at most (`Session.dispatched?`): the handler of this service takes one
request, and no other handler changes.

With this, all commands are accounted for.  `Session.evolves_step` says what one of them does to
handlers and their owners, and `Session.evolves_after` says it of any number of them.
-/

namespace HttpDispatch

open Run

/-! ### Making services -/

namespace RouteFactory

theorem leavesHandlers_loggerOrShared (given : Option (Ref Logger)) :
    LeavesHandlers (loggerOrShared given) := by
  cases given with
  | some r => exact .pure r
  | none => exact .sharedLogger

theorem keepsHandlers_activate (f : RouteFactory) (given : Option (Ref Logger)) :
    KeepsHandlers (f.activate given) :=
  KeepsHandlers.bind (keeps_cloneHandler f.handler) fun _ =>
    ((leavesHandlers_loggerOrShared given).bind fun _ => .pure _).keeps

theorem clones_of_activate {f : RouteFactory} {given : Option (Ref Logger)} {s : RouteService}
    {w w' : World} (hf : w.handlers.Holds f.handler)
    (h : exec (f.activate given) w = (.ok s, w')) : w.Clones w' f.handler s.handler := by
  obtain ⟨r, w₁, l, hr, hl, rfl⟩ := activate_eq_ok.1 h
  have hkeeps := (leavesHandlers_loggerOrShared given).keeps w₁
  rw [hl] at hkeeps
  exact (clones_cloneHandler hf hr).later hkeeps

end RouteFactory

namespace App

variable {app : App} {logger : Option (Ref Logger)} {c : Connection} {w w' : World}

/-- Each service of a connection runs what it got of the handler of a mounted factory. -/
theorem exists_clones_of_connect (h : exec (app.connect logger) w = (.ok c, w'))
    (hheld : Held w app.routes)
    {i : Nat} {sv : RouteService} (hsv : c.serviceAt i = some sv) :
    ∃ m f, app.routes[i]? = some m ∧ m.factory = .route f ∧
      w.Clones w' f.handler sv.handler := by
  obtain ⟨hclones, -⟩ := clones_of_connect h hheld
  obtain ⟨a, ha, hroute⟩ := Option.bind_eq_some_iff.1 hsv
  obtain ⟨hi, rfl⟩ := List.getElem?_eq_some_iff.1 ha
  have hi' : i < app.routes.length := hclones.length_eq ▸ hi
  obtain ⟨f, hf, hclone⟩ := hclones.get hi' hi sv (Service.route?_eq_some.1 hroute)
  exact ⟨_, f, List.getElem?_eq_getElem hi', hf, hclone (hheld _ (List.getElem_mem hi') f hf)⟩

/-- No two services of a connection run the same handler, if it is copied. -/
theorem index_eq_of_connect (h : exec (app.connect logger) w = (.ok c, w'))
    (hheld : Held w app.routes)
    {i j : Nat} {sv sv' : RouteService} (hi : c.serviceAt i = some sv)
    (hj : c.serviceAt j = some sv')
    (hcopies : (w'.handlers.get sv.handler).script.cloning = some .copy)
    (heq : sv.handler = sv'.handler) : i = j := by
  obtain ⟨-, hapart⟩ := clones_of_connect h hheld
  obtain ⟨a, ha, hroute⟩ := Option.bind_eq_some_iff.1 hi
  obtain ⟨b, hb, hroute'⟩ := Option.bind_eq_some_iff.1 hj
  obtain ⟨hi, rfl⟩ := List.getElem?_eq_some_iff.1 ha
  obtain ⟨hj, rfl⟩ := List.getElem?_eq_some_iff.1 hb
  have hs := Service.route?_eq_some.1 hroute
  have hs' := Service.route?_eq_some.1 hroute'
  rcases Nat.lt_trichotomy i j with hlt | rfl | hlt
  · exact absurd heq (List.pairwise_iff_getElem.1 hapart i j hi hj hlt sv sv' hs hs' hcopies)
  · rfl
  · rw [heq] at hcopies
    exact absurd heq.symm
      (List.pairwise_iff_getElem.1 hapart j i hj hi hlt sv' sv hs' hs hcopies)

end App

namespace Session

theorem Estate.serviceAt_service (e : Estate) {name : String} {sv sv' : RouteService} {p : Place}
    (h : Estate.serviceAt { e with services := e.services.set name sv } p = some sv') :
    e.serviceAt p = some sv' ∨ p = .named name ∧ sv' = sv := by
  cases p with
  | named other =>
    rcases Dict.get?_set_eq_some h with h | ⟨hname, rfl⟩
    · exact .inl h
    · exact .inr ⟨congrArg Place.named hname, rfl⟩
  | mounted c i => exact .inl h

theorem Estate.serviceAt_connection (e : Estate) {name : String} {c : Connection} {p : Place}
    {sv : RouteService}
    (h : Estate.serviceAt { e with connections := e.connections.set name c } p = some sv) :
    e.serviceAt p = some sv ∨ ∃ i, p = .mounted name i ∧ c.serviceAt i = some sv := by
  cases p with
  | named other => exact .inl h
  | mounted other i =>
    obtain ⟨found, hfound, hi⟩ := Option.bind_eq_some_iff.1 h
    rcases Dict.get?_set_eq_some hfound with hold | ⟨hname, rfl⟩
    · exact .inl (Option.bind_eq_some_iff.2 ⟨found, hold, hi⟩)
    · exact .inr ⟨i, congrArg (Place.mounted · i) hname, hi⟩

/-- Services keep no handler for others. -/
theorem Estate.Keeps.of_eq {e e' : Estate} {r : Ref Handler} (h : e.Keeps r)
    (hhandlers : e.handlers = e'.handlers) (hroutes : e.routes = e'.routes)
    (hfactories : e.factories = e'.factories) (happs : e.apps = e'.apps) : e'.Keeps r := by
  cases h with
  | handler hr => exact .handler (hhandlers ▸ hr)
  | route hr h => exact .route (hroutes ▸ hr) h
  | factory hr h => exact .factory (hfactories ▸ hr) h
  | app hr hm hf h => exact .app (happs ▸ hr) hm hf h

variable {s s' : Session}

/-- The handlers of what is mounted are there. -/
theorem Sound.holds_mounted (hs : s.Sound) {name : String} {app : App}
    (happ : s.apps.get? name = some app) : App.Held s.world app.routes :=
  fun _ hm _ hf => hs.kept (.app happ hm hf rfl)

theorem growing_activateFactory (factory name : String) (logger : Option String) :
    Growing (perform (.activateFactory factory name logger)) := by
  intro s hs
  refine .bind_of_rests hs (Resting.find _ factory s) fun f s₁ hf => ?_
  obtain ⟨hf, rfl⟩ := exec_find_eq_ok.1 hf
  refine .bind_of_rests hs (Resting.findOptional _ logger s₁) fun given s₂ hgiven => ?_
  obtain ⟨-, rfl⟩ := exec_findOptional_eq_ok hgiven
  have hkeeps := f.keepsHandlers_activate given
  refine .bind_of_rests hs (Resting.run hkeeps s₂) fun sv s₃ hsv => ?_
  obtain ⟨w, hw, rfl⟩ := exec_run_eq_ok.1 hsv
  have hclones := RouteFactory.clones_of_activate (hs.kept (.factory hf rfl)) hw
  have hworld := hkeeps s₂.world
  rw [hw] at hworld
  refine .of_runs hworld hs (·.of_eq rfl rfl rfl rfl) (s₂.inWorld w).estate.serviceAt_service ?_ ?_
  · rintro p _ ⟨rfl, rfl⟩
    refine ⟨hclones.holds, fun hcopies => (hclones.copied ?_).1⟩
    rw [← hclones.script]
    exact hcopies
  · rintro p q _ _ ⟨rfl, rfl⟩ ⟨rfl, rfl⟩ - -
    rfl

theorem growing_connect (app name : String) (logger : Option String) :
    Growing (perform (.connect app name logger)) := by
  intro s hs
  refine .bind_of_rests hs (Resting.find _ app s) fun a s₁ ha => ?_
  obtain ⟨ha, rfl⟩ := exec_find_eq_ok.1 ha
  refine .bind_of_rests hs (Resting.findOptional _ logger s₁) fun given s₂ hgiven => ?_
  obtain ⟨-, rfl⟩ := exec_findOptional_eq_ok hgiven
  have hkeeps := a.keepsHandlers_connect given
  refine .bind_of_rests hs (Resting.run hkeeps s₂) fun c s₃ hc => ?_
  obtain ⟨w, hw, rfl⟩ := exec_run_eq_ok.1 hc
  have hheld := hs.holds_mounted ha
  have hworld := hkeeps s₂.world
  rw [hw] at hworld
  refine .of_runs hworld hs (·.of_eq rfl rfl rfl rfl) (s₂.inWorld w).estate.serviceAt_connection ?_ ?_
  · rintro p sv ⟨i, rfl, hi⟩
    obtain ⟨m, f, -, -, hclones⟩ := App.exists_clones_of_connect hw hheld hi
    refine ⟨hclones.holds, fun hcopies => (hclones.copied ?_).1⟩
    rw [← hclones.script]
    exact hcopies
  · rintro p q sv sv' ⟨i, rfl, hi⟩ ⟨j, rfl, hj⟩ hcopies heq
    rw [App.index_eq_of_connect hw hheld hi hj hcopies heq]

end Session

/-! ### Calling services -/

/-- Between two worlds a handler has taken one request, and this was seen. -/
structure World.Takes (w w' : World) (r : Ref Handler) : Prop where
  handlers : w'.handlers = w.handlers.modify r Handler.tick
  seen : ∃ seen, .event (.handled (w.taking r).script.name (w.taking r).count seen) ∈ w'.timeline

theorem World.Takes.of_eq {w w₁ w' : World} {r : Ref Handler} (h : w₁.Takes w' r)
    (heq : w₁.handlers = w.handlers) : w.Takes w' r := by
  obtain ⟨hhandlers, hseen⟩ := h
  rw [World.taking, heq] at hseen
  exact ⟨heq ▸ hhandlers, hseen⟩

theorem RouteService.takes_call (s : RouteService) (req : Request) (w : World) :
    w.Takes (exec (s.call req) w).2 s.handler := by
  rw [RouteService.exec_call]
  refine ⟨rfl, ⟨req, (w.states.get req.state).value⟩, ?_⟩
  exact List.mem_append_left _ (List.mem_append_right _ List.mem_cons_self)

namespace Connection

/-- The route service to which a connection dispatches a request, if it does: the headers are valid,
the announcement does not fail, and the first route that takes the request is not a foreign one. -/
def dispatched? (c : Connection) (w : World) (init : HeadInit) : Option RouteService := do
  let headers ← Headers.ofInit? init.headers
  let m ← c.routes.find? (·.takes init.path init.verb)
  if ((w.loggers.get c.logger).fails? (c.announcement init headers w m)).isNone then
    m.service.route?
  else none

variable {c : Connection} {w : World} {init : HeadInit}

theorem dispatched?_eq_some {sv : RouteService} (h : c.dispatched? w init = some sv) :
    ∃ headers m, Headers.ofInit? init.headers = some headers ∧
      c.routes.find? (·.takes init.path init.verb) = some m ∧
      (w.loggers.get c.logger).fails? (c.announcement init headers w m) = none ∧
      m.service = .route sv := by
  obtain ⟨headers, hheaders, hrest⟩ := Option.bind_eq_some_iff.1 h
  obtain ⟨m, hm, hservice⟩ := Option.bind_eq_some_iff.1 hrest
  split at hservice
  · next hfails =>
    exact ⟨headers, m, hheaders, hm, Option.isNone_iff_eq_none.1 hfails,
      Service.route?_eq_some.1 hservice⟩
  · nomatch hservice

theorem exists_serviceAt_of_dispatched? {sv : RouteService} (h : c.dispatched? w init = some sv) :
    ∃ i, c.serviceAt i = some sv := by
  obtain ⟨-, m, -, hm, -, hservice⟩ := dispatched?_eq_some h
  obtain ⟨i, hi⟩ := List.getElem?_of_mem (List.mem_of_find?_eq_some hm)
  exact ⟨i, Option.bind_eq_some_iff.2 ⟨m, hi, Service.route?_eq_some.2 hservice⟩⟩

/-- The handler of the service to which a request is dispatched takes it. -/
theorem takes_call {sv : RouteService} (h : c.dispatched? w init = some sv) (io : String) :
    w.Takes (exec (c.call init io) w).2 sv.handler := by
  obtain ⟨headers, ⟨pattern, service⟩, hh, hm, hl, rfl⟩ := dispatched?_eq_some h
  have hhandlers : (c.announcing init headers w ⟨pattern, .route sv⟩).handlers = w.handlers := rfl
  rw [exec_call_announced hh hm hl io, Service.exec_call_route]
  exact (sv.takes_call _ _).of_eq hhandlers

theorem leavesHandlers_refuse (l : Logger) (io path method : String)
    (refusal : Report × Dict String) : LeavesHandlers (refuse l io path method refusal) := by
  have hreject : LeavesHandlers (reject l io path method refusal.1 refusal.2) := by
    refine LeavesHandlers.bind (.log l .warn _ _ none) fun _ => ?_
    refine (LeavesHandlers.sendError io refusal.1 refusal.2).attempt.bind fun result => ?_
    cases result with
    | ok => exact .pure _
    | error v => exact .log l .warn _ _ none
  exact hreject.bind fun _ => .pure _

/-- A request that is not dispatched to a route service changes no handler. -/
theorem handlers_call (h : c.dispatched? w init = none) (io : String) :
    (exec (c.call init io) w).2.handlers = w.handlers := by
  cases hh : Headers.ofInit? init.headers with
  | none => rw [exec_call_of_invalid hh]
  | some headers =>
    cases hm : c.routes.find? (·.takes init.path init.verb) with
    | none =>
      rw [exec_call_refused hh hm]
      exact leavesHandlers_refuse _ _ _ _ _ _
    | some m =>
      cases hl : (w.loggers.get c.logger).fails? (c.announcement init headers w m) with
      | some v =>
        rw [exec_call_unannounced hh hm hl]
        rfl
      | none =>
        obtain ⟨pattern, service⟩ := m
        cases service with
        | route sv => simp [dispatched?, hh, hl, hm, Service.route?] at h
        | foreign r =>
          rw [exec_call_announced hh hm hl, Service.exec_call_foreign]
          rfl

end Connection

namespace Session

/-- The route service to which a command is dispatched, if it is a call and this succeeds in
reaching one. -/
def dispatched? (s : Session) : Command → Option RouteService
  | .callService name init => (RequestHead.ofInit? init.head).bind fun _ => s.services.get? name
  | .call name init _ => (s.connections.get? name).bind (·.dispatched? s.world init)
  | _ => none

/-- The services to which commands are dispatched, in order. -/
def dispatchedIn (s : Session) : List Command → List RouteService
  | [] => []
  | c :: rest => (s.dispatched? c).toList ++ (s.step c).2.dispatchedIn rest

section Calls

variable {s : Session} {name : String}

/-- A call of a connection changes the world of the session, and nothing else. -/
theorem exec_call_snd {c : Connection} (hc : s.connections.get? name = some c) (init : HeadInit)
    (io : String) :
    (exec (perform (.call name init io)) s).2 =
      s.inWorld (Run.exec (c.call init io) s.world).2 := by
  rw [perform, exec_bind_ok (exec_find_eq_ok.2 ⟨hc, rfl⟩), exec_bind_snd fun _ _ => rfl, exec_run]

theorem exec_request_of_valid {init : RequestInit} {head : RequestHead}
    (h : RequestHead.ofInit? init.head = some head) (w : World) :
    ∃ req w', Run.exec (request init) w = (.ok req, w') ∧ w'.handlers = w.handlers := by
  have hleaves := LeavesHandlers.request init w
  cases hrequest : Run.exec (request init) w with
  | mk result w' =>
    rw [hrequest] at hleaves
    cases result with
    | ok req => exact ⟨req, w', rfl, hleaves⟩
    | error v =>
      rw [request, h] at hrequest
      cases hid : init.traceId <|> head.traceId? <;> simp only [hid] at hrequest <;>
        cases hrequest

theorem exec_callService_snd {sv : RouteService} (hsv : s.services.get? name = some sv)
    {init : RequestInit} {req : Request} {w : World}
    (hrequest : Run.exec (request init) s.world = (.ok req, w)) :
    (exec (perform (.callService name init)) s).2 = s.inWorld (Run.exec (sv.call req) w).2 := by
  rw [perform, exec_bind_ok (exec_find_eq_ok.2 ⟨hsv, rfl⟩),
    exec_bind_ok (exec_run_eq_ok.2 ⟨w, hrequest, rfl⟩), exec_bind_snd fun _ _ => rfl, exec_run]
  rfl

/-- Between two sessions, the handler of a service that can be called has taken one request. -/
structure Serves (s s' : Session) (sv : RouteService) : Prop where
  place : ∃ p, s.estate.serviceAt p = some sv
  estate : s'.estate = s.estate
  world : s.world.Takes s'.world sv.handler

theorem serves_step {sv : RouteService} {c : Command} (h : s.dispatched? c = some sv) :
    s.Serves (s.step c).2 sv := by
  rw [step_snd]
  cases c with
  | callService name init =>
    obtain ⟨head, hhead, hsv⟩ := Option.bind_eq_some_iff.1 h
    obtain ⟨req, w, hrequest, hhandlers⟩ := exec_request_of_valid hhead s.opened.world
    rw [exec_callService_snd (s := s.opened) hsv hrequest]
    exact ⟨⟨.named name, hsv⟩, rfl, (sv.takes_call req w).of_eq hhandlers⟩
  | call name init io =>
    obtain ⟨c, hc, hdispatched⟩ := Option.bind_eq_some_iff.1 h
    have hopened : c.dispatched? s.opened.world init = some sv := hdispatched
    obtain ⟨i, hi⟩ := Connection.exists_serviceAt_of_dispatched? hopened
    have hplace : s.estate.serviceAt (.mounted name i) = some sv :=
      Option.bind_eq_some_iff.2 ⟨c, hc, hi⟩
    have htakes := (Connection.takes_call hopened io).of_eq (w := s.world) rfl
    rw [exec_call_snd (s := s.opened) hc]
    exact ⟨⟨_, hplace⟩, rfl, htakes⟩
  | _ => nomatch h

/-- During a call that is not dispatched to a route service, a session rests. -/
theorem rests_call {init : HeadInit} {io : String}
    (h : s.dispatched? (.call name init io) = none) :
    s.Rests (exec (perform (.call name init io)) s).2 := by
  cases hc : s.connections.get? name with
  | none =>
    rw [perform, exec_bind_error (exec_find_unknown hc)]
    exact .refl s
  | some c =>
    have hnone : c.dispatched? s.world init = none := by
      rwa [dispatched?, hc] at h
    rw [exec_call_snd hc]
    refine ⟨rfl, ?_⟩
    rw [inWorld, Connection.handlers_call hnone]
    exact .refl _

theorem rests_callService {init : RequestInit} (h : s.dispatched? (.callService name init) = none) :
    s.Rests (exec (perform (.callService name init)) s).2 := by
  cases hsv : s.services.get? name with
  | none =>
    rw [perform, exec_bind_error (exec_find_unknown hsv)]
    exact .refl s
  | some sv =>
    have hinvalid : RequestHead.ofInit? init.head = none := by
      cases hhead : RequestHead.ofInit? init.head with
      | none => rfl
      | some head => simp [dispatched?, hhead, hsv] at h
    have hrequest : exec (run (request init)) s = (.error (.raised (.platformError "TypeError")), s) := by
      rw [exec_run, request, hinvalid]
      rfl
    rw [perform, exec_bind_ok (exec_find_eq_ok.2 ⟨hsv, rfl⟩), exec_bind_error hrequest]
    exact .refl s

end Calls

/-! ### What a session becomes -/

/-- A session in which a request was served. -/
theorem Serves.evolves {s s' : Session} {sv : RouteService} (h : s.Serves s' sv) (hs : s.Sound) :
    s.Evolves s' [sv.handler] := by
  obtain ⟨⟨p, hp⟩, hestate, ⟨hhandlers, -⟩⟩ := h
  have hholds : ∀ {r}, s'.Holds r ↔ s.Holds r := by
    intro r
    rw [Holds, hhandlers, Store.holds_modify]
    rfl
  have hscript : ∀ r, (s'.world.handlers.get r).script = (s.world.handlers.get r).script := by
    intro r
    rw [hhandlers]
    exact Store.apply_get_modify (g := Handler.script) (f := Handler.tick) (fun _ => rfl) _ _ _
  have hcopies : ∀ {r}, s'.Copies r → s.Copies r := by
    intro r hr
    rwa [Copies, ← hscript r]
  exact
    { sound :=
        { kept := fun hr => hholds.2 (hs.kept (hestate ▸ hr))
          running := fun hsv => hholds.2 (hs.running (hestate ▸ hsv))
          apart := fun hr hc hsv => hs.apart (hestate ▸ hr) (hcopies hc) (hestate ▸ hsv)
          own := fun hsv hsv' hc => hs.own (hestate ▸ hsv) (hestate ▸ hsv') (hcopies hc) }
      holds := hholds.2
      standing := fun {r} hr => by
        rw [hhandlers]
        by_cases heq : r = sv.handler
        · subst heq
          rw [Store.get_modify_self hr]
          simp [Handler.standing, Handler.tick]
        · rw [Store.get_modify_ne heq, List.count_singleton]
          simp [Handler.standing, Ne.symm heq]
      fresh := fun hsv _ => .inl (hestate ▸ hsv)
      served := fun hmem _ _ => ⟨p, sv, hp, (List.mem_singleton.1 hmem).symm⟩ }

/-- What a session becomes by a command that is not dispatched. -/
theorem evolves_perform {s : Session} (hs : s.Sound) {c : Command} (h : s.dispatched? c = none) :
    s.Evolves (exec (perform c) s).2 [] := by
  by_cases hidle : c.Idle
  · exact (resting_perform hidle s).evolves hs
  · cases c with
    | makeHandler name script => exact growing_makeHandler name script s hs
    | finishRoute builder name source => exact growing_finishRoute builder name source s hs
    | declareRoute name d => exact growing_declareRoute name d s hs
    | extendRoute route name token => exact growing_extendRoute route name token s hs
    | createFactory route name => exact growing_createFactory route name s hs
    | activateFactory factory name logger => exact growing_activateFactory factory name logger s hs
    | callService name init => exact (rests_callService h).evolves hs
    | makeApp name state logger sources => exact growing_makeApp name state logger sources s hs
    | mount name source => exact growing_mount name source s hs
    | setAppLogger app logger => exact growing_setAppLogger app logger s hs
    | connect app name logger => exact growing_connect app name logger s hs
    | call name init io => exact (rests_call h).evolves hs
    | _ => exact absurd trivial hidle

/-- **What one command does.**  Whatever the command, the handlers of a sound session go on counting
just the requests that are dispatched to them, and each goes on having its owner. -/
theorem evolves_step {s : Session} (hs : s.Sound) (c : Command) :
    s.Evolves (s.step c).2 ((s.dispatched? c).toList.map RouteService.handler) := by
  cases h : s.dispatched? c with
  | some sv => exact (serves_step h).evolves hs
  | none =>
    have hopened := (rests_opened s).evolves hs
    exact hopened.trans (evolves_perform hopened.sound h)

/-- What any number of commands do. -/
theorem evolves_after {s : Session} (hs : s.Sound) (cs : List Command) :
    s.Evolves (s.after cs) ((s.dispatchedIn cs).map RouteService.handler) := by
  induction cs generalizing s with
  | nil => exact .refl hs
  | cons c rest ih =>
    have hstep := evolves_step hs c
    rw [after_cons, dispatchedIn, List.map_append]
    exact hstep.trans (ih hstep.sound)

theorem sound_start (clock : Int) (draws : List Nat) (environ : Environ) :
    (start clock draws environ).Sound where
  kept h := by cases h <;> contradiction
  running {p sv} h := by cases p <;> nomatch h
  apart {r p sv} _ _ h := by cases p <;> nomatch h
  own {p q sv sv'} h := by cases p <;> nomatch h

end Session

end HttpDispatch
