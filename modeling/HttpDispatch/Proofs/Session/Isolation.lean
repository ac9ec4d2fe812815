import HttpDispatch.Proofs.Session.Origin

/-!
# Connections are isolated

What a handler has counted on one connection never shows on another.  This is said of handlers that
are copied when they are cloned; a plain function has no state of its own, and is shared.

A handler that is kept by a name, a route or a factory is never run (`Session.standing_of_keeps`),
and a handler that a service runs counts the calls of this service and no others
(`Session.standing_of_serviceAt`).  As a service starts from where its factory stands, and the
factory from where its template stood when it was made, the state that a call finds is the state of
the template at that moment and the number of the calls of the service since (`Session.isolated`).
Every service of a session has started like this (`Session.Vacant.history`).
-/

namespace HttpDispatch

namespace Session

variable {s s' : Session} {p q : Place} {sv sv' : RouteService} {r : Ref Handler}

/-! ### The calls of one service -/

/-- A service is known by its handler, then and later. -/
theorem Evolves.eq_of_handler_eq {served : List (Ref Handler)} (h : s.Evolves s' served)
    (hs : s.Sound) (hsv : s.estate.serviceAt p = some sv) (hcopies : s.Copies sv.handler)
    (hsv' : s'.estate.serviceAt q = some sv') (heq : sv'.handler = sv.handler) : sv' = sv := by
  have hcopies' : s'.Copies sv'.handler := by
    rw [heq]
    exact (h.copies_iff (hs.running hsv)).2 hcopies
  rcases h.fresh hsv' hcopies' with hold | hnew
  · obtain rfl : p = q := hs.own hsv hold hcopies heq.symm
    exact Option.some.inj (hold.symm.trans hsv)
  · rw [heq] at hnew
    exact absurd (hs.running hsv) hnew

theorem exists_serviceAt_of_mem_dispatchedIn {cs : List Command} (h : sv ∈ s.dispatchedIn cs) :
    ∃ before p, (s.after before).estate.serviceAt p = some sv := by
  induction cs generalizing s with
  | nil => exact absurd h List.not_mem_nil
  | cons c rest ih =>
    rcases List.mem_append.1 h with h | h
    · obtain ⟨p, hp⟩ := (serves_step (Option.mem_toList.1 h)).place
      exact ⟨[], p, hp⟩
    · obtain ⟨before, p, hp⟩ := ih h
      exact ⟨c :: before, p, hp⟩

/-- The calls that reach the handler of a service are the calls of this service. -/
theorem count_handler_dispatchedIn (hs : s.Sound) (hsv : s.estate.serviceAt p = some sv)
    (hcopies : s.Copies sv.handler) (cs : List Command) :
    ((s.dispatchedIn cs).map RouteService.handler).count sv.handler =
      (s.dispatchedIn cs).count sv := by
  rw [List.count, List.countP_map, List.count]
  refine List.countP_congr fun sv' hmem => ?_
  simp only [Function.comp_apply, beq_iff_eq]
  constructor
  · intro heq
    obtain ⟨before, q, hsv'⟩ := exists_serviceAt_of_mem_dispatchedIn hmem
    exact (evolves_after hs before).eq_of_handler_eq hs hsv hcopies hsv' heq
  · exact congrArg RouteService.handler

/-- The handler of a service counts the calls of this service and no others. -/
theorem standing_of_serviceAt (hs : s.Sound) (hsv : s.estate.serviceAt p = some sv)
    (hcopies : s.Copies sv.handler) (cs : List Command) :
    ((s.after cs).world.handlers.get sv.handler).standing =
      ((s.world.handlers.get sv.handler).script,
        (s.world.handlers.get sv.handler).count + (s.dispatchedIn cs).count sv) := by
  rw [(evolves_after hs cs).standing (hs.running hsv), count_handler_dispatchedIn hs hsv hcopies]

/-- A handler that is kept is never run. -/
theorem standing_of_keeps (hs : s.Sound) (hr : s.estate.Keeps r) (hcopies : s.Copies r)
    (cs : List Command) :
    ((s.after cs).world.handlers.get r).standing = (s.world.handlers.get r).standing := by
  have hevolves := evolves_after hs cs
  have hnone : ((s.dispatchedIn cs).map RouteService.handler).count r = 0 := by
    refine List.count_eq_zero.2 fun hmem => ?_
    obtain ⟨p, sv, hsv, heq⟩ := hevolves.served hmem (hs.kept hr) hcopies
    exact hs.apart hr hcopies hsv heq
  exact hevolves.standing_of_count (hs.kept hr) hnone

/-- A call shows its request together with the count that the handler has come to. -/
theorem exists_handled_step {c : Command} (h : s.dispatched? c = some sv)
    (hr : s.Holds sv.handler) :
    ∃ seen, .event (.handled (s.world.handlers.get sv.handler).script.name
      ((s.world.handlers.get sv.handler).count + 1) seen) ∈ (s.step c).1.timeline := by
  obtain ⟨seen, hseen⟩ := (serves_step h).world.seen
  rw [World.taking, Store.get_modify_self hr] at hseen
  exact ⟨seen, hseen⟩

/-! ### What a connection keeps -/

theorem exists_of_slot_connection {c : Command} {name : String}
    (h : c.slot = some (.connection name)) : ∃ app logger, c = .connect app name logger := by
  cases c with
  | connect app other logger =>
    cases h
    exact ⟨app, logger, rfl⟩
  | _ => nomatch h

/-- A connection stays what it is until another one gets its name. -/
theorem connections_after {name : String} {cs : List Command}
    (h : ∀ app logger, .connect app name logger ∉ cs) (s : Session) :
    (s.after cs).connections.get? name = s.connections.get? name := by
  induction cs generalizing s with
  | nil => rfl
  | cons c rest ih =>
    rw [after_cons, ih fun app logger hmem => h app logger (List.mem_cons_of_mem _ hmem)]
    refine (sameBut_step s c).connections fun hslot => ?_
    obtain ⟨app, logger, rfl⟩ := exists_of_slot_connection hslot
    exact h app logger List.mem_cons_self

/-- What a connection is made of stays as it was at that moment. -/
theorem connect_snapshot {app name : String} {logger : Option String}
    (h : (s.step (.connect app name logger)).1.result.isOk) :
    ∃ a c, s.apps.get? app = some a ∧
      (s.step (.connect app name logger)).2.connections.get? name = some c ∧
      c.logger = (logger.bind s.loggers.get?).getD a.logger ∧
      List.Forall₂ (fun m served => MountedService.Of m c.logger served) a.routes c.routes := by
  obtain ⟨reply, hexec⟩ := exists_exec_of_isOk h
  obtain ⟨a, c, w, ha, hw, hstep⟩ := exec_connect_eq_ok hexec
  refine ⟨a, c, ha, ?_, ?_, App.forall₂_of_connect hw⟩
  · rw [hstep]
    exact Dict.get?_set_self _ _ _
  · obtain ⟨results, routes, -, -, rfl⟩ := App.connect_eq_ok.1 hw
    rfl

/-! ### Isolation -/

theorem sound_after_start (clock : Int) (draws : List Nat) (environ : Environ)
    (past : List Command) : ((start clock draws environ).after past).Sound :=
  (evolves_after (sound_start clock draws environ) past).sound

/-- The handler of a new service stands where its template stood when the factory was made. -/
theorem standing_of_activates (hs : s.Sound) {f : RouteFactory} {t : Handler} {making : Command}
    (hmakes : s.Makes f t making) (hcopies : t.script.cloning = some .copy)
    {between : List Command} {activating : Command}
    (hactivates : ((s.step making).2.after between).Activates f sv activating) :
    let s' := (((s.step making).2.after between).step activating).2
    s'.Sound ∧ (∃ p, s'.estate.serviceAt p = some sv) ∧
      (s'.world.handlers.get sv.handler).standing = t.standing := by
  have hmade := (evolves_step hs making).sound
  have hbetween := (evolves_after hmade between).sound
  obtain ⟨hkeeps, htemplate⟩ := hmakes.copied hs hcopies
  obtain ⟨hplace, hclones⟩ := hactivates.clones hbetween
  have hmadeCopies : (s.step making).2.Copies f.handler := by
    rwa [Copies, Handler.script_eq htemplate]
  have hfactory := standing_of_keeps hmade hkeeps hmadeCopies between
  have hbetweenCopies : ((s.step making).2.after between).Copies f.handler := by
    rwa [Copies, Handler.script_eq hfactory]
  exact ⟨(evolves_step hbetween activating).sound, hplace,
    (hclones.standing hbetweenCopies).trans (hfactory.trans htemplate)⟩

/-- **Connections are isolated.**  In every session that commands lead to:

no two services run the same handler, and none runs one that is kept, if it is one that is copied;
whatever is done later, a handler that is kept stays as it is, and a handler that a service runs has
counted the calls of this service and no others;
a service whose template stood like `t` when its factory was made finds, after `k` calls of its own,
the count of `t` and `k` more, and its next call shows this count and one more;
every service has come about like this;
and a connection stays, for as long as it has its name, one service for each route that was mounted
when it was made, in order, with the logger that was chosen then. -/
theorem isolated (clock : Int) (draws : List Nat) (environ : Environ) (past : List Command) :
    let s := (start clock draws environ).after past
    s.Sound ∧
    (∀ r, s.estate.Keeps r → s.Copies r → ∀ future,
      ((s.after future).world.handlers.get r).standing = (s.world.handlers.get r).standing) ∧
    (∀ p sv, s.estate.serviceAt p = some sv → s.Copies sv.handler → ∀ future,
      ((s.after future).world.handlers.get sv.handler).standing =
        ((s.world.handlers.get sv.handler).script,
          (s.world.handlers.get sv.handler).count + (s.dispatchedIn future).count sv)) ∧
    (∀ making f t, s.Makes f t making → t.script.cloning = some .copy →
      ∀ between activating sv, ((s.step making).2.after between).Activates f sv activating →
      ∀ calls,
        let s' := (((s.step making).2.after between).step activating).2
        let k := (s'.dispatchedIn calls).count sv
        ((s'.after calls).world.handlers.get sv.handler).standing = (t.script, t.count + k) ∧
        ∀ next, (s'.after calls).dispatched? next = some sv →
          ∃ seen, .event (.handled t.script.name (t.count + k + 1) seen) ∈
            ((s'.after calls).step next).1.timeline) ∧
    (∀ p sv, s.estate.serviceAt p = some sv → ∃ before making between activating calls f t,
      past = before ++ making :: (between ++ activating :: calls) ∧
      let s₀ := (start clock draws environ).after before
      s₀.Makes f t making ∧ ((s₀.step making).2.after between).Activates f sv activating) ∧
    (∀ app name logger, (s.step (.connect app name logger)).1.result.isOk →
      ∃ a c, s.apps.get? app = some a ∧ c.logger = (logger.bind s.loggers.get?).getD a.logger ∧
        List.Forall₂ (fun m served => MountedService.Of m c.logger served) a.routes c.routes ∧
        ∀ future, (∀ app logger, .connect app name logger ∉ future) →
          let s' := (s.step (.connect app name logger)).2.after future
          s'.connections.get? name = some c ∧
          ∀ init io, exec (perform (.call name init io)) s'.opened =
            exec (do return .value (← run (c.call init io))) s'.opened) := by
  intro s
  have hs : s.Sound := sound_after_start clock draws environ past
  refine ⟨hs, fun r hr hc => standing_of_keeps hs hr hc,
    fun p sv hsv hc => standing_of_serviceAt hs hsv hc, ?_,
    fun p sv => (vacant_start clock draws environ).history (sound_start clock draws environ), ?_⟩
  · intro making f t hmakes hcopies between activating sv hactivates calls s' k
    obtain ⟨hs', ⟨p, hsv⟩, hstart⟩ := standing_of_activates hs hmakes hcopies hactivates
    have hsvCopies : s'.Copies sv.handler := by
      rwa [Copies, Handler.script_eq hstart]
    have hstanding : ((s'.after calls).world.handlers.get sv.handler).standing =
        (t.script, t.count + k) := by
      rw [standing_of_serviceAt hs' hsv hsvCopies calls, Handler.script_eq hstart,
        Handler.count_eq hstart]
    refine ⟨hstanding, fun next hnext => ?_⟩
    have hholds := (evolves_after hs' calls).holds (hs'.running hsv)
    obtain ⟨seen, hseen⟩ := exists_handled_step hnext hholds
    rw [show Handler.script _ = t.script from congrArg Prod.fst hstanding,
      show Handler.count _ = t.count + k from congrArg Prod.snd hstanding] at hseen
    exact ⟨seen, hseen⟩
  · intro app name logger hanswered
    obtain ⟨a, c, ha, hc, hlogger, hroutes⟩ := connect_snapshot hanswered
    refine ⟨a, c, ha, hlogger, hroutes, ?_⟩
    intro future hfuture s'
    have hc' : s'.connections.get? name = some c := (connections_after hfuture _).trans hc
    exact ⟨hc', fun init io => exec_bind_ok (exec_find_eq_ok.2 ⟨hc', rfl⟩)⟩

/-- A handler that starts at five and is copied when it is cloned. -/
def counter : Script := ⟨"counter", some .copy, 5, none, [], []⟩

/-- A route of this handler is mounted on an application, and the application is connected. -/
def opening : List Command :=
  [.declareRoute "r" ⟨"/", true, none, [], [], .given counter⟩,
    .makeApp "app" ⟨none⟩ none [.named "r"], .connect "app" "c" none]

/-- The session after that. -/
@[irreducible] def counting : Session := (start 0 [] ∅).after opening

/-- A call of the connection. -/
def rootCall : Command := .call "c" ⟨"GET", "/", none, .list []⟩ "io"

/-- A call of a service with a name of its own. -/
def namedCall : Command :=
  .callService "sv" ⟨⟨"GET", "/", none, .list []⟩, ∅, none, ⟨none⟩, "io"⟩

/-- The session when the route has got a service of its own, after a call of the connection. -/
@[irreducible] def activated : Session :=
  (((counting.step (.createFactory "r" "f")).2.after [rootCall]).step
    (.activateFactory "f" "sv" none)).2

/-- A call of the connection makes its own handler count and no other, and a service that is made
after the call starts from the route all the same. -/
theorem isolated_counting :
    (counting.estate.Keeps ⟨0⟩ ∧ counting.Copies ⟨0⟩ ∧
      ((counting.after [rootCall]).world.handlers.get ⟨0⟩).standing =
        (counting.world.handlers.get ⟨0⟩).standing) ∧
    (counting.estate.serviceAt (.mounted "c" 0) = some ⟨⟨2⟩, [], ⟨0⟩⟩ ∧ counting.Copies ⟨2⟩ ∧
      (counting.dispatchedIn [rootCall]).count ⟨⟨2⟩, [], ⟨0⟩⟩ = 1 ∧
      ((counting.after [rootCall]).world.handlers.get ⟨2⟩).standing =
        ((counting.world.handlers.get ⟨2⟩).script,
          (counting.world.handlers.get ⟨2⟩).count + (1 : Nat))) ∧
    (counting.Makes ⟨⟨3⟩, []⟩ (counting.world.handlers.get ⟨0⟩) (.createFactory "r" "f") ∧
      ((counting.step (.createFactory "r" "f")).2.after [rootCall]).Activates ⟨⟨3⟩, []⟩
        ⟨⟨4⟩, [], ⟨0⟩⟩ (.activateFactory "f" "sv" none) ∧
      (activated.after [namedCall]).dispatched? namedCall = some ⟨⟨4⟩, [], ⟨0⟩⟩ ∧
      ∃ name seen, .event (.handled name 7 seen) ∈
        ((activated.after [namedCall]).step namedCall).1.timeline) ∧
    (counting.step (.connect "app" "d" none)).1.result.isOk ∧
      ∃ c, ((counting.step (.connect "app" "d" none)).2.after
        [.mount "app" (.named "r"), rootCall]).connections.get? "d" = some c ∧
        c.routes.length = 1 := by
  have hisolated := isolated 0 [] ∅ opening
  rw [show (start 0 [] ∅).after opening = counting by rw [counting]] at hisolated
  obtain ⟨-, hkept, hserved, hmade, -, hconnected⟩ := hisolated
  have hroute : counting.routes.get? "r" = some ⟨"/", ⟨0⟩, []⟩ := by decide +kernel
  have hkeeps : counting.estate.Keeps ⟨0⟩ := .route hroute rfl
  have hcopies : counting.Copies ⟨0⟩ := by
    rw [Copies]
    decide +kernel
  have hplace : counting.estate.serviceAt (.mounted "c" 0) = some ⟨⟨2⟩, [], ⟨0⟩⟩ := by
    decide +kernel
  have hcopies' : counting.Copies ⟨2⟩ := by
    rw [Copies]
    decide +kernel
  have hone : (counting.dispatchedIn [rootCall]).count ⟨⟨2⟩, [], ⟨0⟩⟩ = 1 := by decide +kernel
  have hmakes : counting.Makes ⟨⟨3⟩, []⟩ (counting.world.handlers.get ⟨0⟩)
      (.createFactory "r" "f") :=
    .create hroute rfl (by decide +kernel) (by decide +kernel)
  have hactivates : ((counting.step (.createFactory "r" "f")).2.after [rootCall]).Activates
      ⟨⟨3⟩, []⟩ ⟨⟨4⟩, [], ⟨0⟩⟩ (.activateFactory "f" "sv" none) :=
    .activate (by decide +kernel) (by decide +kernel) (by decide +kernel)
  have hnext : (activated.after [namedCall]).dispatched? namedCall = some ⟨⟨4⟩, [], ⟨0⟩⟩ := by
    decide +kernel
  have hcount : ((counting.world.handlers.get ⟨0⟩).count +
      (activated.dispatchedIn [namedCall]).count ⟨⟨4⟩, [], ⟨0⟩⟩ + 1 : Int) = 7 := by
    decide +kernel
  have hanswered : (counting.step (.connect "app" "d" none)).1.result.isOk := by decide +kernel
  refine ⟨⟨hkeeps, hcopies, hkept ⟨0⟩ hkeeps hcopies [rootCall]⟩,
    ⟨hplace, hcopies', hone, ?_⟩, ⟨hmakes, hactivates, hnext, ?_⟩, hanswered, ?_⟩
  · rw [← hone]
    exact hserved (.mounted "c" 0) _ hplace hcopies' [rootCall]
  · obtain ⟨-, hseen⟩ := hmade _ _ _ hmakes hcopies [rootCall] _ _ hactivates [namedCall]
    rw [show (((counting.step (.createFactory "r" "f")).2.after [rootCall]).step
      (.activateFactory "f" "sv" none)).2 = activated by rw [activated]] at hseen
    obtain ⟨seen, hmem⟩ := hseen namedCall hnext
    rw [hcount] at hmem
    exact ⟨_, seen, hmem⟩
  · obtain ⟨a, c, ha, -, hroutes, hkeeps⟩ := hconnected "app" "d" none hanswered
    have hfuture : ∀ app logger,
        Command.connect app "d" logger ∉ [.mount "app" (.named "r"), rootCall] := by
      simp [rootCall]
    have hlength : (counting.apps.get? "app").map (·.routes.length) = some 1 := by decide +kernel
    rw [ha] at hlength
    refine ⟨c, (hkeeps _ hfuture).1, ?_⟩
    rw [← hroutes.length_eq]
    exact Option.some.inj hlength

end Session

end HttpDispatch
