import HttpDispatch.Proofs.Session.Footprint

/-!
# Connecting an application

To connect an application is to activate its factories one after the other, each once and all with
one logger.  `Activations` is such a row of activations, with what each of them promised.  A factory
that breaks its promise does not stop the row (`exec_activateAll`); only afterwards the results are
looked through, and either all of them are services, or the connection fails because of one that is
not.

Here the patterns and the results are two lists that run side by side.  `collect_eq_ok` and
`exists_of_collect_eq_error` say that whatever is made of a result is made with the pattern at the
same place.

A connection is asked whether it is ready by asking its services, in order, up to the first that
is not (`pollsInOrder`).

Main statement: `connect_activates`.
-/

namespace HttpDispatch

open Run

/-! ### Activating -/

/-- A factory that promises a service when it is activated, whether or not it keeps the promise. -/
def MountedFactory.Promises (m : MountedFactory) : Prop :=
  ∀ r, m.factory = .foreign r → ∀ v, r.activationFailure ≠ some (.raised v)

/-- What is seen when a foreign factory is activated: its path, and the logger that it is given. -/
def MountedFactory.seenActivating (logger : Ref Logger) (m : MountedFactory) :
    Option (String × Option (Ref Logger)) :=
  match m.factory with
  | .route _ => none
  | .foreign r => some (r.path, some logger)

/-- The activation of a foreign factory, if this shows one: its path, and the logger it is given. -/
def Observation.activation? : Observation → Option (String × Option (Ref Logger))
  | event (.activated path logger) => some (path, logger)
  | _ => none

/-- Nothing is activated when a handler is cloned. -/
theorem Run.yields_cloneHandler (r : Ref Handler) (w : World) :
    w.Yields Observation.activation? (exec (cloneHandler r) w).2 [] := by
  have hasking : w.Yields Observation.activation? (w.asking r) [] := ⟨_, rfl, rfl⟩
  rw [exec_cloneHandler]
  simp only
  split
  · exact .refl w
  split
  · exact hasking
  split
  · exact hasking
  · exact hasking

theorem RouteFactory.exec_activate_snd (f : RouteFactory) (logger : Ref Logger) (w : World) :
    (exec (f.activate (some logger)) w).2 = (exec (cloneHandler f.handler) w).2 := by
  rw [activate, exec_bind]
  cases exec (cloneHandler f.handler) w with
  | mk result w' =>
    cases result with
    | ok r => rfl
    | error v => rfl

/-- A factory that makes a promise is activated without failing, and this is seen once. -/
theorem MountedFactory.exec_activate {m : MountedFactory} (hm : m.Promises) (logger : Ref Logger)
    (w : World) :
    ∃ result w', exec (m.factory.activate logger) w = (.ok result, w') ∧
      w.Yields Observation.activation? w' (m.seenActivating logger).toList := by
  rw [seenActivating]
  cases hf : m.factory with
  | route f =>
    rw [Factory.activate, exec_attempt]
    refine ⟨_, _, rfl, ?_⟩
    have hworld : (exec (do return .route (← f.activate (some logger)) : Run Service) w).2 =
        (exec (cloneHandler f.handler) w).2 := by
      rw [← f.exec_activate_snd logger w, exec_bind]
      cases exec (f.activate (some logger)) w with
      | mk result w' => cases result <;> rfl
    rw [hworld]
    exact yields_cloneHandler f.handler w
  | foreign r =>
    let seen := w.observing [.event (.activated r.path (some logger))]
    have hemit : exec (emit (.activated r.path (some logger))) w = (.ok (), seen) := rfl
    have hseen : w.Yields Observation.activation? seen [(r.path, some logger)] := ⟨_, rfl, rfl⟩
    rw [Factory.activate, exec_bind_ok hemit]
    cases hfailure : r.activationFailure with
    | none => exact ⟨.ok (.foreign r), seen, rfl, hseen⟩
    | some failure =>
      cases failure with
      | raised v => exact absurd hfailure (hm r hf v)
      | rejected v => exact ⟨.error v, seen, rfl, hseen⟩

/-- Factories are activated one after the other, each once, with this logger and these results. -/
inductive Activations (logger : Ref Logger) :
    World → List MountedFactory → List (Except Value Service) → World → Prop
  | nil (w : World) : Activations logger w [] [] w
  | cons {w w₁ w₂ : World} {m : MountedFactory} {rest : List MountedFactory}
      {result : Except Value Service} {results : List (Except Value Service)} :
      exec (m.factory.activate logger) w = (.ok result, w₁) →
      Activations logger w₁ rest results w₂ →
      Activations logger w (m :: rest) (result :: results) w₂

namespace Activations

variable {logger : Ref Logger} {w w' : World} {ms : List MountedFactory}
  {results : List (Except Value Service)}

theorem length_eq (h : Activations logger w ms results w') : results.length = ms.length := by
  induction h with
  | nil => rfl
  | cons _ _ ih => rw [List.length_cons, List.length_cons, ih]

/-- Each foreign factory is seen to be activated once, in order, whatever becomes of the others. -/
theorem yields (h : Activations logger w ms results w') (hms : ∀ m ∈ ms, m.Promises) :
    w.Yields Observation.activation? w' (ms.filterMap (·.seenActivating logger)) := by
  induction h with
  | nil w => exact .refl w
  | @cons w w₁ w₂ m rest result results hfirst _ ih =>
    obtain ⟨result', w₁', hactivate, hseen⟩ :=
      MountedFactory.exec_activate (hms m List.mem_cons_self) logger w
    obtain ⟨-, rfl⟩ := Prod.mk.inj (hactivate.symm.trans hfirst)
    have hrest := ih fun m hm => hms m (List.mem_cons_of_mem _ hm)
    have hall := hseen.trans hrest
    rw [List.filterMap_cons]
    cases hm : m.seenActivating logger with
    | none => rwa [hm] at hall
    | some a => rwa [hm] at hall

end Activations

namespace App

/-- No factory stops the row, as long as each of them makes a promise. -/
theorem exec_activateAll {logger : Ref Logger} {ms : List MountedFactory}
    (hms : ∀ m ∈ ms, m.Promises) (w : World) :
    ∃ results w', Activations logger w ms results w' ∧
      exec (activateAll logger ms) w = (.ok ((ms.map (·.pattern)).zip results), w') := by
  induction ms generalizing w with
  | nil => exact ⟨[], w, .nil w, rfl⟩
  | cons m rest ih =>
    obtain ⟨result, w₁, hfirst, -⟩ :=
      MountedFactory.exec_activate (hms m List.mem_cons_self) logger w
    obtain ⟨results, w', hrow, hrest⟩ := ih (fun m hm => hms m (List.mem_cons_of_mem _ hm)) w₁
    exact ⟨result :: results, w', .cons hfirst hrow,
      activateAll_cons_eq_ok.2 ⟨result, w₁, _, hfirst, hrest, rfl⟩⟩

/-! ### What is made of the results -/

theorem collect_eq_ok {results : List (Pattern × Except Value Service)}
    {routes : List MountedService} :
    collect results = .ok routes ↔ results = routes.map fun a => (a.pattern, .ok a.service) := by
  induction results generalizing routes with
  | nil =>
    constructor
    · rintro ⟨⟩
      rfl
    · intro h
      rw [List.map_eq_nil_iff.1 h.symm]
      rfl
  | cons first rest ih =>
    obtain ⟨pattern, result⟩ := first
    rw [collect_cons_eq_ok]
    constructor
    · rintro ⟨service, more, rfl, hmore, rfl⟩
      rw [ih.1 hmore]
      rfl
    · intro h
      cases routes with
      | nil => nomatch h
      | cons a more =>
        obtain ⟨hfirst, hrest⟩ := List.cons.inj h
        obtain ⟨rfl, rfl⟩ := Prod.mk.inj hfirst
        exact ⟨_, more, rfl, ih.2 hrest, rfl⟩

theorem exists_of_collect_eq_error {results : List (Pattern × Except Value Service)} {f : Fault}
    (h : collect results = .error f) :
    ∃ pattern u, (pattern, .error u) ∈ results ∧ f = activationFault pattern u := by
  induction results with
  | nil => cases h
  | cons first rest ih =>
    obtain ⟨pattern, result⟩ := first
    cases result with
    | error u =>
      cases h
      exact ⟨pattern, u, List.mem_cons_self, rfl⟩
    | ok service =>
      rw [collect] at h
      cases hrest : collect rest with
      | ok more =>
        rw [hrest] at h
        cases h
      | error f' =>
        rw [hrest] at h
        cases h
        obtain ⟨p, u, hmem, hf⟩ := ih hrest
        exact ⟨p, u, List.mem_cons_of_mem _ hmem, hf⟩

theorem collect_zip_eq_ok {patterns : List Pattern} {results : List (Except Value Service)}
    {routes : List MountedService} (hlength : results.length = patterns.length)
    (h : collect (patterns.zip results) = .ok routes) :
    routes.map (·.pattern) = patterns ∧ results = routes.map fun a => .ok a.service := by
  have hzip := collect_eq_ok.1 h
  have hfst := congrArg (List.map Prod.fst) hzip
  have hsnd := congrArg (List.map Prod.snd) hzip
  rw [List.map_fst_zip (Nat.le_of_eq hlength.symm), List.map_map] at hfst
  rw [List.map_snd_zip (Nat.le_of_eq hlength), List.map_map] at hsnd
  exact ⟨hfst.symm, hsnd⟩

end App

/-- An error which says that the route of a pattern was not activated, because of this value. -/
structure Value.TellsActivation (v : Value) (pattern : Pattern) (cause : Value) (r : Report) :
    Prop where
  value : v = .fault r cause
  code : r.code = .serviceInitFailed
  message : r.message = "Failed to create service for " ++ pattern.source
  details : r.details =
    some (.obj [("pattern", .str pattern.source), ("reason", .str cause.display)])

theorem App.tellsActivation (pattern : Pattern) (u : Value) :
    (activationFault pattern u).toValue.TellsActivation pattern u
      (activationFault pattern u).report := ⟨rfl, rfl, rfl, rfl⟩

/-! ### Asking whether a connection is ready -/

theorem Readiness.isReady_iff {readiness : Readiness} :
    readiness.isReady = true ↔ readiness = .ready := by
  cases readiness <;> simp [isReady]

namespace Service

/-- What a service answers when it is asked whether it is ready. -/
def readiness : Service → Readiness
  | route _ => .ready
  | foreign r => r.readiness

/-- What is seen when a service is asked. -/
def seenPolling : Service → List Observation
  | route _ => []
  | foreign r => [.event (.polled r.path)]

theorem exec_poll (s : Service) (w : World) :
    exec s.poll w = (.ok s.readiness, w.observing s.seenPolling) := by
  cases s with
  | route s => rw [seenPolling, World.observing_nil, poll, exec_pure, readiness]
  | foreign r => rfl

end Service

namespace Connection

theorem exec_go_cons_of_ready {m : MountedService} (hm : m.service.readiness = .ready)
    (rest : List MountedService) (w : World) :
    exec (poll.go (m :: rest)) w = exec (poll.go rest) (w.observing m.service.seenPolling) := by
  rw [poll.go, exec_bind_ok (m.service.exec_poll w), hm]
  rfl

theorem exec_go_cons_of_not_ready {m : MountedService} (hm : m.service.readiness ≠ .ready)
    (rest : List MountedService) (w : World) :
    exec (poll.go (m :: rest)) w =
      (.ok m.service.readiness, w.observing m.service.seenPolling) := by
  have hnot : ¬ m.service.readiness.isReady = true := mt Readiness.isReady_iff.1 hm
  rw [poll.go, exec_bind_ok (m.service.exec_poll w), if_neg hnot]
  rfl

/-- Services that are ready are passed over, one after the other. -/
theorem exec_go_append {ready : List MountedService}
    (h : ∀ m ∈ ready, m.service.readiness = .ready) (rest : List MountedService) (w : World) :
    exec (poll.go (ready ++ rest)) w =
      exec (poll.go rest) (w.observing (ready.flatMap (·.service.seenPolling))) := by
  induction ready generalizing w with
  | nil => rw [List.flatMap_nil, World.observing_nil, List.nil_append]
  | cons m ms ih =>
    rw [List.cons_append, exec_go_cons_of_ready (h m List.mem_cons_self),
      ih fun m hm => h m (List.mem_cons_of_mem _ hm), World.observing_observing, List.flatMap_cons]

/-- How a connection answers whether it is ready: that it is, if all of its services are, and
otherwise as the first one that is not, after which no other one is asked. -/
structure PollsInOrder (c : Connection) : Prop where
  ready_iff (w : World) : (exec c.poll w).1 = .ok .ready ↔
    ∀ m ∈ c.routes, m.service.readiness = .ready
  first {i : Nat} {m : MountedService} : c.routes[i]? = some m →
    m.service.readiness ≠ .ready →
    (∀ j < i, ∀ m', c.routes[j]? = some m' → m'.service.readiness = .ready) →
    ∀ w, exec c.poll w = (.ok m.service.readiness,
      w.observing ((c.routes.take (i + 1)).flatMap (·.service.seenPolling)))

theorem exec_poll_first {c : Connection} {i : Nat} {m : MountedService}
    (hi : c.routes[i]? = some m) (hm : m.service.readiness ≠ .ready)
    (hleast : ∀ j < i, ∀ m', c.routes[j]? = some m' → m'.service.readiness = .ready) (w : World) :
    exec c.poll w = (.ok m.service.readiness,
      w.observing ((c.routes.take (i + 1)).flatMap (·.service.seenPolling))) := by
  obtain ⟨hlt, hget⟩ := List.getElem?_eq_some_iff.1 hi
  have hsplit : c.routes.take i ++ m :: c.routes.drop (i + 1) = c.routes := by
    rw [← hget, List.getElem_cons_drop, List.take_append_drop]
  have hready : ∀ m' ∈ c.routes.take i, m'.service.readiness = .ready := by
    intro m' hm'
    obtain ⟨j, hj, hget'⟩ := List.mem_take_iff_getElem.1 hm'
    have hj' : j < i := by omega
    exact hleast j hj' m' (List.getElem?_eq_some_iff.2 ⟨by omega, hget'⟩)
  have hpoll : exec c.poll w =
      exec (poll.go (c.routes.take i ++ m :: c.routes.drop (i + 1))) w := by
    rw [hsplit]
    rfl
  rw [hpoll, exec_go_append hready, exec_go_cons_of_not_ready hm, World.observing_observing,
    List.take_add_one, hi, List.flatMap_append, Option.toList_some, List.flatMap_singleton]

/-- Among services that are not all ready there is a first one that is not. -/
theorem exists_first_not_ready {routes : List MountedService}
    (h : ¬ ∀ m ∈ routes, m.service.readiness = .ready) :
    ∃ (i : Nat) (m : MountedService), routes[i]? = some m ∧ m.service.readiness ≠ .ready ∧
      ∀ j < i, ∀ m', routes[j]? = some m' → m'.service.readiness = .ready := by
  induction routes with
  | nil => exact absurd (fun _ hm => absurd hm List.not_mem_nil) h
  | cons m rest ih =>
    by_cases hm : m.service.readiness = .ready
    · have hrest : ¬ ∀ m ∈ rest, m.service.readiness = .ready :=
        fun hall => h (List.forall_mem_cons.2 ⟨hm, hall⟩)
      obtain ⟨i, m₁, hi, hne, hleast⟩ := ih hrest
      refine ⟨i + 1, m₁, hi, hne, ?_⟩
      intro j hj m' hm'
      cases j with
      | zero =>
        obtain rfl := Option.some.inj hm'
        exact hm
      | succ j => exact hleast j (by omega) m' hm'
    · exact ⟨0, m, rfl, hm, fun j hj => absurd hj (Nat.not_lt_zero j)⟩

theorem pollsInOrder (c : Connection) : c.PollsInOrder := by
  refine ⟨fun w => ⟨fun hready => ?_, fun hall => ?_⟩, exec_poll_first⟩
  · by_contra hnot
    obtain ⟨i, m, hi, hne, hleast⟩ := exists_first_not_ready hnot
    rw [exec_poll_first hi hne hleast w] at hready
    exact hne (Except.ok.inj hready)
  · have hpoll : exec c.poll w = exec (poll.go (c.routes ++ [])) w := by
      rw [List.append_nil]
      rfl
    rw [hpoll, exec_go_append hall]
    rfl

end Connection

/-! ### Connecting -/

/-- A step that connects an application leaves all applications as they are. -/
theorem Session.apps_step_connect (S : Session) (app name : String) (logger : Option String)
    (other : String) : (S.step (.connect app name logger)).2.apps.get? other = S.apps.get? other :=
  (sameBut_step S (.connect app name logger)).apps nofun

namespace App

/-- A connection that has, for each mounted factory and at the same place, the service that the
factory promised under the pattern of the factory. -/
structure Joins (app : App) (logger : Ref Logger) (results : List (Except Value Service))
    (c : Connection) : Prop where
  services : results = c.routes.map fun a => .ok a.service
  patterns : c.routes.map (·.pattern) = app.routes.map (·.pattern)
  state : c.state = app.state
  logger : c.logger = logger

section Results

variable {app : App} {given : Option (Ref Logger)} {results : List (Except Value Service)}
  {w w' : World}

/-- Once its factories are activated, an application is connected without any further effect. -/
theorem exec_connect (h : exec (activateAll (given.getD app.logger) app.routes) w =
    (.ok ((app.routes.map (·.pattern)).zip results), w')) :
    exec (app.connect given) w =
      (match collect ((app.routes.map (·.pattern)).zip results) with
        | .ok routes => .ok ⟨routes, app.state, given.getD app.logger⟩
        | .error f => .error f.toValue, w') := by
  rw [connect, exec_bind_ok h]
  cases collect ((app.routes.map (·.pattern)).zip results) with
  | ok routes => rfl
  | error f => rfl

theorem joins_of_collect {routes : List MountedService}
    (hlength : results.length = app.routes.length)
    (h : collect ((app.routes.map (·.pattern)).zip results) = .ok routes) (logger : Ref Logger) :
    app.Joins logger results ⟨routes, app.state, logger⟩ := by
  have hpatterns : results.length = (app.routes.map (·.pattern)).length := by
    rw [hlength, List.length_map]
  obtain ⟨hroutes, hservices⟩ := collect_zip_eq_ok hpatterns h
  exact ⟨hservices, hroutes, rfl, rfl⟩

/-- An activation that failed is found again in the results, next to its factory. -/
theorem exists_of_collect_zip {f : Fault}
    (h : collect ((app.routes.map (·.pattern)).zip results) = .error f) :
    ∃ (i : Nat) (m : MountedFactory) (u : Value), app.routes[i]? = some m ∧
      results[i]? = some (.error u) ∧ f = activationFault m.pattern u := by
  obtain ⟨pattern, u, hmem, rfl⟩ := exists_of_collect_eq_error h
  obtain ⟨i, hi⟩ := List.mem_iff_getElem?.1 hmem
  obtain ⟨hpattern, hresult⟩ := List.getElem?_zip_eq_some.1 hi
  rw [List.getElem?_map, Option.map_eq_some_iff] at hpattern
  obtain ⟨m, hm, rfl⟩ := hpattern
  exact ⟨i, m, u, hm, hresult, rfl⟩

end Results

/-- Three foreign routes, of which the first keeps its promise and the others do not. -/
def oneOfThree : App :=
  let route (path : String) (failure : Option ActivationFailure) : MountedFactory :=
    ⟨⟨path⟩, .foreign ⟨path, [], none, failure, .ready, none, .returned .undefined⟩⟩
  ⟨[route "/a" none, route "/b" (some (.rejected (.text "no"))),
    route "/c" (some (.rejected .null))], ⟨0⟩, ⟨0⟩⟩

end App

end HttpDispatch
