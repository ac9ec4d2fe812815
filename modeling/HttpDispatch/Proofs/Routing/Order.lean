import HttpDispatch.Proofs.Routing.Allowed
import HttpDispatch.Proofs.Session.Growth

/-!
# The order of routes

Two applications with the same routes, mounted in different orders, differ in which of several
routes takes a request that more than one of them would take, and in nothing else.

What a service runs is told by what it inherits: the script of the handler of its route, the count
from which it goes on, and its family (`World.Inherits`).  This is handed down from the route to the
factory and from the factory to the service, and does not depend on what is mounted or activated in
between (`App.forall₂_of_connected`).

Main statement: `Connection.call_of_perm`.
-/

namespace HttpDispatch

open Run

/-! ### What a clone inherits -/

/-- What is handed down from a handler to its clones. -/
structure Lineage where
  script : Script
  count : Int
  family : Ref Handler

namespace Lineage

/-- What the clone of a handler has: a fresh one counts from the start. -/
def heir (l : Lineage) : Lineage :=
  if l.script.cloning = some .fresh then { l with count := 0 } else l

@[simp] theorem script_heir (l : Lineage) : l.heir.script = l.script := by
  rw [heir]
  split <;> rfl

/-- The clone of a clone has what the clone has. -/
@[simp] theorem heir_heir (l : Lineage) : l.heir.heir = l.heir := by
  by_cases h : l.script.cloning = some .fresh
  · simp [heir, h]
  · simp [heir, h]

end Lineage

/-- Whether a handler is its own clone. -/
def Script.IsShared (s : Script) : Prop := s.cloning = none ∨ s.cloning = some .same

/-- What stays the same about a handler that is asked for clones. -/
def Handler.record (h : Handler) : Script × Int × Option (Ref Handler) :=
  (h.script, h.count, h.origin)

namespace World

/-- What a handler hands down. -/
def lineage (w : World) (r : Ref Handler) : Lineage :=
  let h := w.handlers.get r
  ⟨h.script, h.count, h.family r⟩

/-- In the second world, a handler is the clone that a new owner has of another one in the first:
this one itself, if it is its own clone, and else a new one. -/
structure Inherits (w w' : World) (r r' : Ref Handler) : Prop where
  holds : w'.handlers.Holds r'
  lineage : w'.lineage r' = (w.lineage r).heir
  shared : (w.handlers.get r).script.IsShared → r' = r
  own : ¬ (w.handlers.get r).script.IsShared → ¬ w.handlers.Holds r'

variable {w w₁ w₂ : World} {r r' r'' : Ref Handler}

theorem lineage_eq (hk : w.handlers.Keeps Handler.record w₁.handlers) (hr : w.handlers.Holds r) :
    w₁.lineage r = w.lineage r := by
  have hsame := hk.same hr
  simp only [Handler.record, Prod.mk.injEq] at hsame
  simp only [World.lineage, Handler.family, hsame]

theorem Inherits.script (h : w.Inherits w₁ r r') :
    (w₁.handlers.get r').script = (w.handlers.get r).script :=
  (congrArg Lineage.script h.lineage).trans (Lineage.script_heir _)

theorem Inherits.later (h : w.Inherits w₁ r r')
    (hk : w₁.handlers.Keeps Handler.record w₂.handlers) : w.Inherits w₂ r r' :=
  ⟨hk.holds h.holds, (lineage_eq hk h.holds).trans h.lineage, h.shared, h.own⟩

theorem Inherits.earlier (h : w₁.Inherits w₂ r r') (hr : w.handlers.Holds r)
    (hk : w.handlers.Keeps Handler.record w₁.handlers) : w.Inherits w₂ r r' := by
  have hlineage := lineage_eq hk hr
  have hscript : (w₁.handlers.get r).script = (w.handlers.get r).script :=
    congrArg Lineage.script hlineage
  exact ⟨h.holds, hlineage ▸ h.lineage, hscript ▸ h.shared,
    fun hown => mt hk.holds (h.own (hscript ▸ hown))⟩

/-- What is inherited from an heir is inherited from the handler at the beginning. -/
theorem Inherits.trans (h : w.Inherits w₁ r r') (h' : w₁.Inherits w₂ r' r'')
    (hk : w.handlers.Keeps Handler.record w₁.handlers) : w.Inherits w₂ r r'' := by
  refine ⟨h'.holds, ?_, fun hshared => ?_, fun hown => ?_⟩
  · rw [h'.lineage, h.lineage, Lineage.heir_heir]
  · rw [h'.shared (h.script ▸ hshared), h.shared hshared]
  · exact mt hk.holds (h'.own (h.script ▸ hown))

theorem keepsRecord_asking (w : World) (r : Ref Handler) :
    w.handlers.Keeps Handler.record (w.asking r).handlers :=
  .modify (f := fun f : Handler => { f with clones := f.clones + 1 }) (fun _ => rfl) _ _

end World

namespace Run

theorem keepsRecord_cloneHandler (r : Ref Handler) (w : World) :
    w.handlers.Keeps Handler.record (exec (cloneHandler r) w).2.handlers := by
  rw [exec_cloneHandler]
  simp only
  split
  · exact .refl _
  split
  · exact w.keepsRecord_asking r
  split
  · exact w.keepsRecord_asking r
  · exact (w.keepsRecord_asking r).trans (.push _ _)

/-- A new owner gets a clone. -/
theorem inherits_cloneHandler {r r' : Ref Handler} {w w' : World} (hr : w.handlers.Holds r)
    (h : exec (cloneHandler r) w = (.ok r', w')) : w.Inherits w' r r' := by
  have hasking := w.keepsRecord_asking r
  rw [exec_cloneHandler] at h
  simp only at h
  split at h
  · next hnone =>
    cases h
    refine ⟨hr, ?_, fun _ => rfl, fun hown => absurd (.inl hnone) hown⟩
    rw [Lineage.heir, if_neg]
    simp [World.lineage, hnone]
  · next cloning hcloning =>
    split at h
    · nomatch h
    cases cloning with
    | same =>
      cases h
      refine ⟨hasking.holds hr, ?_, fun _ => rfl, fun hown => absurd (.inr hcloning) hown⟩
      rw [World.lineage_eq hasking hr, Lineage.heir, if_neg]
      simp [World.lineage, hcloning]
    | copy | fresh =>
      cases h
      refine ⟨Store.holds_push_next _ _, ?_, fun hshared => ?_, fun _ hn =>
        Store.not_holds_next _ (hasking.holds hn)⟩
      · simp [World.lineage, Lineage.heir, hcloning, Store.get_push_next, Handler.family]
      · rcases hshared with hshared | hshared <;> simp [hcloning] at hshared

end Run

/-! ### What is made of a route -/

namespace Route

/-- Whether the pattern of a route fits a path. -/
def covers (path : String) (r : Route) : Bool := ((Pattern.mk r.path).params? path).isSome

/-- Whether a route takes a request: it covers the path and accepts the method. -/
def takes (path method : String) (r : Route) : Bool :=
  r.covers path && Method.accepts r.methods method

/-- A factory that was made of a route, with a clone of its handler. -/
def FactoryOf (w w' : World) (r : Route) (m : MountedFactory) : Prop :=
  ∃ h, m = ⟨⟨r.path⟩, .route ⟨h, r.methods⟩⟩ ∧ w.Inherits w' r.handler h

/-- A service that was made of a route, with a clone of its handler. -/
def ServiceOf (w w' : World) (r : Route) (m : MountedService) : Prop :=
  ∃ h l, m = ⟨⟨r.path⟩, .route ⟨h, r.methods, l⟩⟩ ∧ w.Inherits w' r.handler h

variable {w w₁ w₂ : World} {r : Route}

theorem FactoryOf.later {m : MountedFactory} (h : FactoryOf w w₁ r m)
    (hk : w₁.handlers.Keeps Handler.record w₂.handlers) : FactoryOf w w₂ r m := by
  obtain ⟨h', hm, hinherits⟩ := h
  exact ⟨h', hm, hinherits.later hk⟩

theorem ServiceOf.covers {m : MountedService} (h : ServiceOf w w₁ r m) (path : String) :
    m.covers path = r.covers path := by
  obtain ⟨_, _, rfl, -⟩ := h
  rfl

theorem ServiceOf.takes {m : MountedService} (h : ServiceOf w w₁ r m) (path method : String) :
    m.takes path method = r.takes path method := by
  obtain ⟨_, _, rfl, -⟩ := h
  rfl

theorem ServiceOf.methods {m : MountedService} (h : ServiceOf w w₁ r m) :
    m.service.methods = r.methods := by
  obtain ⟨_, _, rfl, -⟩ := h
  rfl

end Route

namespace App

/-- The application with further routes, mounted in order. -/
def mountAll (app : App) : List Route → Run App
  | [] => pure app
  | r :: rest => do (← app.mount (.route r)).mountAll rest

/-- A connection of a new application with these routes. -/
def connected (state : AppState) (routes : List Route) (logger : Option (Ref Logger)) :
    Run Connection := do
  let app ← (← App.new state).mountAll routes
  app.connect logger

/-- Mounting a route has its handler cloned. -/
theorem mount_route_eq_ok {app app' : App} {r : Route} {w w' : World} :
    exec (app.mount (.route r)) w = (.ok app', w') ↔
      ∃ h, exec (cloneHandler r.handler) w = (.ok h, w') ∧
        app' = { app with routes := app.routes ++ [⟨⟨r.path⟩, .route ⟨h, r.methods⟩⟩] } := by
  rw [Session.mount_eq_ok]
  constructor
  · rintro ⟨_, hcreate, rfl⟩
    obtain ⟨f, hf, rfl⟩ := Session.create_route_eq_ok.1 hcreate
    obtain ⟨h, w₁, hclone, hdone⟩ := exec_bind_eq_ok.1 hf
    cases hdone
    exact ⟨h, hclone, rfl⟩
  · rintro ⟨h, hclone, rfl⟩
    refine ⟨_, Session.create_route_eq_ok.2 ⟨⟨h, r.methods⟩, ?_, rfl⟩, rfl⟩
    exact exec_bind_eq_ok.2 ⟨h, w', hclone, rfl⟩

/-- Mounting routes makes a factory of each, in order. -/
theorem forall₂_of_mountAll {app app' : App} {routes : List Route} {w₀ w w' : World}
    (hheld : ∀ r ∈ routes, w₀.handlers.Holds r.handler)
    (hk₀ : w₀.handlers.Keeps Handler.record w.handlers)
    (h : exec (app.mountAll routes) w = (.ok app', w')) :
    w.handlers.Keeps Handler.record w'.handlers ∧ ∃ ms,
      app' = { app with routes := app.routes ++ ms } ∧
        List.Forall₂ (Route.FactoryOf w₀ w') routes ms := by
  induction routes generalizing app w with
  | nil =>
    cases h
    exact ⟨.refl _, [], by rw [List.append_nil], .nil⟩
  | cons r rest ih =>
    obtain ⟨app₁, w₁, hmount, hrest⟩ := exec_bind_eq_ok.1 h
    obtain ⟨h₁, hclone, rfl⟩ := mount_route_eq_ok.1 hmount
    have hk : w.handlers.Keeps Handler.record w₁.handlers := by
      have hk := keepsRecord_cloneHandler r.handler w
      rwa [hclone] at hk
    have hr : w₀.handlers.Holds r.handler := hheld r List.mem_cons_self
    have hfirst : w₀.Inherits w₁ r.handler h₁ :=
      (inherits_cloneHandler (hk₀.holds hr) hclone).earlier hr hk₀
    obtain ⟨hk', ms, rfl, hms⟩ :=
      ih (fun r hr => hheld r (List.mem_cons_of_mem _ hr)) (hk₀.trans hk) hrest
    exact ⟨hk.trans hk', _ :: ms, by rw [List.append_assoc]; rfl,
      .cons ⟨h₁, rfl, hfirst.later hk'⟩ hms⟩

/-- Activating factories makes a service of each, in order. -/
theorem forall₂_serviceOf_of_activateAll {logger : Ref Logger} {routes : List Route}
    {ms : List MountedFactory} {results : List (Pattern × Except Value Service)}
    {services : List MountedService} {w₀ w w' : World}
    (hk₀ : w₀.handlers.Keeps Handler.record w.handlers)
    (hms : List.Forall₂ (Route.FactoryOf w₀ w) routes ms)
    (h : exec (activateAll logger ms) w = (.ok results, w'))
    (hservices : collect results = .ok services) :
    w.handlers.Keeps Handler.record w'.handlers ∧
      List.Forall₂ (Route.ServiceOf w₀ w') routes services := by
  induction routes generalizing w ms results services with
  | nil =>
    cases hms
    cases h
    cases hservices
    exact ⟨.refl _, .nil⟩
  | cons r routes ih =>
    obtain ⟨m, rest, ⟨h₀, rfl, hinherits⟩, hrest, rfl⟩ := List.forall₂_cons_left_iff.1 hms
    obtain ⟨result, w₁, more, hfirst, hmore, rfl⟩ := activateAll_cons_eq_ok.1 h
    obtain ⟨service, others, rfl, hothers, rfl⟩ := collect_cons_eq_ok.1 hservices
    obtain ⟨s, rfl, hactivate⟩ := (Factory.activate_eq_ok hfirst).1 _ rfl
    obtain ⟨h₁, hclone, rfl⟩ := RouteFactory.activate_some_eq_ok.1 hactivate
    have hk : w.handlers.Keeps Handler.record w₁.handlers := by
      have hk := keepsRecord_cloneHandler h₀ w
      rwa [hclone] at hk
    obtain ⟨hk', hmade⟩ := ih (hk₀.trans hk) (hrest.imp fun _ _ hm => hm.later hk) hmore hothers
    have hservice : w₀.Inherits w₁ r.handler h₁ :=
      hinherits.trans (inherits_cloneHandler hinherits.holds hclone) hk₀
    exact ⟨hk.trans hk', .cons ⟨h₁, logger, rfl, hservice.later hk'⟩ hmade⟩

/-- A connection of a new application has a service for each route, in order, with the state of this
application. -/
theorem forall₂_of_connected {state : AppState} {routes : List Route}
    {logger : Option (Ref Logger)} {w w' : World} {c : Connection}
    (hheld : ∀ r ∈ routes, w.handlers.Holds r.handler)
    (h : exec (connected state routes logger) w = (.ok c, w')) :
    (∃ app w₀, exec (App.new state) w = (.ok app, w₀) ∧ c.state = app.state) ∧
      List.Forall₂ (Route.ServiceOf w w') routes c.routes := by
  obtain ⟨app, w₀, hnew, h⟩ := exec_bind_eq_ok.1 h
  obtain ⟨app', w₁, hmount, hconnect⟩ := exec_bind_eq_ok.1 h
  have hk : w.handlers.Keeps Handler.record w₀.handlers := by
    have hleaves := LeavesHandlers.new state w
    rw [hnew] at hleaves
    rw [hleaves]
    exact .refl _
  obtain ⟨hk', ms, rfl, hms⟩ := forall₂_of_mountAll hheld hk hmount
  have hempty : app.routes = [] := Session.routes_new hnew
  obtain ⟨results, services, hall, hcollect, rfl⟩ := connect_eq_ok.1 hconnect
  rw [hempty, List.nil_append] at hall
  exact ⟨⟨app, w₀, hnew, rfl⟩,
    (forall₂_serviceOf_of_activateAll (hk.trans hk') hms hall hcollect).2⟩

end App

namespace Connection

/-! ### Routes in another order -/

/-- The services of a connection are those that were made of these routes. -/
structure ServesRoutes (c : Connection) (w w' : World) (routes : List Route) : Prop where
  route : ∀ m ∈ c.routes, ∃ r ∈ routes, r.ServiceOf w w' m
  service : ∀ r ∈ routes, ∃ m ∈ c.routes, r.ServiceOf w w' m

variable {c : Connection} {w w' : World} {routes : List Route}

theorem servesRoutes_of_forall₂ (h : List.Forall₂ (Route.ServiceOf w w') routes c.routes) :
    c.ServesRoutes w w' routes where
  route _ hm := exists_of_forall₂ h hm
  service _ hr := exists_of_forall₂ h.flip hr

namespace ServesRoutes

theorem perm {routes' : List Route} (h : c.ServesRoutes w w' routes)
    (hperm : routes.Perm routes') : c.ServesRoutes w w' routes' := by
  refine ⟨fun m hm => ?_, fun r hr => h.service r (hperm.mem_iff.2 hr)⟩
  obtain ⟨r, hr, hservice⟩ := h.route m hm
  exact ⟨r, hperm.mem_iff.1 hr, hservice⟩

theorem onlyRoutes (h : c.ServesRoutes w w' routes) : c.OnlyRoutes := by
  intro m hm
  obtain ⟨r, -, _, _, rfl, -⟩ := h.route m hm
  exact ⟨_, rfl⟩

theorem any_covers (h : c.ServesRoutes w w' routes) (path : String) :
    c.routes.any (·.covers path) = routes.any (·.covers path) := by
  rw [Bool.eq_iff_iff, List.any_eq_true, List.any_eq_true]
  constructor
  · rintro ⟨m, hm, hcovers⟩
    obtain ⟨r, hr, hservice⟩ := h.route m hm
    exact ⟨r, hr, hservice.covers path ▸ hcovers⟩
  · rintro ⟨r, hr, hcovers⟩
    obtain ⟨m, hm, hservice⟩ := h.service r hr
    exact ⟨m, hm, (hservice.covers path).trans hcovers⟩

theorem find?_eq_none_iff (h : c.ServesRoutes w w' routes) (path method : String) :
    c.routes.find? (·.takes path method) = none ↔ ∀ r ∈ routes, ¬ r.takes path method = true := by
  rw [List.find?_eq_none]
  constructor
  · intro hnone r hr
    obtain ⟨m, hm, hservice⟩ := h.service r hr
    exact hservice.takes path method ▸ hnone m hm
  · intro hnone m hm
    obtain ⟨r, hr, hservice⟩ := h.route m hm
    exact (hservice.takes path method).symm ▸ hnone r hr

theorem mem_methodsAt_iff (h : c.ServesRoutes w w' routes) {path x : String} :
    x ∈ methodsAt path c.routes ↔ ∃ r ∈ routes, r.covers path = true ∧ x ∈ r.methods := by
  rw [mem_methodsAt]
  constructor
  · rintro ⟨m, hm, hcovers, hx⟩
    obtain ⟨r, hr, hservice⟩ := h.route m hm
    exact ⟨r, hr, hservice.covers path ▸ hcovers, hservice.methods ▸ hx⟩
  · rintro ⟨r, hr, hcovers, hx⟩
    obtain ⟨m, hm, hservice⟩ := h.service r hr
    exact ⟨m, hm, (hservice.covers path).trans hcovers, hservice.methods.symm ▸ hx⟩

end ServesRoutes

/-- A connection answers requests with this head by saying that there is no route: on any transport
and in any world.  What is logged and received then is told by `RefusesPath.received`. -/
def RefusesPath (c : Connection) (init : HeadInit) (headers : Headers) : Prop :=
  ∀ (io : String) (w : World),
    let given := headers.get? RequestHead.traceHeader
    exec (c.call init io) w =
      exec (refuse ((w.loggers.get c.logger).child (w.traceFor given)) io init.path init.verb
          (noRouteReport init.path init.verb (w.traceIdFor given), ∅))
        (w.drawing (World.drawsFor given))

theorem refusesPath_of_find? {init : HeadInit} {headers : Headers}
    (hh : Headers.ofInit? init.headers = some headers)
    (hfind : c.routes.find? (·.takes init.path init.verb) = none)
    (hany : ¬ c.routes.any (·.covers init.path) = true) : c.RefusesPath init headers := by
  intro io w
  have hrefused := exec_call_refused hh hfind io w
  rwa [refusal, if_neg hany] at hrefused

/-- Two connections do the same with requests with this head: both give them to a handler, both
refuse the method, with a list of the same methods, or both say that there is no route. -/
inductive Agree (c c' : Connection) (init : HeadInit) (headers : Headers) : Prop
  | dispatched (m m' : MountedService) (s s' : RouteService) :
      c.HandsTo init headers m s → c'.HandsTo init headers m' s' → Agree c c' init headers
  | notAllowed (allowed allowed' : List String) :
      c.RefusesMethod init headers allowed → c'.RefusesMethod init headers allowed' →
        allowed.Perm allowed' → Agree c c' init headers
  | noRoute : c.RefusesPath init headers → c'.RefusesPath init headers → Agree c c' init headers

variable {c' : Connection} {w₁ w₁' : World} {init : HeadInit} {headers : Headers}

theorem ServesRoutes.agree (h : c.ServesRoutes w w₁ routes) (h' : c'.ServesRoutes w w₁' routes)
    (hh : Headers.ofInit? init.headers = some headers) : Agree c c' init headers := by
  by_cases htaken : ∀ r ∈ routes, ¬ r.takes init.path init.verb = true
  · have hfind := (h.find?_eq_none_iff init.path init.verb).2 htaken
    have hfind' := (h'.find?_eq_none_iff init.path init.verb).2 htaken
    by_cases hany : routes.any (·.covers init.path) = true
    · refine .notAllowed _ _
        (refusesMethod_of_find? hh hfind ((h.any_covers _).trans hany))
        (refusesMethod_of_find? hh hfind' ((h'.any_covers _).trans hany)) ?_
      refine (List.perm_ext_iff_of_nodup (FirstOccurrences.eraseDups _).nodup
        (FirstOccurrences.eraseDups _).nodup).2 fun x => ?_
      rw [List.mem_eraseDups, List.mem_eraseDups, h.mem_methodsAt_iff, h'.mem_methodsAt_iff]
    · exact .noRoute (refusesPath_of_find? hh hfind (by rwa [h.any_covers]))
        (refusesPath_of_find? hh hfind' (by rwa [h'.any_covers]))
  · obtain ⟨m, hm⟩ := Option.ne_none_iff_exists'.1
      (mt (h.find?_eq_none_iff init.path init.verb).1 htaken)
    obtain ⟨m', hm'⟩ := Option.ne_none_iff_exists'.1
      (mt (h'.find?_eq_none_iff init.path init.verb).1 htaken)
    obtain ⟨s, hs⟩ := h.onlyRoutes.handsTo hh hm
    obtain ⟨s', hs'⟩ := h'.onlyRoutes.handsTo hh hm'
    exact .dispatched m m' s s' hs hs'

theorem eq_of_mem_of_length_le_one {α : Type} {l : List α} (h : l.length ≤ 1) {a b : α}
    (ha : a ∈ l) (hb : b ∈ l) : a = b := by
  match l, h with
  | [x], _ => rw [List.mem_singleton.1 ha, List.mem_singleton.1 hb]

/-- Where one route at most takes a request, a service that was made of it gets the request. -/
theorem ServesRoutes.handsTo (h : c.ServesRoutes w w₁ routes)
    (hh : Headers.ofInit? init.headers = some headers)
    (hone : (routes.filter (·.takes init.path init.verb)).length ≤ 1) {r : Route} (hr : r ∈ routes)
    (htakes : r.takes init.path init.verb = true) :
    ∃ (q l : _), w.Inherits w₁ r.handler q ∧
      c.HandsTo init headers ⟨⟨r.path⟩, .route ⟨q, r.methods, l⟩⟩ ⟨q, r.methods, l⟩ := by
  obtain ⟨m, hm⟩ := Option.ne_none_iff_exists'.1
    (mt (h.find?_eq_none_iff init.path init.verb).1 fun hnone => hnone r hr htakes)
  obtain ⟨r', hr', hservice⟩ := h.route m (List.mem_of_find?_eq_some hm)
  have htakes' : r'.takes init.path init.verb = true :=
    (hservice.takes _ _).symm.trans (List.find?_some hm)
  obtain rfl : r' = r := eq_of_mem_of_length_le_one hone (List.mem_filter.2 ⟨hr', htakes'⟩)
    (List.mem_filter.2 ⟨hr, htakes⟩)
  obtain ⟨q, l, rfl, hinherits⟩ := hservice
  obtain ⟨s, hs⟩ := h.onlyRoutes.handsTo hh hm
  obtain rfl := Service.route.inj hs.route
  exact ⟨q, l, hinherits, hs⟩

/-- The requests that two connections make of one head differ in nothing if the clock and the next
draw are the same. -/
theorem requestFor_eq {m m' : MountedService} {u u' : World} (hpattern : m.pattern = m'.pattern)
    (hstate : c.state = c'.state) (hclock : u.clock = u'.clock) (hdraw : u.nextDraw = u'.nextDraw)
    (io : String) : c.requestFor init headers io u m = c'.requestFor init headers io u' m' := by
  simp only [requestFor, World.traceIdFor, hpattern, hstate, hclock, hdraw]

/-- **What the order of routes can change.**  Two applications have the same routes, in two orders.
For requests with valid headers, their connections agree on whether a handler gets the request, the
method is not allowed or there is no route, and in the second case they list the same methods.
Where one route at most takes the request, what decides how its handler handles it does not depend
on the order: either both connections run the handler of the route itself, or both run new clones of
it that go on from the same count.  With the same clock and draws, both handlers get the same
request: the same parameters, query, method and trace id. -/
theorem call_of_perm {routes routes' : List Route} (hperm : routes.Perm routes') {state : AppState}
    {logger : Option (Ref Logger)} {w w₁ w₁' : World} {c c' : Connection}
    (hheld : ∀ r ∈ routes, w.handlers.Holds r.handler)
    (h : exec (App.connected state routes logger) w = (.ok c, w₁))
    (h' : exec (App.connected state routes' logger) w = (.ok c', w₁'))
    {init : HeadInit} {headers : Headers} (hh : Headers.ofInit? init.headers = some headers) :
    Agree c c' init headers ∧
      ((routes.filter (·.takes init.path init.verb)).length ≤ 1 →
        ∀ r ∈ routes, r.takes init.path init.verb = true →
          ∃ m m' s s', c.HandsTo init headers m s ∧ c'.HandsTo init headers m' s' ∧
            w.Inherits w₁ r.handler s.handler ∧ w.Inherits w₁' r.handler s'.handler ∧
            w₁.lineage s.handler = w₁'.lineage s'.handler ∧
            ∀ (io : String) (u u' : World), u.clock = u'.clock → u.nextDraw = u'.nextDraw →
              c.requestFor init headers io u m = c'.requestFor init headers io u' m') := by
  have hheld' : ∀ r ∈ routes', w.handlers.Holds r.handler :=
    fun r hr => hheld r (hperm.mem_iff.2 hr)
  obtain ⟨⟨app, w₀, hnew, hstate⟩, hall⟩ := App.forall₂_of_connected hheld h
  obtain ⟨⟨app', w₀', hnew', hstate'⟩, hall'⟩ := App.forall₂_of_connected hheld' h'
  have hserves : c.ServesRoutes w w₁ routes := servesRoutes_of_forall₂ hall
  have hserves' : c'.ServesRoutes w w₁' routes := (servesRoutes_of_forall₂ hall').perm hperm.symm
  refine ⟨hserves.agree hserves' hh, fun hone r hr htakes => ?_⟩
  obtain ⟨q, l, hinherits, hs⟩ := hserves.handsTo hh hone hr htakes
  obtain ⟨q', l', hinherits', hs'⟩ := hserves'.handsTo hh hone hr htakes
  have hsame : c.state = c'.state := by
    obtain ⟨rfl, rfl⟩ := Prod.mk.inj (hnew.symm.trans hnew') |>.imp_left Except.ok.inj
    rw [hstate, hstate']
  exact ⟨_, _, _, _, hs, hs', hinherits, hinherits',
    hinherits.lineage.trans hinherits'.lineage.symm,
    fun io u u' hclock hdraw => requestFor_eq rfl hsame hclock hdraw io⟩

/-- The clone of a handler that is copied, at the count of three. -/
def countedFromThree : Handler := ⟨⟨"copied", some .copy, 3, none, [], []⟩, 3, some ⟨0⟩, 0⟩

/-- A world with a handler that is copied, one that is a plain function, and clones of the first. -/
def copiedAndPlain (clones : Nat) (states : List AppState) : World :=
  { World.initial 0 [] ∅ with
    loggers := ⟨[default]⟩
    shared := some ⟨0⟩
    handlers := ⟨{ countedFromThree with origin := none, clones } ::
      .ofScript ⟨"plain", none, 0, none, [], []⟩ :: List.replicate clones countedFromThree⟩
    states := ⟨states⟩
    timeline := List.replicate clones (.event (.cloned "copied" 3)) }

/-- Two routes of which only the first takes a request to read `/a`, although both cover it. -/
def readAndWrite : List Route := [⟨"/a", ⟨0⟩, ["GET"]⟩, ⟨"/:x", ⟨1⟩, ["POST"]⟩]

/-- The services of these two routes. -/
def readAndWriteServices : List MountedService :=
  [⟨⟨"/a"⟩, .route ⟨⟨3⟩, ["GET"], ⟨0⟩⟩⟩, ⟨⟨"/:x"⟩, .route ⟨⟨1⟩, ["POST"], ⟨0⟩⟩⟩]

/-- Whichever of the two routes is mounted first, the clone goes on from the same count. -/
theorem call_of_perm_readAndWrite :
    (∀ r ∈ readAndWrite, (copiedAndPlain 0 []).handlers.Holds r.handler) ∧
      Headers.ofInit? (.list []) = some ⟨[]⟩ ∧
      ∃ c c' w₁ w₁' m m' s s',
        exec (App.connected ⟨none⟩ readAndWrite none) (copiedAndPlain 0 []) = (.ok c, w₁) ∧
        exec (App.connected ⟨none⟩ readAndWrite.reverse none) (copiedAndPlain 0 []) =
          (.ok c', w₁') ∧
        c.HandsTo ⟨"get", "/a", none, .list []⟩ ⟨[]⟩ m s ∧
        c'.HandsTo ⟨"get", "/a", none, .list []⟩ ⟨[]⟩ m' s' ∧
        w₁.lineage s.handler = w₁'.lineage s'.handler := by
  let init : HeadInit := ⟨"get", "/a", none, .list []⟩
  let read : MountedFactory := ⟨⟨"/a"⟩, .route ⟨⟨2⟩, ["GET"]⟩⟩
  let write : MountedFactory := ⟨⟨"/:x"⟩, .route ⟨⟨1⟩, ["POST"]⟩⟩
  have hheld : ∀ r ∈ readAndWrite, (copiedAndPlain 0 []).handlers.Holds r.handler := by
    simp [readAndWrite, copiedAndPlain, Store.Holds]
  have hh : Headers.ofInit? init.headers = some ⟨[]⟩ := rfl
  have hmount : exec (App.mountAll ⟨[], ⟨0⟩, ⟨0⟩⟩ readAndWrite) (copiedAndPlain 0 [⟨none⟩]) =
      (.ok ⟨[read, write], ⟨0⟩, ⟨0⟩⟩, copiedAndPlain 1 [⟨none⟩]) := rfl
  have hmount' : exec (App.mountAll ⟨[], ⟨0⟩, ⟨0⟩⟩ readAndWrite.reverse)
      (copiedAndPlain 0 [⟨none⟩]) =
        (.ok ⟨[write, read], ⟨0⟩, ⟨0⟩⟩, copiedAndPlain 1 [⟨none⟩]) := rfl
  have hread : exec (read.factory.activate ⟨0⟩) (copiedAndPlain 1 [⟨none⟩]) =
      (.ok (.ok (.route ⟨⟨3⟩, ["GET"], ⟨0⟩⟩)), copiedAndPlain 2 [⟨none⟩]) := rfl
  have hwrite : ∀ w, exec (write.factory.activate ⟨0⟩) (copiedAndPlain w [⟨none⟩]) =
      (.ok (.ok (.route ⟨⟨1⟩, ["POST"], ⟨0⟩⟩)), copiedAndPlain w [⟨none⟩]) := fun _ => rfl
  have h : exec (App.connected ⟨none⟩ readAndWrite none) (copiedAndPlain 0 []) =
      (.ok ⟨readAndWriteServices, ⟨0⟩, ⟨0⟩⟩, copiedAndPlain 2 [⟨none⟩]) := by
    refine exec_bind_eq_ok.2 ⟨_, _, rfl, exec_bind_eq_ok.2 ⟨_, _, hmount, ?_⟩⟩
    exact App.connect_eq_ok.2 ⟨_, _, App.activateAll_cons_eq_ok.2
      ⟨_, _, _, hread, App.activateAll_cons_eq_ok.2 ⟨_, _, _, hwrite 2, rfl, rfl⟩, rfl⟩, rfl, rfl⟩
  have h' : exec (App.connected ⟨none⟩ readAndWrite.reverse none) (copiedAndPlain 0 []) =
      (.ok ⟨readAndWriteServices.reverse, ⟨0⟩, ⟨0⟩⟩, copiedAndPlain 2 [⟨none⟩]) := by
    refine exec_bind_eq_ok.2 ⟨_, _, rfl, exec_bind_eq_ok.2 ⟨_, _, hmount', ?_⟩⟩
    exact App.connect_eq_ok.2 ⟨_, _, App.activateAll_cons_eq_ok.2
      ⟨_, _, _, hwrite 1, App.activateAll_cons_eq_ok.2 ⟨_, _, _, hread, rfl, rfl⟩, rfl⟩, rfl, rfl⟩
  have hperm : readAndWrite.Perm readAndWrite.reverse := readAndWrite.reverse_perm.symm
  have hpath : init.path = "/a" := by decide
  have hverb : init.verb = "GET" := by decide
  obtain ⟨m, m', s, s', hs, hs', -, -, hlineage, -⟩ := (call_of_perm hperm hheld h h' hh).2
    (by rw [hpath, hverb]; decide) _ List.mem_cons_self (by rw [hpath, hverb]; decide)
  exact ⟨hheld, hh, _, _, _, _, m, m', s, s', h, h', hs, hs', hlineage⟩

end Connection

end HttpDispatch
