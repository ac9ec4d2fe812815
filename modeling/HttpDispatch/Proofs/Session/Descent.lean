import HttpDispatch.Proofs.Log.Fallback
import HttpDispatch.Proofs.Session.Footprint
import HttpDispatch.Proofs.Session.Services

/-!
# Where the handler of a service comes from

A handler reaches a service in two stages.  A route, the template, is made into a factory, by itself
or as it is mounted (`Session.Makes`), and the factory is activated, by itself or as its application
is connected (`Session.Activates`).  At either stage a handler that is copied goes on from where it
stands at that moment: the factory gets the count of the template (`Session.Makes.copied`), and the
service that of the factory (`Session.Activates.clones`).
-/

namespace HttpDispatch

open Run

/-- A clone of a handler that is copied stands where the handler stands. -/
theorem World.Clones.standing {w w' : World} {r r' : Ref Handler} (h : w.Clones w' r r')
    (hcopies : (w.handlers.get r).script.cloning = some .copy) :
    (w'.handlers.get r').standing = (w.handlers.get r).standing :=
  Prod.ext h.script (h.copied hcopies).2

theorem Route.clones_of_create {route : Route} {f : RouteFactory} {w w' : World}
    (hr : w.handlers.Holds route.handler) (h : exec route.create w = (.ok f, w')) :
    w.Clones w' route.handler f.handler := by
  obtain ⟨r, w₁, hclone, h⟩ := exec_bind_eq_ok.1 h
  cases h
  exact clones_cloneHandler hr hclone

namespace Session

/-! ### Templates -/

/-- The handler that is meant, as it stands. -/
def original? (s : Session) : HandlerSource → Option Handler
  | .named name => (s.handlers.get? name).map s.world.handlers.get
  | .given script => some (.ofScript script)

/-- The handler of the route that is meant, as it stands. -/
def template? (s : Session) : RouteSource → Option Handler
  | .named name => (s.routes.get? name).map fun route => s.world.handlers.get route.handler
  | .declared d => s.original? d.handler
  | .foreign _ => none

variable {s s' : Session}

theorem original?_of_exec {source : HandlerSource} {r : Ref Handler}
    (h : exec (handler source) s = (.ok r, s')) :
    s.original? source = some (s'.world.handlers.get r) := by
  cases source with
  | named name =>
    obtain ⟨hr, rfl⟩ := exec_find_eq_ok.1 h
    rw [original?, show s'.handlers.get? name = some r from hr]
    rfl
  | given script =>
    rw [handler, exec_run_eq_ok] at h
    obtain ⟨w, hw, rfl⟩ := h
    rw [exec_addHandler, Prod.mk.injEq, Except.ok.injEq] at hw
    obtain ⟨rfl, rfl⟩ := hw
    exact congrArg some (Store.get_push_next _ _).symm

theorem template?_of_exec {source : RouteSource} {route : Route}
    (h : exec (mountable source) s = (.ok (.route route), s')) :
    s.template? source = some (s'.world.handlers.get route.handler) := by
  cases source with
  | named name =>
    rw [mountable, exec_bind_eq_ok] at h
    obtain ⟨found, s₁, hfound, h⟩ := h
    obtain ⟨hr, rfl⟩ := exec_find_eq_ok.1 hfound
    cases h
    rw [template?, show s'.routes.get? name = some route from hr]
    rfl
  | declared d =>
    rw [mountable, exec_bind_eq_ok] at h
    obtain ⟨made, s₁, hmade, h⟩ := h
    cases h
    exact original?_of_exec (exec_handler_of_declare hmade)
  | foreign r => cases h

/-- While routes are mounted, a template stays as it stands. -/
theorem Evolves.template? (h : s.Evolves s' []) (hs : s.Sound) {app : String}
    (hwrites : s.estate.SameBut (some (.app app)) s'.estate) {source : RouteSource} {t' : Handler}
    (ht : s'.template? source = some t') :
    ∃ t, s.template? source = some t ∧ t.standing = t'.standing := by
  have hsame : ∀ {r}, s.Holds r →
      (s.world.handlers.get r).standing = (s'.world.handlers.get r).standing :=
    fun hr => (h.standing_of_count hr List.count_nil).symm
  have hnamed : ∀ {name t'}, (s'.handlers.get? name).map s'.world.handlers.get = some t' →
      ∃ t, (s.handlers.get? name).map s.world.handlers.get = some t ∧
        t.standing = t'.standing := by
    intro name t' ht
    obtain ⟨r, hr', rfl⟩ := Option.map_eq_some_iff.1 ht
    have hr : s.handlers.get? name = some r := (hwrites.handlers nofun).symm.trans hr'
    exact ⟨_, Option.map_eq_some_iff.2 ⟨r, hr, rfl⟩, hsame (hs.kept (.handler hr))⟩
  cases source with
  | named name =>
    obtain ⟨route, hroute', rfl⟩ := Option.map_eq_some_iff.1 ht
    have hroute : s.routes.get? name = some route := (hwrites.routes nofun).symm.trans hroute'
    exact ⟨_, Option.map_eq_some_iff.2 ⟨route, hroute, rfl⟩, hsame (hs.kept (.route hroute rfl))⟩
  | declared d =>
    cases hd : d.handler with
    | named name =>
      rw [Session.template?, hd] at ht ⊢
      exact hnamed ht
    | given script =>
      rw [Session.template?, hd] at ht ⊢
      exact ⟨t', ht, rfl⟩
  | foreign r => nomatch ht

/-! ### Mounting -/

/-- Between two sessions, a template was mounted: the factory that was made of it, if it is one with
a handler, has a handler that stands where the template stood. -/
def Mounted (s s' : Session) (source : RouteSource) (m : MountedFactory) : Prop :=
  ∀ f, m.factory = .route f → s'.Holds f.handler ∧
    ∃ t, s.template? source = some t ∧
      (t.script.cloning = some .copy →
        (s'.world.handlers.get f.handler).standing = t.standing)

theorem Mounted.later {s₁ : Session} {source : RouteSource} {m : MountedFactory}
    (h : s.Mounted s₁ source m) (h' : s₁.Evolves s' []) : s.Mounted s' source m := by
  intro f hf
  obtain ⟨hholds, t, ht, hcopied⟩ := h f hf
  refine ⟨h'.holds hholds, t, ht, fun hc => ?_⟩
  rw [h'.standing_of_count hholds List.count_nil, hcopied hc]

theorem Mounted.earlier {s₁ : Session} {source : RouteSource} {m : MountedFactory}
    (h : s₁.Mounted s' source m) (h' : s.Evolves s₁ []) (hs : s.Sound) {app : String}
    (hwrites : s.estate.SameBut (some (.app app)) s₁.estate) : s.Mounted s' source m := by
  intro f hf
  obtain ⟨hholds, t', ht', hcopied⟩ := h f hf
  obtain ⟨t, ht, hsame⟩ := h'.template? hs hwrites ht'
  have hscript : t.script = t'.script := Handler.script_eq hsame
  exact ⟨hholds, t, ht, fun hc => (hcopied (hscript ▸ hc)).trans hsame.symm⟩

theorem mounted_of_mount (hs : s.Sound) {source : RouteSource} {m : Mountable} {app app' : App}
    {s₁ : Session} {w : World} (hm : exec (mountable source) s = (.ok m, s₁))
    (h : Run.exec (app.mount m) s₁.world = (.ok app', w)) :
    ∃ mounted, app' = { app with routes := app.routes ++ [mounted] } ∧
      s.Mounted (s₁.inWorld w) source mounted := by
  obtain ⟨factory, hfactory, rfl⟩ := mount_eq_ok.1 h
  refine ⟨⟨⟨m.path⟩, factory⟩, rfl, ?_⟩
  rintro f rfl
  cases m with
  | route route =>
    obtain ⟨f', hf', hroute⟩ := create_route_eq_ok.1 hfactory
    obtain rfl := Factory.route.inj hroute
    have hclones := Route.clones_of_create (lends_mountable hs hm).holds hf'
    exact ⟨hclones.holds, _, template?_of_exec hm, hclones.standing⟩
  | foreign r => nomatch (create_foreign_eq_ok hfactory).1

/-- Between two sessions, an application got more factories, the first of them of the first of these
sources, and so on. -/
structure Mounts (s s' : Session) (name : String) (sources : List RouteSource) (app : App)
    (more : List MountedFactory) : Prop where
  app : s'.apps.get? name = some { app with routes := app.routes ++ more }
  mounted : ∀ {i : Nat} {m}, more[i]? = some m →
    ∃ source, sources[i]? = some source ∧ s.Mounted s' source m

theorem Rests.mounts {name : String} {app : App} (h : s.Rests s')
    (happ : s.apps.get? name = some app) (sources : List RouteSource) :
    s.Mounts s' name sources app [] where
  app := by
    rw [show s'.apps = s.apps from congrArg Estate.apps h.estate, List.append_nil]
    exact happ
  mounted h := nomatch h

theorem Mounts.cons {s₁ : Session} {name : String} {source : RouteSource}
    {rest : List RouteSource} {app : App} {m : MountedFactory} {more : List MountedFactory}
    (hs : s.Sound) (h : s.Mounts s₁ name [source] app [m])
    (h' : s₁.Mounts s' name rest { app with routes := app.routes ++ [m] } more)
    (hbefore : s.Evolves s₁ []) (hwrites : s.estate.SameBut (some (.app name)) s₁.estate)
    (hafter : s₁.Evolves s' []) :
    s.Mounts s' name (source :: rest) app (m :: more) where
  app := by
    rw [h'.app]
    simp only [List.append_assoc, List.singleton_append]
  mounted {i m'} hi := by
    cases i with
    | zero =>
      obtain ⟨source', hsource, hmounted⟩ := h.mounted (i := 0) (m := m) rfl
      obtain rfl := Option.some.inj hsource
      obtain rfl := Option.some.inj hi
      exact ⟨source, rfl, hmounted.later hafter⟩
    | succ i =>
      obtain ⟨source', hsource, hmounted⟩ := h'.mounted hi
      exact ⟨source', hsource, hmounted.earlier hbefore hs hwrites⟩

theorem mounts_mountOn (hs : s.Sound) {name : String} {app : App}
    (happ : s.apps.get? name = some app) (source : RouteSource) :
    ∃ more, s.Mounts (exec (mountOn name source) s).2 name [source] app more ∧
      ((exec (mountOn name source) s).1 = .ok () → more.length = 1) := by
  rw [mountOn, exec_bind_ok (exec_find_eq_ok.2 ⟨happ, rfl⟩), exec_bind]
  have hmountable := resting_mountable source s
  cases hm : exec (mountable source) s with
  | mk result s₁ =>
    rw [hm] at hmountable
    cases result with
    | error stop => exact ⟨[], hmountable.mounts happ _, nofun⟩
    | ok m =>
      simp only [exec_bind]
      have hrests := hmountable.trans (Resting.run (keepsHandlers_mount app m) s₁)
      cases happ' : exec (run (app.mount m)) s₁ with
      | mk result s₂ =>
        rw [happ'] at hrests
        cases result with
        | error stop => exact ⟨[], hrests.mounts happ _, nofun⟩
        | ok app' =>
          obtain ⟨w, hw, rfl⟩ := exec_run_eq_ok.1 happ'
          obtain ⟨mounted, rfl, hmounted⟩ := mounted_of_mount hs hm hw
          refine ⟨[mounted], ⟨Dict.get?_set_self _ _ _, fun {i m'} hi => ?_⟩, fun _ => rfl⟩
          cases i with
          | zero =>
            obtain rfl := Option.some.inj hi
            exact ⟨source, rfl, hmounted⟩
          | succ i => nomatch hi

theorem mounts_forM (hs : s.Sound) {name : String} {app : App}
    (happ : s.apps.get? name = some app) (sources : List RouteSource) :
    ∃ more, s.Mounts (exec (sources.forM (mountOn name)) s).2 name sources app more := by
  induction sources generalizing s app with
  | nil => exact ⟨[], (Rests.refl s).mounts happ _⟩
  | cons source rest ih =>
    obtain ⟨more, hfirst, hone⟩ := mounts_mountOn hs happ source
    have hbefore := growing_mountOn name source s hs
    have hwrites := WritesOnly.mountOn name source s
    rw [List.forM_eq_forM, List.forM_cons, exec_bind]
    cases hm : exec (mountOn name source) s with
    | mk result s₁ =>
      rw [hm] at hfirst hone hbefore hwrites
      cases result with
      | error stop =>
        -- The other sources are not tried, and what was mounted stays.
        refine ⟨more, hfirst.app, fun {i m} hi => ?_⟩
        obtain ⟨source', hsource, hmounted⟩ := hfirst.mounted hi
        cases i with
        | zero => exact ⟨source', hsource, hmounted⟩
        | succ i => nomatch hsource
      | ok =>
        obtain ⟨m, rfl⟩ := List.length_eq_one_iff.1 (hone rfl)
        obtain ⟨others, hrest⟩ := ih hbefore.sound hfirst.app
        have hafter := Growing.forM (growing_mountOn name) rest s₁ hbefore.sound
        exact ⟨m :: others, hfirst.cons hs hrest hbefore hwrites hafter⟩

/-! ### From a template to a factory -/

/-- A command makes this factory of a template that stands like this. -/
inductive Makes (s : Session) (f : RouteFactory) (t : Handler) : Command → Prop
  | create {route name : String} {r : Route} :
      s.routes.get? route = some r → s.world.handlers.get r.handler = t →
      (s.step (.createFactory route name)).1.result.isOk →
      (s.step (.createFactory route name)).2.factories.get? name = some f →
      Makes s f t (.createFactory route name)
  /-- The factory is the one behind those that were mounted before. -/
  | mount {name : String} {source : RouteSource} {app app' : App} {m : MountedFactory} :
      s.apps.get? name = some app → s.template? source = some t →
      (s.step (.mount name source)).2.apps.get? name = some app' →
      app'.routes[app.routes.length]? = some m → m.factory = .route f →
      Makes s f t (.mount name source)
  /-- Each source is mounted on the new application, in order. -/
  | makeApp {name : String} {state : AppState} {logger : Option String}
      {sources : List RouteSource} {app : App} {i : Nat} {source : RouteSource}
      {m : MountedFactory} :
      (∀ l, logger = some l → (s.loggers.get? l).isSome = true) →
      sources[i]? = some source → s.template? source = some t →
      (s.step (.makeApp name state logger sources)).2.apps.get? name = some app →
      app.routes[i]? = some m → m.factory = .route f →
      Makes s f t (.makeApp name state logger sources)

theorem exists_exec_of_isOk {c : Command} (h : (s.step c).1.result.isOk) :
    ∃ reply, exec (perform c) s.opened = (.ok reply, (s.step c).2) := by
  cases hresult : (s.step c).1.result with
  | ok reply => exact ⟨reply, Prod.ext hresult rfl⟩
  | error stop =>
    rw [hresult] at h
    nomatch h

theorem Mounted.copied {source : RouteSource} {m : MountedFactory} (h : s.Mounted s' source m)
    {f : RouteFactory} (hf : m.factory = .route f) {t : Handler} (ht : s.template? source = some t)
    (hcopies : t.script.cloning = some .copy) :
    (s'.world.handlers.get f.handler).standing = t.standing := by
  obtain ⟨-, t', ht', hcopied⟩ := h f hf
  obtain rfl := Option.some.inj (ht.symm.trans ht')
  exact hcopied hcopies

/-- There is always a shared logger. -/
theorem exists_exec_sharedLogger (w : World) :
    ∃ r w', Run.exec sharedLogger w = (.ok r, w') := by
  cases hshared : w.shared with
  | some r => exact ⟨r, w, exec_sharedLogger_of_some hshared⟩
  | none => exact ⟨_, _, exec_sharedLogger_of_none hshared⟩

theorem exists_exec_new (state : AppState) (w : World) :
    ∃ app w', Run.exec (App.new state) w = (.ok app, w') := by
  obtain ⟨r, w', hr⟩ := exists_exec_sharedLogger w
  rw [App.new, Run.exec_bind_ok hr]
  exact ⟨_, _, rfl⟩

theorem exec_createFactory_eq_ok {route name : String} {reply : Reply}
    (h : exec (perform (.createFactory route name)) s = (.ok reply, s')) :
    ∃ r f w, s.routes.get? route = some r ∧ Run.exec r.create s.world = (.ok f, w) ∧
      s' = { s.inWorld w with factories := s.factories.set name f } := by
  obtain ⟨r, s₁, hfound, hmake⟩ := exec_bind_eq_ok.1 h
  obtain ⟨hr, rfl⟩ := exec_find_eq_ok.1 hfound
  obtain ⟨f, s₂, hmade, hname⟩ := exec_bind_eq_ok.1 hmake
  obtain ⟨w, hw, rfl⟩ := exec_run_eq_ok.1 hmade
  exact ⟨r, f, w, hr, hw, (Prod.mk.inj hname).2.symm⟩

/-- Mounting is all that changes a session while a route is mounted. -/
theorem exec_mount_snd (name : String) (source : RouteSource) (s : Session) :
    (exec (perform (.mount name source)) s).2 = (exec (mountOn name source) s).2 := by
  rw [perform, exec_bind_snd]
  intro _ s'
  rw [exec_bind_snd fun _ _ => rfl, exec_find]

/-- An application first gets its name, and then the sources are mounted on it. -/
theorem exists_exec_makeApp_snd (hs : s.Sound) (name : String) {logger : Option String}
    (hknown : ∀ l, logger = some l → (s.loggers.get? l).isSome = true) (state : AppState)
    (sources : List RouteSource) :
    ∃ named app, s.Evolves named [] ∧ s.estate.SameBut (some (.app name)) named.estate ∧
      named.apps.get? name = some app ∧ app.routes = [] ∧
      (exec (perform (.makeApp name state logger sources)) s).2 =
        (exec (sources.forM (mountOn name)) named).2 := by
  obtain ⟨given, hgiven⟩ : ∃ given, exec (findOptional Session.loggers logger) s =
      (.ok given, s) := by
    cases logger with
    | none => exact ⟨none, rfl⟩
    | some l =>
      obtain ⟨r, hr⟩ := Option.isSome_iff_exists.1 (hknown l rfl)
      have hfound : exec (find Session.loggers l) s = (.ok r, s) := exec_find_eq_ok.2 ⟨hr, rfl⟩
      exact ⟨some r, (exec_bind_ok hfound).trans rfl⟩
  obtain ⟨new, w, hnew⟩ := exists_exec_new state s.world
  have hempty : new.routes = [] := routes_new hnew
  let app : App := { new with logger := given.getD new.logger }
  let named := (exec (nameApp name app) (s.inWorld w)).2
  have hrun : exec (run (App.new state)) s = (.ok new, s.inWorld w) :=
    exec_run_eq_ok.2 ⟨w, hnew, rfl⟩
  have hname : exec (nameApp name app) (s.inWorld w) = (.ok (), named) := rfl
  refine ⟨named, app, evolves_nameApp hs (.refl s) hnew name _,
    WritesOnly.nameApp name app (s.inWorld w), Dict.get?_set_self _ _ _, hempty, ?_⟩
  rw [perform, exec_bind_ok hgiven, exec_bind_ok hrun, exec_bind_ok hname, exec_bind_snd]
  intro _ s'
  rw [exec_bind_snd fun _ _ => rfl, exec_find]

/-- The handler of a factory goes on from where its template stands. -/
theorem Makes.copied (hs : s.Sound) {f : RouteFactory} {t : Handler} {c : Command}
    (h : s.Makes f t c) (hcopies : t.script.cloning = some .copy) :
    (s.step c).2.estate.Keeps f.handler ∧
      ((s.step c).2.world.handlers.get f.handler).standing = t.standing := by
  have hsound : s.opened.Sound := hs.opened
  cases h with
  | @create route name r hr ht hresult hf =>
    refine ⟨.factory hf rfl, ?_⟩
    obtain ⟨reply, hexec⟩ := exists_exec_of_isOk hresult
    obtain ⟨r', f', w, hr', hw, hstep⟩ := exec_createFactory_eq_ok hexec
    rw [hstep] at hf ⊢
    obtain rfl := Option.some.inj (hr'.symm.trans hr)
    obtain rfl := Option.some.inj (hf.symm.trans (Dict.get?_set_self _ _ _))
    subst ht
    exact (Route.clones_of_create (hsound.kept (.route hr rfl)) hw).standing hcopies
  | @mount name source app app' m happ ht happ' hm hf =>
    obtain ⟨more, hmounts, -⟩ := mounts_mountOn hsound happ source
    rw [← exec_mount_snd, ← step_snd] at hmounts
    obtain rfl := Option.some.inj (happ'.symm.trans hmounts.app)
    refine ⟨.app happ' (List.mem_of_getElem? hm) hf rfl, ?_⟩
    have hfirst : more[0]? = some m := by
      rwa [List.getElem?_append_right (Nat.le_refl _), Nat.sub_self] at hm
    obtain ⟨source', hsource, hmounted⟩ := hmounts.mounted hfirst
    obtain rfl := Option.some.inj hsource
    exact hmounted.copied hf ht hcopies
  | @makeApp name state logger sources app i source m hknown hsource ht happ hm hf =>
    -- The templates are those of the session before the application has its name.
    obtain ⟨named, app₀, hnamed, hwrites, happ₀, hempty, hstep⟩ :=
      exists_exec_makeApp_snd hsound name hknown state sources
    obtain ⟨more, hmounts⟩ := mounts_forM hnamed.sound happ₀ sources
    rw [← hstep, ← step_snd] at hmounts
    obtain rfl := Option.some.inj (happ.symm.trans hmounts.app)
    refine ⟨.app happ (List.mem_of_getElem? hm) hf rfl, ?_⟩
    simp only [hempty, List.nil_append] at hm
    obtain ⟨source', hsource', hmounted⟩ := hmounts.mounted hm
    obtain rfl := Option.some.inj (hsource.symm.trans hsource')
    exact (hmounted.earlier hnamed hsound hwrites).copied hf ht hcopies

/-! ### From a factory to a service -/

/-- A command makes this service of this factory. -/
inductive Activates (s : Session) (f : RouteFactory) (sv : RouteService) : Command → Prop
  | activate {factory name : String} {logger : Option String} :
      s.factories.get? factory = some f →
      (s.step (.activateFactory factory name logger)).1.result.isOk →
      (s.step (.activateFactory factory name logger)).2.services.get? name = some sv →
      Activates s f sv (.activateFactory factory name logger)
  /-- The services of a connection are in the order of the factories. -/
  | connect {app name : String} {logger : Option String} {a : App} {c : Connection} {i : Nat}
      {m : MountedFactory} :
      s.apps.get? app = some a → a.routes[i]? = some m → m.factory = .route f →
      (s.step (.connect app name logger)).1.result.isOk →
      (s.step (.connect app name logger)).2.connections.get? name = some c →
      c.serviceAt i = some sv → Activates s f sv (.connect app name logger)

theorem exec_activateFactory_eq_ok {factory name : String} {logger : Option String}
    {reply : Reply} (h : exec (perform (.activateFactory factory name logger)) s = (.ok reply, s')) :
    ∃ f sv w, s.factories.get? factory = some f ∧
      Run.exec (f.activate (logger.bind s.loggers.get?)) s.world = (.ok sv, w) ∧
      s' = { s.inWorld w with services := s.services.set name sv } := by
  obtain ⟨f, s₁, hfound, hrest⟩ := exec_bind_eq_ok.1 h
  obtain ⟨hf, rfl⟩ := exec_find_eq_ok.1 hfound
  obtain ⟨given, s₂, hgiven, hmake⟩ := exec_bind_eq_ok.1 hrest
  obtain ⟨rfl, rfl⟩ := exec_findOptional_eq_ok hgiven
  obtain ⟨sv, s₃, hmade, hname⟩ := exec_bind_eq_ok.1 hmake
  obtain ⟨w, hw, rfl⟩ := exec_run_eq_ok.1 hmade
  exact ⟨f, sv, w, hf, hw, (Prod.mk.inj hname).2.symm⟩

theorem exec_connect_eq_ok {app name : String} {logger : Option String} {reply : Reply}
    (h : exec (perform (.connect app name logger)) s = (.ok reply, s')) :
    ∃ a c w, s.apps.get? app = some a ∧
      Run.exec (a.connect (logger.bind s.loggers.get?)) s.world = (.ok c, w) ∧
      s' = { s.inWorld w with connections := s.connections.set name c } := by
  obtain ⟨a, s₁, hfound, hrest⟩ := exec_bind_eq_ok.1 h
  obtain ⟨ha, rfl⟩ := exec_find_eq_ok.1 hfound
  obtain ⟨given, s₂, hgiven, hmake⟩ := exec_bind_eq_ok.1 hrest
  obtain ⟨rfl, rfl⟩ := exec_findOptional_eq_ok hgiven
  obtain ⟨c, s₃, hmade, hname⟩ := exec_bind_eq_ok.1 hmake
  obtain ⟨w, hw, rfl⟩ := exec_run_eq_ok.1 hmade
  exact ⟨a, c, w, ha, hw, (Prod.mk.inj hname).2.symm⟩

/-- The service that is made runs what it got of the handler of the factory. -/
theorem Activates.clones (hs : s.Sound) {f : RouteFactory} {sv : RouteService} {c : Command}
    (h : s.Activates f sv c) :
    (∃ p, (s.step c).2.estate.serviceAt p = some sv) ∧
      s.world.Clones (s.step c).2.world f.handler sv.handler := by
  have hsound : s.opened.Sound := hs.opened
  have hopened : ∀ {w'}, s.opened.world.Clones w' f.handler sv.handler →
      s.world.Clones w' f.handler sv.handler := fun h => ⟨h.holds, h.script, h.source, h.copied⟩
  cases h with
  | @activate factory name logger hf hresult hsv =>
    refine ⟨⟨.named name, hsv⟩, hopened ?_⟩
    obtain ⟨reply, hexec⟩ := exists_exec_of_isOk hresult
    obtain ⟨f', sv', w, hf', hw, hstep⟩ := exec_activateFactory_eq_ok hexec
    rw [hstep] at hsv ⊢
    obtain rfl := Option.some.inj (hf'.symm.trans hf)
    obtain rfl := Option.some.inj (hsv.symm.trans (Dict.get?_set_self _ _ _))
    exact RouteFactory.clones_of_activate (hsound.kept (.factory hf rfl)) hw
  | @connect app name logger a c i m ha hm hf hresult hc hsv =>
    refine ⟨⟨.mounted name i, Option.bind_eq_some_iff.2 ⟨c, hc, hsv⟩⟩, hopened ?_⟩
    obtain ⟨reply, hexec⟩ := exists_exec_of_isOk hresult
    obtain ⟨a', c', w, ha', hw, hstep⟩ := exec_connect_eq_ok hexec
    rw [hstep] at hc ⊢
    obtain rfl := Option.some.inj (ha'.symm.trans ha)
    obtain rfl := Option.some.inj (hc.symm.trans (Dict.get?_set_self _ _ _))
    obtain ⟨m', f', hm', hf', hclones⟩ :=
      App.exists_clones_of_connect hw (hsound.holds_mounted ha) hsv
    obtain rfl := Option.some.inj (hm'.symm.trans hm)
    obtain rfl := Factory.route.inj (hf'.symm.trans hf)
    exact hclones

end Session

end HttpDispatch
