import HttpDispatch.Proofs.Session.Idle
import HttpDispatch.Proofs.Session.Ownership

/-!
# How a session grows

A session grows by commands that give names to new objects.  Such a command first finds or makes a
handler, and while it does, the session rests: the handler is lent to the command (`Lends`).  Then
the command puts the object that mentions the handler under a name.

A handler that is lent for a new route, factory or application is kept already or is new.  A handler
that is lent for a new service is new if it is one that is copied.
-/

namespace HttpDispatch

open Run

/-- What stands in a dictionary after one more entry. -/
theorem Dict.get?_set_eq_some {α : Type} {d : Dict α} {key other : String} {a b : α}
    (h : (d.set key a).get? other = some b) : d.get? other = some b ∨ other = key ∧ b = a := by
  rw [Dict.get?_set] at h
  split at h
  · next hkey => exact .inr ⟨hkey, (Option.some.inj h).symm⟩
  · exact .inl h

namespace Session

variable {α β : Type}

/-- During a part of a step the session grows, and no request is served. -/
def Growing (part : Step α) : Prop := ∀ s : Session, s.Sound → s.Evolves (exec part s).2 []

theorem Resting.growing {part : Step α} (h : Resting part) : Growing part :=
  fun s hs => (h s).evolves hs

namespace Evolves

variable {s₀ s : Session} {part : Step α} {f : α → Step β}

/-- What a session becomes in two parts of a step, of which the first is a rest. -/
theorem bind_of_rests (hs : s₀.Sound) (hrests : s₀.Rests (exec part s).2)
    (hf : ∀ a s', exec part s = (.ok a, s') → s₀.Evolves (exec (f a) s').2 []) :
    s₀.Evolves (exec (part >>= f) s).2 [] := by
  rw [exec_bind]
  cases hp : exec part s with
  | mk result s' =>
    rw [hp] at hrests
    cases result with
    | ok a => exact hf a s' hp
    | error stop => exact hrests.evolves hs

theorem bind (h : s₀.Evolves (exec part s).2 []) (hf : ∀ a, Growing (f a)) :
    s₀.Evolves (exec (part >>= f) s).2 [] :=
  exec_bind_along (R := fun s s' => s.Evolves s' []) .trans h fun a s' h' => hf a s' h'.sound

end Evolves

theorem Growing.bind {part : Step α} {f : α → Step β} (h : Growing part)
    (hf : ∀ a, Growing (f a)) : Growing (part >>= f) := fun s hs => (h s hs).bind hf

theorem Growing.forM {part : α → Step Unit} (h : ∀ a, Growing (part a)) (as : List α) :
    Growing (as.forM part) := by
  induction as with
  | nil => exact (Resting.pure ()).growing
  | cons a rest ih => exact (h a).bind fun _ => ih

/-! ### Names -/

section Names

variable (e : Estate) {name : String} {r : Ref Handler}

theorem Estate.keeps_handler {q : Ref Handler}
    (h : Estate.Keeps { e with handlers := e.handlers.set name q } r) : e.Keeps r ∨ r = q := by
  cases h with
  | handler hr => exact (Dict.get?_set_eq_some hr).imp .handler And.right
  | route hr h => exact .inl (.route hr h)
  | factory hr h => exact .inl (.factory hr h)
  | app hr hm hf h => exact .inl (.app hr hm hf h)

theorem Estate.keeps_route {route : Route}
    (h : Estate.Keeps { e with routes := e.routes.set name route } r) :
    e.Keeps r ∨ r = route.handler := by
  cases h with
  | handler hr => exact .inl (.handler hr)
  | route hr h =>
    rcases Dict.get?_set_eq_some hr with hr | ⟨-, rfl⟩
    · exact .inl (.route hr h)
    · exact .inr h.symm
  | factory hr h => exact .inl (.factory hr h)
  | app hr hm hf h => exact .inl (.app hr hm hf h)

theorem Estate.keeps_factory {f : RouteFactory}
    (h : Estate.Keeps { e with factories := e.factories.set name f } r) :
    e.Keeps r ∨ r = f.handler := by
  cases h with
  | handler hr => exact .inl (.handler hr)
  | route hr h => exact .inl (.route hr h)
  | factory hr h =>
    rcases Dict.get?_set_eq_some hr with hr | ⟨-, rfl⟩
    · exact .inl (.factory hr h)
    · exact .inr h.symm
  | app hr hm hf h => exact .inl (.app hr hm hf h)

theorem Estate.keeps_app {app : App}
    (h : Estate.Keeps { e with apps := e.apps.set name app } r) :
    e.Keeps r ∨ ∃ m ∈ app.routes, ∃ f, m.factory = .route f ∧ f.handler = r := by
  cases h with
  | handler hr => exact .inl (.handler hr)
  | route hr h => exact .inl (.route hr h)
  | factory hr h => exact .inl (.factory hr h)
  | app hr hm hf h =>
    rcases Dict.get?_set_eq_some hr with hr | ⟨-, rfl⟩
    · exact .inl (.app hr hm hf h)
    · exact .inr ⟨_, hm, _, hf, h⟩

end Names

/-! ### Handlers that are lent -/

/-- While the session rested, it lent a handler that is kept or is new. -/
structure Lends (s s' : Session) (r : Ref Handler) : Prop where
  rests : s.Rests s'
  holds : s'.Holds r
  source : s.estate.Keeps r ∨ ¬ s.Holds r

namespace Lends

variable {s s' s'' : Session} {r : Ref Handler}

theorem of_keeps (hs : s.Sound) (h : s.estate.Keeps r) : s.Lends s r := ⟨.refl s, hs.kept h, .inl h⟩

/-- A clone of a handler that is lent is lent. -/
theorem clone (h : s.Lends s' r) {r' : Ref Handler} {w : World}
    (hclone : Run.exec (cloneHandler r) s'.world = (.ok r', w)) : s.Lends (s'.inWorld w) r' := by
  have hkeeps : s'.world.handlers.Keeps Handler.standing w.handlers := by
    have hk := keeps_cloneHandler r s'.world
    rwa [hclone] at hk
  have hclones := clones_cloneHandler h.holds hclone
  refine ⟨h.rests.trans ⟨rfl, hkeeps⟩, hclones.holds, ?_⟩
  rcases hclones.source with rfl | hnew
  · exact h.source
  · exact .inr fun hold => hnew (h.rests.handlers.holds hold)

/-- A handler that is lent may be kept from then on. -/
theorem evolves (h : s.Lends s' r) (hs : s.Sound) (hworld : s''.world = s'.world)
    (hplaces : ∀ {p sv}, s''.estate.serviceAt p = some sv → s'.estate.serviceAt p = some sv)
    (hkept : ∀ {q}, s''.estate.Keeps q → s'.estate.Keeps q ∨ q = r) : s.Evolves s'' [] := by
  have hestate := h.rests.estate
  have hhandlers : s.world.handlers.Keeps Handler.standing s''.world.handlers := by
    rw [hworld]
    exact h.rests.handlers
  refine .of_keeps hhandlers hs (fun hq => ?_) fun hsv => hestate ▸ hplaces hsv
  rcases hkept hq with hq | rfl
  · have hq' := hestate ▸ hq
    exact ⟨hhandlers.holds (hs.kept hq'), .inl hq'⟩
  · refine ⟨?_, h.source⟩
    rw [Holds, hworld]
    exact h.holds

end Lends

/-! ### Commands that lend a handler -/

section Lending

variable {s s' : Session} {r : Ref Handler}

theorem keepsHandlers_addHandler (h : Handler) : KeepsHandlers (addHandler h) := by
  intro w
  rw [exec_addHandler]
  exact .push _ _

theorem resting_handler (source : HandlerSource) : Resting (handler source) := by
  cases source with
  | named name => exact .find _ name
  | given script =>
    rw [Session.handler]
    exact .run (keepsHandlers_addHandler _)

theorem lends_handler (hs : s.Sound) {source : HandlerSource}
    (h : exec (handler source) s = (.ok r, s')) : s.Lends s' r := by
  cases source with
  | named name =>
    obtain ⟨hr, rfl⟩ := exec_find_eq_ok.1 h
    exact .of_keeps hs (.handler hr)
  | given script =>
    rw [Session.handler, exec_run_eq_ok] at h
    obtain ⟨w, hw, rfl⟩ := h
    have hkeeps := keepsHandlers_addHandler (.ofScript script) s.world
    rw [hw] at hkeeps
    rw [exec_addHandler, Prod.mk.injEq, Except.ok.injEq] at hw
    obtain ⟨rfl, rfl⟩ := hw
    exact ⟨⟨rfl, hkeeps⟩, Store.holds_push_next _ _, .inr (Store.not_holds_next _)⟩

theorem resting_declare (d : RouteDeclaration) : Resting (declare d) :=
  (resting_handler d.handler).bind fun _ => .pure _

theorem handler_foldl_method (route : Route) (tokens : List String) :
    (tokens.foldl Route.method route).handler = route.handler := by
  induction tokens generalizing route with
  | nil => rfl
  | cons token rest ih => exact ih (route.method token)

/-- A route that is declared has the handler that is meant. -/
theorem exec_handler_of_declare {d : RouteDeclaration} {route : Route}
    (h : exec (declare d) s = (.ok route, s')) :
    exec (handler d.handler) s = (.ok route.handler, s') := by
  obtain ⟨q, s₁, hq, h⟩ := exec_bind_eq_ok.1 h
  obtain ⟨hroute, rfl⟩ := Prod.mk.inj h
  have hhandler : route.handler = q := by
    rw [← Except.ok.inj hroute, handler_foldl_method]
    split <;> rfl
  rw [hhandler]
  exact hq

theorem lends_declare (hs : s.Sound) {d : RouteDeclaration} {route : Route}
    (h : exec (declare d) s = (.ok route, s')) : s.Lends s' route.handler :=
  lends_handler hs (exec_handler_of_declare h)

theorem resting_mountable (source : RouteSource) : Resting (mountable source) := by
  cases source with
  | named name => exact (Resting.find _ name).bind fun _ => .pure _
  | declared d => exact (resting_declare d).bind fun _ => .pure _
  | foreign r => exact .pure _

theorem lends_mountable (hs : s.Sound) {source : RouteSource} {route : Route}
    (h : exec (mountable source) s = (.ok (.route route), s')) : s.Lends s' route.handler := by
  cases source with
  | named name =>
    rw [mountable, exec_bind_eq_ok] at h
    obtain ⟨found, s₁, hfound, h⟩ := h
    obtain ⟨hr, rfl⟩ := exec_find_eq_ok.1 hfound
    cases h
    exact .of_keeps hs (.route hr rfl)
  | declared d =>
    rw [mountable, exec_bind_eq_ok] at h
    obtain ⟨made, s₁, hmade, h⟩ := h
    cases h
    exact lends_declare hs hmade
  | foreign r => nomatch h

theorem keepsHandlers_create (route : Route) : KeepsHandlers route.create :=
  .bind (keeps_cloneHandler route.handler) fun _ => LeavesHandlers.keeps (.pure _)

theorem Lends.create {s₁ : Session} {route : Route} {f : RouteFactory} {w : World}
    (h : s.Lends s₁ route.handler) (hf : Run.exec route.create s₁.world = (.ok f, w)) :
    s.Lends (s₁.inWorld w) f.handler := by
  obtain ⟨r, w₁, hr, hf⟩ := Run.exec_bind_eq_ok.1 hf
  cases hf
  exact h.clone hr

end Lending

/-! ### Commands by which a session grows -/

theorem growing_makeHandler (name : String) (script : Script) :
    Growing (perform (.makeHandler name script)) := by
  intro s hs
  refine .bind_of_rests hs (resting_handler (.given script) s) fun r s' hr => ?_
  have hmade : exec (handler (.given script)) s = (.ok r, s') := hr
  exact (lends_handler hs hmade).evolves hs rfl id (s'.estate.keeps_handler ·)

theorem growing_finishRoute (builder name : String) (source : HandlerSource) :
    Growing (perform (.finishRoute builder name source)) := by
  intro s hs
  refine .bind_of_rests hs (Resting.find _ builder s) fun b s₁ hb => ?_
  obtain ⟨-, rfl⟩ := exec_find_eq_ok.1 hb
  refine .bind_of_rests hs (resting_handler source s₁) fun r s' hr => ?_
  exact (lends_handler hs hr).evolves hs rfl id (s'.estate.keeps_route ·)

theorem growing_declareRoute (name : String) (d : RouteDeclaration) :
    Growing (perform (.declareRoute name d)) := by
  intro s hs
  refine .bind_of_rests hs (resting_declare d s) fun route s' hroute => ?_
  exact (lends_declare hs hroute).evolves hs rfl id (s'.estate.keeps_route ·)

theorem growing_extendRoute (route name token : String) :
    Growing (perform (.extendRoute route name token)) := by
  intro s hs
  refine .bind_of_rests hs (Resting.find _ route s) fun r s' hr => ?_
  obtain ⟨hr, rfl⟩ := exec_find_eq_ok.1 hr
  have hlent : s'.Lends s' (r.method token).handler := .of_keeps hs (.route hr rfl)
  exact hlent.evolves hs rfl id (s'.estate.keeps_route ·)

theorem growing_createFactory (route name : String) :
    Growing (perform (.createFactory route name)) := by
  intro s hs
  refine .bind_of_rests hs (Resting.find _ route s) fun r s₁ hr => ?_
  obtain ⟨hr, rfl⟩ := exec_find_eq_ok.1 hr
  refine .bind_of_rests hs (Resting.run (keepsHandlers_create r) s₁) fun f s' hf => ?_
  obtain ⟨w, hw, rfl⟩ := exec_run_eq_ok.1 hf
  exact ((Lends.of_keeps hs (.route hr rfl)).create hw).evolves hs rfl id (s₁.estate.keeps_factory ·)

theorem growing_setAppLogger (app logger : String) :
    Growing (perform (.setAppLogger app logger)) := by
  intro s hs
  refine .bind_of_rests hs (Resting.find _ logger s) fun l s₁ hl => ?_
  obtain ⟨-, rfl⟩ := exec_find_eq_ok.1 hl
  refine .bind_of_rests hs (Resting.find _ app s₁) fun a s' ha => ?_
  obtain ⟨ha, rfl⟩ := exec_find_eq_ok.1 ha
  refine (Rests.refl s').evolves_naming hs rfl id fun hr => ?_
  rcases s'.estate.keeps_app hr with hr | ⟨m, hm, f, hf, rfl⟩
  · exact hr
  · exact .app ha hm hf rfl

/-! ### Applications -/

theorem mount_eq_ok {app app' : App} {m : Mountable} {w w' : World} :
    Run.exec (app.mount m) w = (.ok app', w') ↔
      ∃ factory, Run.exec m.create w = (.ok factory, w') ∧
        app' = { app with routes := app.routes ++ [⟨⟨m.path⟩, factory⟩] } := by
  rw [App.mount, Run.exec_bind_eq_ok]
  constructor
  · rintro ⟨factory, w₁, hfactory, h⟩
    cases h
    exact ⟨factory, hfactory, rfl⟩
  · rintro ⟨factory, hfactory, rfl⟩
    exact ⟨factory, w', hfactory, rfl⟩

theorem create_route_eq_ok {route : Route} {factory : Factory} {w w' : World} :
    Run.exec (Mountable.create (.route route)) w = (.ok factory, w') ↔
      ∃ f, Run.exec route.create w = (.ok f, w') ∧ factory = .route f := by
  rw [Mountable.create, Run.exec_bind_eq_ok]
  constructor
  · rintro ⟨f, w₁, hf, h⟩
    cases h
    exact ⟨f, hf, rfl⟩
  · rintro ⟨f, hf, rfl⟩
    exact ⟨f, w', hf, rfl⟩

theorem create_foreign_eq_ok {r : ForeignRoute} {factory : Factory} {w w' : World}
    (h : Run.exec (Mountable.create (.foreign r)) w = (.ok factory, w')) :
    factory = .foreign r ∧ w' = w := by
  rw [Mountable.create] at h
  cases hfailure : r.createFailure with
  | some v =>
    rw [hfailure] at h
    nomatch h
  | none =>
    rw [hfailure] at h
    cases h
    exact ⟨rfl, rfl⟩

theorem keepsHandlers_mount (app : App) (m : Mountable) : KeepsHandlers (app.mount m) := by
  have hcreate : KeepsHandlers m.create := by
    cases m with
    | route route => exact (keepsHandlers_create route).bind fun _ => LeavesHandlers.keeps (.pure _)
    | foreign r =>
      refine LeavesHandlers.keeps ?_
      rw [Mountable.create]
      cases r.createFailure with
      | some v => exact .raise v
      | none => exact .pure _
  exact hcreate.bind fun _ => LeavesHandlers.keeps (.pure _)

theorem growing_mountOn (name : String) (source : RouteSource) :
    Growing (mountOn name source) := by
  intro s hs
  refine .bind_of_rests hs (Resting.find _ name s) fun app s₁ happ => ?_
  obtain ⟨happ, rfl⟩ := exec_find_eq_ok.1 happ
  have hmountable := resting_mountable source s₁
  refine .bind_of_rests hs hmountable fun m s₂ hm => ?_
  rw [hm] at hmountable
  have hrests := hmountable.trans (Resting.run (keepsHandlers_mount app m) s₂)
  refine .bind_of_rests hs hrests fun app' s' happ' => ?_
  obtain ⟨w, hw, rfl⟩ := exec_run_eq_ok.1 happ'
  obtain ⟨factory, hfactory, rfl⟩ := mount_eq_ok.1 hw
  have happ₂ : s₂.estate.apps.get? name = some app := hmountable.estate ▸ happ
  cases m with
  | route route =>
    obtain ⟨f, hf, rfl⟩ := create_route_eq_ok.1 hfactory
    refine ((lends_mountable hs hm).create hf).evolves hs rfl id fun hq => ?_
    rcases s₂.estate.keeps_app hq with hq | ⟨m, hm, f', hf', rfl⟩
    · exact .inl hq
    · rcases List.mem_append.1 hm with hm | hm
      · exact .inl (.app happ₂ hm hf' rfl)
      · obtain rfl := List.mem_singleton.1 hm
        cases hf'
        exact .inr rfl
  | foreign r =>
    obtain ⟨rfl, rfl⟩ := create_foreign_eq_ok hfactory
    refine hmountable.evolves_naming hs rfl id fun hq => ?_
    rcases s₂.estate.keeps_app hq with hq | ⟨m, hm, f', hf', rfl⟩
    · exact hq
    · rcases List.mem_append.1 hm with hm | hm
      · exact .app happ₂ hm hf' rfl
      · obtain rfl := List.mem_singleton.1 hm
        nomatch hf'

theorem growing_mount (name : String) (source : RouteSource) :
    Growing (perform (.mount name source)) :=
  (growing_mountOn name source).bind fun _ =>
    ((Resting.find _ name).bind fun _ => .pure _).growing

/-- An application is made without routes. -/
theorem routes_new {state : AppState} {app : App} {w w' : World}
    (h : Run.exec (App.new state) w = (.ok app, w')) : app.routes = [] := by
  rw [App.new, Run.exec_bind_eq_ok] at h
  obtain ⟨l, w₁, -, h⟩ := h
  cases h
  rfl

/-- An application may get a name while it has no routes. -/
theorem evolves_nameApp {s s₁ : Session} (hs : s.Sound) (hrests : s.Rests s₁) {state : AppState}
    {app : App} {w : World} (h : Run.exec (App.new state) s₁.world = (.ok app, w)) (name : String)
    (logger : Ref Logger) :
    s.Evolves (exec (nameApp name { app with logger }) (s₁.inWorld w)).2 [] := by
  have hnew := hrests.trans (Resting.leaving (.new state) s₁)
  rw [exec_run_eq_ok.2 ⟨w, h, rfl⟩] at hnew
  refine hnew.evolves_naming hs rfl id fun hq => ?_
  rcases (s₁.inWorld w).estate.keeps_app hq with hq | ⟨m, hm, -⟩
  · exact hq
  · rw [routes_new h] at hm
    exact absurd hm List.not_mem_nil

theorem growing_makeApp (name : String) (state : AppState) (logger : Option String)
    (sources : List RouteSource) : Growing (perform (.makeApp name state logger sources)) := by
  intro s hs
  refine .bind_of_rests hs (Resting.findOptional _ logger s) fun given s₁ hgiven => ?_
  obtain ⟨-, rfl⟩ := exec_findOptional_eq_ok hgiven
  refine .bind_of_rests hs (Resting.leaving (.new state) s₁) fun app s₂ happ => ?_
  obtain ⟨w, hw, rfl⟩ := exec_run_eq_ok.1 happ
  refine (evolves_nameApp hs (.refl s₁) hw name (given.getD app.logger)).bind fun _ => ?_
  exact (Growing.forM (growing_mountOn name) sources).bind fun _ =>
    ((Resting.find _ name).bind fun _ => .pure _).growing

end Session

end HttpDispatch
