import HttpDispatch.Proofs.World.Frame
import HttpDispatch.Routing.App
import Mathlib.Data.List.Forall2

/-!
# What a connection is made of

A handler that is cloned stays as it is, and so does every other handler (`keeps_cloneHandler`).
What the new owner gets is the same handler or an object that was not there before, and for a
handler that is copied it is always new (`clones_cloneHandler`).

Connecting makes, for each mounted factory and in order, a service with the same pattern and the
same methods, and gives all of them the one logger of the connection (`forall₂_of_connect`).
-/

namespace HttpDispatch

open Run

/-! ### Cloning a handler -/

/-- The clone that a new owner gets of a handler, if it is not the handler itself. -/
def Handler.cloneFor (h : Handler) (family : Ref Handler) : Cloning → Option Handler
  | .same => none
  | .copy => some ⟨h.script, h.count, some family, 0⟩
  | .fresh => some ⟨h.script, 0, some family, 0⟩

namespace World

/-- The world when a clone was asked of a handler. -/
def asking (w : World) (r : Ref Handler) : World :=
  let h := w.handlers.get r
  { w.observing [.event (.cloned h.script.name h.count)] with
    handlers := w.handlers.modify (h.family r) fun f => { f with clones := f.clones + 1 } }

/-- What a handler throws when a clone is asked of it, if it throws. -/
def cloneThrows? (w : World) (r : Ref Handler) : Option Value :=
  let h := w.handlers.get r
  h.script.cloneFailure.bind fun (v, first) =>
    if first ≤ ((w.asking r).handlers.get (h.family r)).clones then some v else none

theorem keeps_asking (w : World) (r : Ref Handler) :
    w.handlers.Keeps Handler.standing (w.asking r).handlers :=
  .modify (f := fun f : Handler => { f with clones := f.clones + 1 }) (fun _ => rfl) _ _

/-- In the second world, a handler is what a new owner got of another one in the first. -/
structure Clones (w w' : World) (r r' : Ref Handler) : Prop where
  holds : w'.handlers.Holds r'
  script : (w'.handlers.get r').script = (w.handlers.get r).script
  source : r' = r ∨ ¬ w.handlers.Holds r'
  copied : (w.handlers.get r).script.cloning = some .copy →
    ¬ w.handlers.Holds r' ∧ (w'.handlers.get r').count = (w.handlers.get r).count

variable {w w₁ w₂ : World} {r r' : Ref Handler}

theorem Clones.later (h : w.Clones w₁ r r') (hk : w₁.handlers.Keeps Handler.standing w₂.handlers) :
    w.Clones w₂ r r' := by
  have hsame := hk.same h.holds
  refine ⟨hk.holds h.holds, (Handler.script_eq hsame).trans h.script, h.source, fun hc => ?_⟩
  exact ⟨(h.copied hc).1, (Handler.count_eq hsame).trans (h.copied hc).2⟩

theorem Clones.earlier (h : w₁.Clones w₂ r r') (hr : w.handlers.Holds r)
    (hk : w.handlers.Keeps Handler.standing w₁.handlers) : w.Clones w₂ r r' := by
  have hsame := hk.same hr
  have hscript : (w₁.handlers.get r).script = (w.handlers.get r).script := Handler.script_eq hsame
  refine ⟨h.holds, h.script.trans hscript, h.source.imp_right fun hn => mt hk.holds hn,
    fun hc => ?_⟩
  obtain ⟨hn, hcount⟩ := h.copied (hscript ▸ hc)
  exact ⟨mt hk.holds hn, hcount.trans (Handler.count_eq hsame)⟩

end World

namespace Run

theorem exec_handler (r : Ref Handler) (w : World) :
    exec (handler r) w = (.ok (w.handlers.get r), w) := rfl

theorem exec_addHandler (h : Handler) (w : World) :
    exec (addHandler h) w = (.ok w.handlers.next, { w with handlers := w.handlers.push h }) := rfl

theorem exec_cloneHandler (r : Ref Handler) (w : World) :
    exec (cloneHandler r) w =
      let h := w.handlers.get r
      match h.script.cloning with
      | none => (.ok r, w)
      | some cloning =>
        match w.cloneThrows? r with
        | some v => (.error v, w.asking r)
        | none =>
          match h.cloneFor (h.family r) cloning with
          | none => (.ok r, w.asking r)
          | some clone => exec (addHandler clone) (w.asking r) := by
  rw [cloneHandler, exec_bind_ok (exec_handler r w), World.cloneThrows?]
  generalize hh : w.handlers.get r = h
  simp only
  cases h.script.cloning with
  | none => rfl
  | some cloning =>
    let seen := w.observing [.event (.cloned h.script.name h.count)]
    have hemit : exec (emit (.cloned h.script.name h.count)) w = (.ok (), seen) := rfl
    have hasked : exec (modifyHandler (h.family r) fun f => { f with clones := f.clones + 1 })
        seen = (.ok (), w.asking r) := by
      rw [World.asking, hh]
      rfl
    simp only
    rw [exec_bind_ok hemit, exec_bind_ok hasked,
      exec_bind_ok (exec_handler (h.family r) (w.asking r))]
    cases h.script.cloneFailure with
    | none => cases cloning <;> rfl
    | some failure =>
      obtain ⟨v, first⟩ := failure
      simp only [Option.bind_some]
      by_cases ha : first ≤ ((w.asking r).handlers.get (h.family r)).clones
      · rw [if_pos ha, if_pos ha]
        rfl
      · rw [if_neg ha, if_neg ha]
        cases cloning <;> rfl

theorem keeps_cloneHandler (r : Ref Handler) (w : World) :
    w.handlers.Keeps Handler.standing (exec (cloneHandler r) w).2.handlers := by
  rw [exec_cloneHandler]
  simp only
  split
  · exact .refl _
  split
  · exact w.keeps_asking r
  split
  · exact w.keeps_asking r
  · exact (w.keeps_asking r).trans (.push _ _)

theorem clones_cloneHandler {r r' : Ref Handler} {w w' : World} (hr : w.handlers.Holds r)
    (h : exec (cloneHandler r) w = (.ok r', w')) : w.Clones w' r r' := by
  have hasking := w.keeps_asking r
  have hsame := hasking.same hr
  rw [exec_cloneHandler] at h
  simp only at h
  split at h
  · next hnone =>
    obtain ⟨rfl, rfl⟩ := Prod.mk.inj h |>.imp_left Except.ok.inj
    exact ⟨hr, rfl, .inl rfl, fun hc => by rw [hnone] at hc; nomatch hc⟩
  · next cloning hcloning =>
    split at h
    · nomatch h
    split at h
    · next hsame' =>
      obtain ⟨rfl, rfl⟩ := Prod.mk.inj h |>.imp_left Except.ok.inj
      refine ⟨hasking.holds hr, Handler.script_eq hsame, .inl rfl, fun hc => ?_⟩
      obtain rfl := Option.some.inj (hcloning.symm.trans hc)
      nomatch hsame'
    · next clone hclone =>
      rw [exec_addHandler] at h
      obtain ⟨rfl, rfl⟩ := Prod.mk.inj h |>.imp_left Except.ok.inj
      have hnew : ¬ w.handlers.Holds (w.asking r).handlers.next :=
        fun hn => Store.not_holds_next _ (hasking.holds hn)
      have hclone' : clone.script = (w.handlers.get r).script := by
        cases cloning <;> cases hclone <;> rfl
      refine ⟨Store.holds_push_next _ _, ?_, .inr hnew, fun hc => ⟨hnew, ?_⟩⟩
      · exact (congrArg Handler.script (Store.get_push_next _ _)).trans hclone'
      · obtain rfl := Option.some.inj (hcloning.symm.trans hc)
        have hcount : clone.count = (w.handlers.get r).count := by
          cases hclone
          rfl
        exact (congrArg Handler.count (Store.get_push_next _ _)).trans hcount

end Run

/-! ### Activating factories -/

/-- What is in the second of two lists that match has a partner in the first. -/
theorem exists_of_forall₂ {α β : Type} {R : α → β → Prop} {as : List α} {bs : List β}
    (h : List.Forall₂ R as bs) {b : β} (hb : b ∈ bs) : ∃ a ∈ as, R a b := by
  obtain ⟨i, hi, rfl⟩ := List.getElem_of_mem hb
  have hi' : i < as.length := h.length_eq ▸ hi
  exact ⟨as[i], List.getElem_mem hi', h.get hi' hi⟩

/-- What is made of a mounted factory for a connection with this logger. -/
structure MountedService.Of (m : MountedFactory) (logger : Ref Logger) (a : MountedService) :
    Prop where
  pattern : a.pattern = m.pattern
  route : ∀ f, m.factory = .route f →
    ∃ s, a.service = .route s ∧ s.methods = f.methods ∧ s.logger = logger
  foreign : ∀ r, m.factory = .foreign r → a.service = .foreign r

namespace RouteFactory

/-- A factory that is activated has its handler cloned, and then it gets a logger. -/
theorem activate_eq_ok {f : RouteFactory} {given : Option (Ref Logger)} {s : RouteService}
    {w w' : World} :
    exec (f.activate given) w = (.ok s, w') ↔
      ∃ r w₁ l, exec (cloneHandler f.handler) w = (.ok r, w₁) ∧
        exec (loggerOrShared given) w₁ = (.ok l, w') ∧ s = ⟨r, f.methods, l⟩ := by
  rw [activate, exec_bind_eq_ok]
  constructor
  · rintro ⟨r, w₁, hr, h⟩
    obtain ⟨l, w₂, hl, h⟩ := exec_bind_eq_ok.1 h
    cases h
    exact ⟨r, w₁, l, hr, hl, rfl⟩
  · rintro ⟨r, w₁, l, hr, hl, rfl⟩
    exact ⟨r, w₁, hr, exec_bind_eq_ok.2 ⟨l, w', hl, rfl⟩⟩

/-- A factory that is activated for a connection only has its handler cloned. -/
theorem activate_some_eq_ok {f : RouteFactory} {logger : Ref Logger} {s : RouteService}
    {w w' : World} :
    exec (f.activate (some logger)) w = (.ok s, w') ↔
      ∃ r, exec (cloneHandler f.handler) w = (.ok r, w') ∧ s = ⟨r, f.methods, logger⟩ := by
  rw [activate_eq_ok]
  constructor
  · rintro ⟨r, w₁, l, hr, hl, rfl⟩
    cases hl
    exact ⟨r, hr, rfl⟩
  · rintro ⟨r, hr, rfl⟩
    exact ⟨r, w', logger, hr, rfl, rfl⟩

end RouteFactory

namespace Factory

theorem activate_eq_ok {factory : Factory} {logger : Ref Logger} {service : Service}
    {w w' : World} (h : exec (factory.activate logger) w = (.ok (.ok service), w')) :
    (∀ f, factory = .route f → ∃ s, service = .route s ∧
      exec (f.activate (some logger)) w = (.ok s, w')) ∧
    ∀ r, factory = .foreign r → service = .foreign r := by
  cases factory with
  | route f =>
    refine ⟨?_, nofun⟩
    rintro _ ⟨⟩
    rw [activate, exec_attempt] at h
    obtain ⟨hresult, hworld⟩ := Prod.mk.inj h
    obtain ⟨s, w₁, hs, hdone⟩ := exec_bind_eq_ok.1 (Prod.ext (Except.ok.inj hresult) hworld)
    cases hdone
    exact ⟨s, rfl, hs⟩
  | foreign r =>
    refine ⟨nofun, ?_⟩
    rintro _ ⟨⟩
    obtain ⟨_, w₁, -, h⟩ := exec_bind_eq_ok.1 h
    cases hfailure : r.activationFailure with
    | none =>
      rw [hfailure] at h
      cases h
      rfl
    | some failure =>
      rw [hfailure] at h
      cases failure <;> nomatch h

theorem keepsHandlers_activate (factory : Factory) (logger : Ref Logger) :
    KeepsHandlers (factory.activate logger) := by
  cases factory with
  | route f =>
    have hactivate : KeepsHandlers (f.activate (some logger)) :=
      .bind (keeps_cloneHandler f.handler) fun _ => LeavesHandlers.keeps (.pure _)
    exact KeepsHandlers.bind hactivate fun _ => LeavesHandlers.keeps (.pure _)
  | foreign r =>
    refine .bind (LeavesHandlers.keeps fun _ => rfl) fun _ => LeavesHandlers.keeps ?_
    cases r.activationFailure with
    | none => exact .pure _
    | some failure =>
      cases failure with
      | raised v => exact .raise v
      | rejected v => exact .pure _

end Factory

namespace App

theorem collect_cons_eq_ok {pattern : Pattern} {result : Except Value Service}
    {rest : List (Pattern × Except Value Service)} {routes : List MountedService} :
    collect ((pattern, result) :: rest) = .ok routes ↔
      ∃ service more, result = .ok service ∧ collect rest = .ok more ∧
        routes = ⟨pattern, service⟩ :: more := by
  cases result with
  | error v => simp [collect]
  | ok service =>
    rw [collect]
    cases collect rest with
    | error f => simp [Except.map]
    | ok more => simp [Except.map, eq_comm]

/-- An activation of several factories activates the first one, and then the others. -/
theorem activateAll_cons_eq_ok {logger : Ref Logger} {m : MountedFactory}
    {rest : List MountedFactory} {results : List (Pattern × Except Value Service)} {w w' : World} :
    exec (activateAll logger (m :: rest)) w = (.ok results, w') ↔
      ∃ result w₁ more, exec (m.factory.activate logger) w = (.ok result, w₁) ∧
        exec (activateAll logger rest) w₁ = (.ok more, w') ∧
        results = (m.pattern, result) :: more := by
  rw [activateAll, exec_bind_eq_ok]
  constructor
  · rintro ⟨result, w₁, hfirst, h⟩
    obtain ⟨more, w₂, hrest, h⟩ := exec_bind_eq_ok.1 h
    cases h
    exact ⟨result, w₁, more, hfirst, hrest, rfl⟩
  · rintro ⟨result, w₁, more, hfirst, hrest, rfl⟩
    exact ⟨result, w₁, hfirst, exec_bind_eq_ok.2 ⟨more, w', hrest, rfl⟩⟩

theorem keepsHandlers_activateAll (logger : Ref Logger) (ms : List MountedFactory) :
    KeepsHandlers (activateAll logger ms) := by
  induction ms with
  | nil => exact LeavesHandlers.keeps (.pure _)
  | cons m rest ih =>
    exact .bind (m.factory.keepsHandlers_activate logger) fun _ =>
      .bind ih fun _ => LeavesHandlers.keeps (.pure _)

/-- Activations that all succeed make one service for each factory. -/
theorem forall₂_of_activateAll {logger : Ref Logger} {ms : List MountedFactory}
    {results : List (Pattern × Except Value Service)} {routes : List MountedService}
    {w w' : World} (h : exec (activateAll logger ms) w = (.ok results, w'))
    (hroutes : collect results = .ok routes) :
    List.Forall₂ (fun m a => MountedService.Of m logger a) ms routes := by
  induction ms generalizing w results routes with
  | nil =>
    cases h
    cases hroutes
    exact .nil
  | cons m rest ih =>
    obtain ⟨result, w₁, more, hfirst, hrest, rfl⟩ := activateAll_cons_eq_ok.1 h
    obtain ⟨service, others, rfl, hothers, rfl⟩ := collect_cons_eq_ok.1 hroutes
    obtain ⟨hroute, hforeign⟩ := Factory.activate_eq_ok hfirst
    refine .cons ⟨rfl, fun f hf => ?_, hforeign⟩ (ih hrest hothers)
    obtain ⟨s, hs, hactivate⟩ := hroute f hf
    obtain ⟨r, -, rfl⟩ := RouteFactory.activate_some_eq_ok.1 hactivate
    exact ⟨_, hs, rfl, rfl⟩

/-- In the second world, a route service runs what it got of the handler of a factory in the
first. -/
def RunsClone (w w' : World) (m : MountedFactory) (a : MountedService) : Prop :=
  ∀ s, a.service = .route s → ∃ f, m.factory = .route f ∧
    (w.handlers.Holds f.handler → w.Clones w' f.handler s.handler)

/-- Two services do not share a handler that is copied. -/
def Apart (w : World) (a b : MountedService) : Prop :=
  ∀ s s', a.service = .route s → b.service = .route s' →
    (w.handlers.get s.handler).script.cloning = some .copy → s.handler ≠ s'.handler

theorem RunsClone.later {w w₁ w₂ : World} {m : MountedFactory} {a : MountedService}
    (h : RunsClone w w₁ m a) (hk : w₁.handlers.Keeps Handler.standing w₂.handlers) :
    RunsClone w w₂ m a := by
  intro s hs
  obtain ⟨f, hf, hclone⟩ := h s hs
  exact ⟨f, hf, fun hr => (hclone hr).later hk⟩

theorem RunsClone.earlier {w w₁ w₂ : World} {m : MountedFactory} {a : MountedService}
    (h : RunsClone w₁ w₂ m a) (hk : w.handlers.Keeps Handler.standing w₁.handlers) :
    RunsClone w w₂ m a := by
  intro s hs
  obtain ⟨f, hf, hclone⟩ := h s hs
  exact ⟨f, hf, fun hr => (hclone (hk.holds hr)).earlier hr hk⟩

theorem runsClone_of_activate {m : MountedFactory} {logger : Ref Logger} {service : Service}
    {w w' : World} (h : exec (m.factory.activate logger) w = (.ok (.ok service), w')) :
    RunsClone w w' m ⟨m.pattern, service⟩ := by
  obtain ⟨hroute, hforeign⟩ := Factory.activate_eq_ok h
  rintro s rfl
  cases hf : m.factory with
  | foreign r => nomatch hforeign r hf
  | route f =>
    obtain ⟨s', hs', hactivate⟩ := hroute f hf
    obtain rfl := Service.route.inj hs'
    obtain ⟨r, hr, rfl⟩ := RouteFactory.activate_some_eq_ok.1 hactivate
    exact ⟨f, rfl, fun hheld => clones_cloneHandler hheld hr⟩

/-- The handlers of these factories are there. -/
def Held (w : World) (ms : List MountedFactory) : Prop :=
  ∀ m ∈ ms, ∀ f, m.factory = .route f → w.handlers.Holds f.handler

/-- A service whose handler was there before shares it with none that got a clone later. -/
theorem apart_of_runsClone {w w' : World} {ms : List MountedFactory} {routes : List MountedService}
    (h : List.Forall₂ (RunsClone w w') ms routes) (hheld : Held w ms) {a : MountedService}
    (ha : ∀ s, a.service = .route s → w.handlers.Holds s.handler) :
    ∀ b ∈ routes, Apart w' a b := by
  intro b hb s s' hs hs' hcopy heq
  obtain ⟨m, hm, hruns⟩ := exists_of_forall₂ h hb
  obtain ⟨f, hf, hclone⟩ := hruns s' hs'
  have hclones := hclone (hheld m hm f hf)
  rw [heq, hclones.script] at hcopy
  exact (hclones.copied hcopy).1 (heq ▸ ha s hs)

/-- The services of one connection run clones, and each its own. -/
theorem clones_of_activateAll {logger : Ref Logger} {ms : List MountedFactory}
    {results : List (Pattern × Except Value Service)} {routes : List MountedService}
    {w w' : World} (h : exec (activateAll logger ms) w = (.ok results, w'))
    (hroutes : collect results = .ok routes) (hheld : Held w ms) :
    List.Forall₂ (RunsClone w w') ms routes ∧ routes.Pairwise (Apart w') := by
  induction ms generalizing w results routes with
  | nil =>
    cases h
    cases hroutes
    exact ⟨.nil, .nil⟩
  | cons m rest ih =>
    obtain ⟨result, w₁, more, hfirst, hrest, rfl⟩ := activateAll_cons_eq_ok.1 h
    obtain ⟨service, others, rfl, hothers, rfl⟩ := collect_cons_eq_ok.1 hroutes
    have hkeeps : w.handlers.Keeps Handler.standing w₁.handlers := by
      have hk := m.factory.keepsHandlers_activate logger w
      rwa [hfirst] at hk
    have hkeeps' : w₁.handlers.Keeps Handler.standing w'.handlers := by
      have hk := keepsHandlers_activateAll logger rest w₁
      rwa [hrest] at hk
    have hheld' : Held w₁ rest :=
      fun m hm f hf => hkeeps.holds (hheld m (List.mem_cons_of_mem _ hm) f hf)
    obtain ⟨hclones, hapart⟩ := ih hrest hothers hheld'
    have hclone := runsClone_of_activate hfirst
    -- The first service runs a handler that is there when the others get theirs.
    have hthere : ∀ s, service = .route s → w₁.handlers.Holds s.handler := by
      intro s hs
      obtain ⟨f, hf, hclones⟩ := hclone s hs
      exact (hclones (hheld m List.mem_cons_self f hf)).holds
    exact ⟨.cons (hclone.later hkeeps') (hclones.imp fun _ _ h => h.earlier hkeeps),
      List.pairwise_cons.2 ⟨apart_of_runsClone hclones hheld' hthere, hapart⟩⟩

theorem connect_eq_ok {app : App} {logger : Option (Ref Logger)} {c : Connection} {w w' : World} :
    exec (app.connect logger) w = (.ok c, w') ↔
      ∃ results routes, exec (activateAll (logger.getD app.logger) app.routes) w =
          (.ok results, w') ∧
        collect results = .ok routes ∧ c = ⟨routes, app.state, logger.getD app.logger⟩ := by
  rw [connect, exec_bind_eq_ok]
  constructor
  · rintro ⟨results, w₁, hall, h⟩
    cases hc : collect results with
    | error f => rw [hc] at h; nomatch h
    | ok routes =>
      rw [hc] at h
      cases h
      exact ⟨results, routes, hall, hc, rfl⟩
  · rintro ⟨results, routes, hall, hc, rfl⟩
    refine ⟨results, w', hall, ?_⟩
    rw [hc]
    rfl

theorem clones_of_connect {app : App} {logger : Option (Ref Logger)} {c : Connection}
    {w w' : World} (h : exec (app.connect logger) w = (.ok c, w')) (hheld : Held w app.routes) :
    List.Forall₂ (RunsClone w w') app.routes c.routes ∧ c.routes.Pairwise (Apart w') := by
  obtain ⟨results, routes, hall, hc, rfl⟩ := connect_eq_ok.1 h
  exact clones_of_activateAll hall hc hheld

theorem keepsHandlers_connect (app : App) (logger : Option (Ref Logger)) :
    KeepsHandlers (app.connect logger) := by
  refine (keepsHandlers_activateAll _ app.routes).bind fun results => LeavesHandlers.keeps ?_
  cases collect results with
  | ok routes => exact .pure _
  | error f => exact .raise _

/-- What a connection is made of: the services of what is mounted, in order, the state of the
application, and one logger for all. -/
theorem forall₂_of_connect {app : App} {logger : Option (Ref Logger)} {c : Connection}
    {w w' : World} (h : exec (app.connect logger) w = (.ok c, w')) :
    List.Forall₂ (fun m a => MountedService.Of m c.logger a) app.routes c.routes := by
  obtain ⟨results, routes, hall, hc, rfl⟩ := connect_eq_ok.1 h
  exact forall₂_of_activateAll hall hc

/-- An application all of whose routes are made of handlers. -/
def OnlyHandlers (app : App) : Prop := ∀ m ∈ app.routes, ∃ f, m.factory = .route f

/-- A connection of such an application has nothing but route services, with its own logger. -/
theorem OnlyHandlers.exists_route {app : App} (happ : app.OnlyHandlers)
    {logger : Option (Ref Logger)} {c : Connection} {w w' : World}
    (h : exec (app.connect logger) w = (.ok c, w')) {a : MountedService} (ha : a ∈ c.routes) :
    ∃ s : RouteService, a.service = .route s ∧ s.logger = c.logger := by
  obtain ⟨m, hm, hof⟩ := exists_of_forall₂ (forall₂_of_connect h) ha
  obtain ⟨f, hf⟩ := happ m hm
  obtain ⟨s, hs, -, hl⟩ := hof.route f hf
  exact ⟨s, hs, hl⟩

end App

end HttpDispatch
