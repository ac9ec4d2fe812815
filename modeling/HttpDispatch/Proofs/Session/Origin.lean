import HttpDispatch.Proofs.Session.Descent

/-!
# Every service has a history

A factory that can be activated (`Session.Estate.Offers`) was made of a template by some command of
the past, and a service was made of such a factory by a later one.  A single command adds no other
factory (`Session.offers_step`) and no other service (`Session.serviceAt_step`), so it is enough to
look for the command that added it (`Session.offers_after`, `Session.serviceAt_after`).
-/

namespace HttpDispatch

namespace Session

/-- A factory can be activated: it has a name, or it is mounted on an application that has one. -/
inductive Estate.Offers (e : Estate) (f : RouteFactory) : Prop
  | named {name : String} : e.factories.get? name = some f → Offers e f
  | mounted {name : String} {app : App} {m : MountedFactory} :
      e.apps.get? name = some app → m ∈ app.routes → m.factory = .route f → Offers e f

variable {α β : Type} {s s' : Session} {f : RouteFactory} {p : Place} {sv : RouteService}

/-! ### Failures -/

/-- A part of a step during which a session rests if the part fails. -/
def RestsIfFails (part : Step α) : Prop :=
  ∀ (s s' : Session) (stop : Stop), exec part s = (.error stop, s') → s.Rests s'

theorem Resting.bind_restsIfFails {part : Step α} {next : α → Step β} (hp : Resting part)
    (hnext : ∀ a, RestsIfFails (next a)) : RestsIfFails (part >>= next) := by
  intro s s' stop h
  have h₁ := hp s
  rw [exec_bind] at h
  cases hs : exec part s with
  | mk result s₁ =>
    rw [hs] at h h₁
    cases result with
    | ok a => exact h₁.trans (hnext a _ _ _ h)
    | error stop' =>
      cases h
      exact h₁

/-- A part of a step that never fails. -/
theorem RestsIfFails.answered {part : Step α} (h : ∀ s, (exec part s).1.isOk) :
    RestsIfFails part := by
  intro s s' stop hfails
  have hanswered := h s
  rw [hfails] at hanswered
  nomatch hanswered

theorem restsIfFails_createFactory (route name : String) :
    RestsIfFails (perform (.createFactory route name)) :=
  (Resting.find _ route).bind_restsIfFails fun r =>
    (Resting.run (keepsHandlers_create r)).bind_restsIfFails fun _ => .answered fun _ => rfl

theorem restsIfFails_activateFactory (factory name : String) (logger : Option String) :
    RestsIfFails (perform (.activateFactory factory name logger)) :=
  (Resting.find _ factory).bind_restsIfFails fun f =>
    (Resting.findOptional _ logger).bind_restsIfFails fun given =>
      (Resting.run (f.keepsHandlers_activate given)).bind_restsIfFails fun _ => .answered fun _ => rfl

theorem restsIfFails_connect (app name : String) (logger : Option String) :
    RestsIfFails (perform (.connect app name logger)) :=
  (Resting.find _ app).bind_restsIfFails fun a =>
    (Resting.findOptional _ logger).bind_restsIfFails fun given =>
      (Resting.run (a.keepsHandlers_connect given)).bind_restsIfFails fun _ => .answered fun _ => rfl

/-- A command that fails at once, or is answered. -/
theorem RestsIfFails.step {c : Command} (h : RestsIfFails (perform c)) (s : Session) :
    (s.step c).2.estate = s.estate ∨ (s.step c).1.result.isOk := by
  cases hresult : (s.step c).1.result with
  | ok reply => exact .inr rfl
  | error stop =>
    have hfails : exec (perform c) s.opened = (.error stop, (s.step c).2) := Prod.ext hresult rfl
    exact .inl (h _ _ _ hfails).estate

/-! ### Factories -/

/-- A factory that was not there before is in the slot that was written. -/
theorem Estate.SameBut.offers {e e' : Estate} {slot : Option Slot} (h : e.SameBut slot e')
    (hf : e'.Offers f) :
    e.Offers f ∨
      (∃ name, slot = some (.factory name) ∧ e'.factories.get? name = some f) ∨
      ∃ name app m, slot = some (.app name) ∧ e'.apps.get? name = some app ∧ m ∈ app.routes ∧
        m.factory = .route f := by
  cases hf with
  | @named name hf =>
    by_cases hslot : slot = some (.factory name)
    · exact .inr (.inl ⟨name, hslot, hf⟩)
    · exact .inl (.named ((h.factories hslot).symm.trans hf))
  | @mounted name app m happ hm hf =>
    by_cases hslot : slot = some (.app name)
    · exact .inr (.inr ⟨name, app, m, hslot, happ, hm, hf⟩)
    · exact .inl (.mounted ((h.apps hslot).symm.trans happ) hm hf)

theorem makes_createFactory {route name : String}
    (hf : (s.step (.createFactory route name)).2.factories.get? name = some f)
    (hanswered : (s.step (.createFactory route name)).1.result.isOk) :
    ∃ t, s.Makes f t (.createFactory route name) := by
  obtain ⟨reply, hexec⟩ := exists_exec_of_isOk hanswered
  obtain ⟨r, f', w, hr, -, -⟩ := exec_createFactory_eq_ok hexec
  exact ⟨_, .create hr rfl hanswered hf⟩

theorem makes_mount (hs : s.Sound) {name : String} {source : RouteSource} {app' : App}
    {m : MountedFactory} (happ' : (s.step (.mount name source)).2.apps.get? name = some app')
    (hm : m ∈ app'.routes) (hf : m.factory = .route f) :
    s.estate.Offers f ∨ ∃ t, s.Makes f t (.mount name source) := by
  cases happ : s.apps.get? name with
  | none =>
    have hunknown : exec (mountOn name source) s.opened = (.error (.unknown name), s.opened) :=
      exec_bind_error (exec_find_unknown happ)
    rw [step_snd, exec_mount_snd, hunknown] at happ'
    nomatch happ.symm.trans happ'
  | some app =>
    obtain ⟨more, hmounts, -⟩ := mounts_mountOn hs.opened happ source
    rw [← exec_mount_snd, ← step_snd] at hmounts
    obtain rfl := Option.some.inj (happ'.symm.trans hmounts.app)
    rcases List.mem_append.1 hm with hold | hnew
    · exact .inl (.mounted happ hold hf)
    · obtain ⟨i, hi⟩ := List.getElem?_of_mem hnew
      obtain ⟨source', hsource, hmounted⟩ := hmounts.mounted hi
      obtain ⟨rfl, rfl⟩ : i = 0 ∧ source' = source := by
        cases i with
        | zero => exact ⟨rfl, (Option.some.inj hsource).symm⟩
        | succ i => nomatch hsource
      obtain ⟨-, t, ht, -⟩ := hmounted f hf
      refine .inr ⟨t, .mount happ ht happ' ?_ hf⟩
      rw [List.getElem?_append_right (Nat.le_refl _), Nat.sub_self]
      exact hi

theorem makes_makeApp (hs : s.Sound) {name : String} {state : AppState} {logger : Option String}
    {sources : List RouteSource} {app' : App} {m : MountedFactory}
    (happ' : (s.step (.makeApp name state logger sources)).2.apps.get? name = some app')
    (hm : m ∈ app'.routes) (hf : m.factory = .route f) :
    s.estate.Offers f ∨ ∃ t, s.Makes f t (.makeApp name state logger sources) := by
  by_cases hknown : ∀ l, logger = some l → (s.loggers.get? l).isSome = true
  · obtain ⟨named, app, hnamed, hwrites, happ, hempty, hstep⟩ :=
      exists_exec_makeApp_snd hs.opened name hknown state sources
    obtain ⟨more, hmounts⟩ := mounts_forM hnamed.sound happ sources
    rw [← hstep, ← step_snd] at hmounts
    obtain rfl := Option.some.inj (happ'.symm.trans hmounts.app)
    simp only [hempty, List.nil_append] at hm
    obtain ⟨i, hi⟩ := List.getElem?_of_mem hm
    obtain ⟨source, hsource, hmounted⟩ := hmounts.mounted hi
    obtain ⟨-, t, ht, -⟩ := hmounted.earlier hnamed hs.opened hwrites f hf
    refine .inr ⟨t, .makeApp hknown hsource ht happ' ?_ hf⟩
    simp only [hempty, List.nil_append]
    exact hi
  · -- The logger has no name, and the command fails before the application gets its own.
    obtain ⟨l, hl⟩ := not_forall.1 hknown
    obtain ⟨rfl, hmissing⟩ := Classical.not_imp.1 hl
    have hnone : s.opened.loggers.get? l = none := Option.not_isSome_iff_eq_none.1 hmissing
    have hunknown : exec (findOptional Session.loggers (some l)) s.opened =
        (.error (.unknown l), s.opened) := exec_bind_error (exec_find_unknown hnone)
    rw [step_snd, perform, exec_bind_error hunknown] at happ'
    exact .inl (.mounted happ' hm hf)

theorem routes_setAppLogger {name logger : String} {app' : App}
    (happ' : (exec (perform (.setAppLogger name logger)) s).2.apps.get? name = some app') :
    ∃ app, s.apps.get? name = some app ∧ app.routes = app'.routes := by
  rw [perform] at happ'
  cases hl : s.loggers.get? logger with
  | none =>
    rw [exec_bind_error (exec_find_unknown hl)] at happ'
    exact ⟨app', happ', rfl⟩
  | some r =>
    rw [exec_bind_ok (exec_find_eq_ok.2 ⟨hl, rfl⟩)] at happ'
    cases happ : s.apps.get? name with
    | none =>
      rw [exec_bind_error (exec_find_unknown happ)] at happ'
      have hnone := happ.symm.trans happ'
      cases hnone
    | some app =>
      rw [exec_bind_ok (exec_find_eq_ok.2 ⟨happ, rfl⟩)] at happ'
      obtain rfl := Option.some.inj (happ'.symm.trans (Dict.get?_set_self _ _ _))
      exact ⟨app, rfl, rfl⟩

/-- A factory that a command adds was made by it of a template. -/
theorem offers_step (hs : s.Sound) {c : Command} (h : (s.step c).2.estate.Offers f) :
    s.estate.Offers f ∨ ∃ t, s.Makes f t c := by
  rcases (sameBut_step s c).offers h with h | ⟨name, hslot, hf⟩ |
    ⟨name, app, m, hslot, happ, hm, hf⟩
  · exact .inl h
  · cases c with
    | createFactory route other =>
      cases hslot
      rcases (restsIfFails_createFactory route name).step s with hsame | hanswered
      · exact .inl (hsame ▸ h)
      · exact .inr (makes_createFactory hf hanswered)
    | _ => nomatch hslot
  · cases c with
    | makeApp other state logger sources =>
      cases hslot
      exact makes_makeApp hs happ hm hf
    | mount other source =>
      cases hslot
      exact makes_mount hs happ hm hf
    | setAppLogger other logger =>
      cases hslot
      obtain ⟨app', happ', hroutes⟩ := routes_setAppLogger happ
      exact .inl (.mounted happ' (hroutes ▸ hm) hf)
    | _ => nomatch hslot

/-- A factory that can be activated after some commands could be before, or one of them made it. -/
theorem offers_after (hs : s.Sound) {cs : List Command} (h : (s.after cs).estate.Offers f) :
    s.estate.Offers f ∨ ∃ before making between t, cs = before ++ making :: between ∧
      (s.after before).Makes f t making := by
  induction cs generalizing s with
  | nil => exact .inl h
  | cons c rest ih =>
    -- The last of the commands that added it is the one to look for.
    rcases ih (evolves_step hs c).sound h with h | ⟨before, making, between, t, rfl, hmakes⟩
    · rcases offers_step hs h with h | ⟨t, hmakes⟩
      · exact .inl h
      · exact .inr ⟨[], c, rest, t, rfl, hmakes⟩
    · exact .inr ⟨c :: before, making, between, t, rfl, hmakes⟩

/-! ### Services -/

/-- What has to be written for a service to change at this place. -/
def Place.slot : Place → Slot
  | named name => .service name
  | mounted connection _ => .connection connection

theorem Estate.SameBut.serviceAt {e e' : Estate} {slot : Option Slot} (h : e.SameBut slot e')
    (hp : slot ≠ some p.slot) : e'.serviceAt p = e.serviceAt p := by
  cases p with
  | named name => exact h.services hp
  | mounted name i => rw [Estate.serviceAt, Estate.serviceAt, h.connections hp]

theorem activates_activateFactory {factory name : String} {logger : Option String}
    (hsv : (s.step (.activateFactory factory name logger)).2.services.get? name = some sv)
    (hanswered : (s.step (.activateFactory factory name logger)).1.result.isOk) :
    ∃ f, s.estate.Offers f ∧ s.Activates f sv (.activateFactory factory name logger) := by
  obtain ⟨reply, hexec⟩ := exists_exec_of_isOk hanswered
  obtain ⟨f, sv', w, hf, -, -⟩ := exec_activateFactory_eq_ok hexec
  exact ⟨f, .named hf, .activate hf hanswered hsv⟩

theorem activates_connect (hs : s.Sound) {app name : String} {logger : Option String}
    {c : Connection} {i : Nat}
    (hc : (s.step (.connect app name logger)).2.connections.get? name = some c)
    (hsv : c.serviceAt i = some sv)
    (hanswered : (s.step (.connect app name logger)).1.result.isOk) :
    ∃ f, s.estate.Offers f ∧ s.Activates f sv (.connect app name logger) := by
  obtain ⟨reply, hexec⟩ := exists_exec_of_isOk hanswered
  obtain ⟨a, c', w, ha, hw, hstep⟩ := exec_connect_eq_ok hexec
  have hc' : (s.step (.connect app name logger)).2.connections.get? name = some c' := by
    rw [hstep]
    exact Dict.get?_set_self _ _ _
  obtain rfl := Option.some.inj (hc.symm.trans hc')
  obtain ⟨m, f, hm, hf, -⟩ := App.exists_clones_of_connect hw (hs.opened.holds_mounted ha) hsv
  exact ⟨f, .mounted ha (List.mem_of_getElem? hm) hf, .connect ha hm hf hanswered hc hsv⟩

/-- A service that a command adds was made by it of a factory that could be activated. -/
theorem serviceAt_step (hs : s.Sound) {c : Command}
    (h : (s.step c).2.estate.serviceAt p = some sv) :
    s.estate.serviceAt p = some sv ∨ ∃ f, s.estate.Offers f ∧ s.Activates f sv c := by
  by_cases hslot : c.slot = some p.slot
  · cases p with
    | named name =>
      cases c with
      | activateFactory factory other logger =>
        cases hslot
        rcases (restsIfFails_activateFactory factory name logger).step s with hsame | hanswered
        · exact .inl (hsame ▸ h)
        · exact .inr (activates_activateFactory h hanswered)
      | _ => nomatch hslot
    | mounted name i =>
      cases c with
      | connect app other logger =>
        cases hslot
        rcases (restsIfFails_connect app name logger).step s with hsame | hanswered
        · exact .inl (hsame ▸ h)
        · obtain ⟨c, hc, hsv⟩ := Option.bind_eq_some_iff.1 h
          exact .inr (activates_connect hs hc hsv hanswered)
      | _ => nomatch hslot
  · exact .inl (((sameBut_step s c).serviceAt hslot).symm.trans h)

/-- A service that is at some place after some commands was there before, or one of them made it of
a factory that could be activated then. -/
theorem serviceAt_after (hs : s.Sound) {cs : List Command}
    (h : (s.after cs).estate.serviceAt p = some sv) :
    s.estate.serviceAt p = some sv ∨ ∃ before activating rest f,
      cs = before ++ activating :: rest ∧ (s.after before).estate.Offers f ∧
        (s.after before).Activates f sv activating := by
  induction cs generalizing s with
  | nil => exact .inl h
  | cons c rest ih =>
    rcases ih (evolves_step hs c).sound h with h | ⟨before, activating, more, f, rfl, hf⟩
    · rcases serviceAt_step hs h with h | ⟨f, hf⟩
      · exact .inl h
      · exact .inr ⟨[], c, rest, f, rfl, hf⟩
    · exact .inr ⟨c :: before, activating, more, f, rfl, hf⟩

/-- A session in which nothing can be activated or called. -/
structure Vacant (s : Session) : Prop where
  offers : ∀ f, ¬ s.estate.Offers f
  serviceAt : ∀ p, s.estate.serviceAt p = none

theorem vacant_start (clock : Int) (draws : List Nat) (environ : Environ) :
    (start clock draws environ).Vacant where
  offers f h := by cases h <;> contradiction
  serviceAt p := by cases p <;> rfl

/-- **Every service has a history.**  One of the commands made its factory of a template, and a
later one made the service of this factory. -/
theorem Vacant.history (hvacant : s.Vacant) (hs : s.Sound) {past : List Command}
    (hsv : (s.after past).estate.serviceAt p = some sv) :
    ∃ before making between activating rest f t,
      past = before ++ making :: (between ++ activating :: rest) ∧
      (s.after before).Makes f t making ∧
      (((s.after before).step making).2.after between).Activates f sv activating := by
  rcases serviceAt_after hs hsv with h | ⟨earlier, activating, rest, f, rfl, hf, hactivates⟩
  · nomatch (hvacant.serviceAt p).symm.trans h
  · rcases offers_after hs hf with h | ⟨before, making, between, t, rfl, hmakes⟩
    · exact absurd h (hvacant.offers f)
    · rw [after_append, after_cons] at hactivates
      refine ⟨before, making, between, activating, rest, f, t, ?_, hmakes, hactivates⟩
      rw [List.append_assoc, List.cons_append]

end Session

end HttpDispatch
