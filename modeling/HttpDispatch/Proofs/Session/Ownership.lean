import HttpDispatch.Proofs.Routing.Activation
import HttpDispatch.Proofs.Session.Run

/-!
# Who owns a handler

Handlers are mentioned by what can still be activated or mounted, which keeps them, and by services,
which run them.  A handler that is copied when it is cloned has an owner: one service at most runs
it, and nothing else mentions it.  A session for which this holds is sound (`Session.Sound`).

`Session.Evolves` says what a session may become: it stays sound, every handler is where it was and
counts just the requests that were served to it, and a service that is new does not run a handler
that was there before, if this is one that is copied.
-/

namespace HttpDispatch

/-- The service, if it is one that runs a handler. -/
def Service.route? : Service → Option RouteService
  | route s => some s
  | foreign _ => none

theorem Service.route?_eq_some {service : Service} {s : RouteService} :
    service.route? = some s ↔ service = .route s := by
  cases service <;> simp [route?]

/-- The service behind a route of a connection. -/
def Connection.serviceAt (c : Connection) (i : Nat) : Option RouteService :=
  c.routes[i]?.bind fun m => m.service.route?

namespace Session

/-- Where a service is to be found: under a name of its own or behind a route of a connection. -/
inductive Place
  | named (name : String)
  | mounted (connection : String) (index : Nat)

namespace Estate

/-- A handler is kept: a name, a route or a factory mentions it. -/
inductive Keeps (e : Estate) (r : Ref Handler) : Prop
  | handler {name : String} : e.handlers.get? name = some r → Keeps e r
  | route {name : String} {route : Route} :
      e.routes.get? name = some route → route.handler = r → Keeps e r
  | factory {name : String} {f : RouteFactory} :
      e.factories.get? name = some f → f.handler = r → Keeps e r
  | app {name : String} {app : App} {m : MountedFactory} {f : RouteFactory} :
      e.apps.get? name = some app → m ∈ app.routes → m.factory = .route f → f.handler = r → Keeps e r

/-- The service at a place. -/
def serviceAt (e : Estate) : Place → Option RouteService
  | .named name => e.services.get? name
  | .mounted connection i => (e.connections.get? connection).bind (·.serviceAt i)

end Estate

/-- There is a handler at this place of the store. -/
def Holds (s : Session) (r : Ref Handler) : Prop := s.world.handlers.Holds r

/-- A handler is copied when it is cloned. -/
def Copies (s : Session) (r : Ref Handler) : Prop :=
  (s.world.handlers.get r).script.cloning = some .copy

/-- Every handler that is copied has one owner. -/
structure Sound (s : Session) : Prop where
  kept : ∀ {r}, s.estate.Keeps r → s.Holds r
  running : ∀ {p sv}, s.estate.serviceAt p = some sv → s.Holds sv.handler
  /-- No service runs a handler that is kept for others. -/
  apart : ∀ {r p sv}, s.estate.Keeps r → s.Copies r → s.estate.serviceAt p = some sv →
    sv.handler ≠ r
  /-- No two services run the same handler. -/
  own : ∀ {p q sv sv'}, s.estate.serviceAt p = some sv → s.estate.serviceAt q = some sv' →
    s.Copies sv.handler → sv.handler = sv'.handler → p = q

/-- What a session becomes while requests are served to these handlers. -/
structure Evolves (s s' : Session) (served : List (Ref Handler)) : Prop where
  sound : s'.Sound
  holds : ∀ {r}, s.Holds r → s'.Holds r
  standing : ∀ {r}, s.Holds r → (s'.world.handlers.get r).standing =
    ((s.world.handlers.get r).script, (s.world.handlers.get r).count + served.count r)
  /-- A new service does not run an old handler. -/
  fresh : ∀ {p sv}, s'.estate.serviceAt p = some sv → s'.Copies sv.handler →
    s.estate.serviceAt p = some sv ∨ ¬ s.Holds sv.handler
  /-- Only handlers that a service runs are served. -/
  served : ∀ {r}, r ∈ served → s.Holds r → s.Copies r →
    ∃ p sv, s.estate.serviceAt p = some sv ∧ sv.handler = r

namespace Evolves

variable {s s' s'' : Session} {served more : List (Ref Handler)} {r : Ref Handler}

theorem script (h : s.Evolves s' served) (hr : s.Holds r) :
    (s'.world.handlers.get r).script = (s.world.handlers.get r).script :=
  congrArg Prod.fst (h.standing hr)

theorem copies_iff (h : s.Evolves s' served) (hr : s.Holds r) : s'.Copies r ↔ s.Copies r := by
  rw [Copies, Copies, h.script hr]

/-- A handler that is not served stays as it is. -/
theorem standing_of_count (h : s.Evolves s' served) (hr : s.Holds r)
    (hcount : served.count r = 0) :
    (s'.world.handlers.get r).standing = (s.world.handlers.get r).standing := by
  rw [h.standing hr, hcount]
  simp [Handler.standing]

theorem refl (hs : s.Sound) : s.Evolves s [] where
  sound := hs
  holds := id
  standing _ := by simp [Handler.standing]
  fresh h _ := .inl h
  served h := absurd h List.not_mem_nil

theorem trans (h : s.Evolves s' served) (h' : s'.Evolves s'' more) :
    s.Evolves s'' (served ++ more) where
  sound := h'.sound
  holds hr := h'.holds (h.holds hr)
  standing {r} hr := by
    have h₁ := h.standing hr
    have hcount : (s'.world.handlers.get r).count = _ := congrArg Prod.snd h₁
    rw [h'.standing (h.holds hr), h.script hr, hcount, List.count_append]
    push_cast
    rw [Int.add_assoc]
  fresh {p sv} hsv hcopies := by
    rcases h'.fresh hsv hcopies with hsv' | hnew
    · exact h.fresh hsv' ((h'.copies_iff (h.sound.running hsv')).1 hcopies)
    · exact .inr fun hr => hnew (h.holds hr)
  served {r} hmem hr hcopies := by
    rcases List.mem_append.1 hmem with hmem | hmem
    · exact h.served hmem hr hcopies
    · have hcopies' := (h.copies_iff hr).2 hcopies
      obtain ⟨p, sv, hsv, rfl⟩ := h'.served hmem (h.holds hr) hcopies'
      rcases h.fresh hsv hcopies' with hsv' | hnew
      · exact ⟨p, sv, hsv', rfl⟩
      · exact absurd hr hnew

/-! ### New owners -/

section

variable (hworld : s.world.handlers.Keeps Handler.standing s'.world.handlers)
include hworld

theorem standing_of_keeps (hr : s.Holds r) : (s'.world.handlers.get r).standing =
    ((s.world.handlers.get r).script, (s.world.handlers.get r).count + [].count r) := by
  rw [hworld.same hr]
  simp [Handler.standing]

theorem copies_of_keeps (hr : s.Holds r) (h : s'.Copies r) : s.Copies r := by
  have hscript : (s'.world.handlers.get r).script = (s.world.handlers.get r).script :=
    Handler.script_eq (hworld.same hr)
  rwa [Copies, ← hscript]

/-- A session in which handlers are kept that were kept before or are new. -/
theorem of_keeps (hs : s.Sound)
    (hkept : ∀ {r}, s'.estate.Keeps r → s'.Holds r ∧ (s.estate.Keeps r ∨ ¬ s.Holds r))
    (hplaces : ∀ {p sv}, s'.estate.serviceAt p = some sv → s.estate.serviceAt p = some sv) :
    s.Evolves s' [] where
  sound :=
    { kept := fun h => (hkept h).1
      running := fun h => hworld.holds (hs.running (hplaces h))
      apart := by
        rintro r p sv hr hcopies hsv rfl
        have hold := hs.running (hplaces hsv)
        rcases (hkept hr).2 with hr' | hnew
        · exact hs.apart hr' (copies_of_keeps hworld hold hcopies) (hplaces hsv) rfl
        · exact hnew hold
      own := fun {p q sv sv'} h h' hcopies => by
        have hold := hs.running (hplaces h)
        exact hs.own (hplaces h) (hplaces h') (copies_of_keeps hworld hold hcopies) }
  holds hr := hworld.holds hr
  standing hr := standing_of_keeps hworld hr
  fresh h _ := .inl (hplaces h)
  served h := absurd h List.not_mem_nil

/-- A session in which services are new.  Those whose handler is copied have one that is new as
well, and each its own. -/
theorem of_runs (hs : s.Sound) {new : Place → RouteService → Prop}
    (hkept : ∀ {r}, s'.estate.Keeps r → s.estate.Keeps r)
    (hplaces : ∀ {p sv}, s'.estate.serviceAt p = some sv →
      s.estate.serviceAt p = some sv ∨ new p sv)
    (hnew : ∀ {p sv}, new p sv →
      s'.Holds sv.handler ∧ (s'.Copies sv.handler → ¬ s.Holds sv.handler))
    (hown : ∀ {p q sv sv'}, new p sv → new q sv' → s'.Copies sv.handler →
      sv.handler = sv'.handler → p = q) :
    s.Evolves s' [] where
  sound :=
    { kept := fun h => hworld.holds (hs.kept (hkept h))
      running := fun h => by
        rcases hplaces h with hold | hsv
        · exact hworld.holds (hs.running hold)
        · exact (hnew hsv).1
      apart := by
        rintro r p sv hr hcopies h rfl
        have hr' := hs.kept (hkept hr)
        rcases hplaces h with hold | hsv
        · exact hs.apart (hkept hr) (copies_of_keeps hworld hr' hcopies) hold rfl
        · exact (hnew hsv).2 hcopies hr'
      own := fun h h' hcopies heq => by
        -- Of two services with one handler, both are old or both are new.
        rcases hplaces h with hold | hsv <;> rcases hplaces h' with hold' | hsv'
        · exact hs.own hold hold' (copies_of_keeps hworld (hs.running hold) hcopies) heq
        · exact absurd (heq ▸ hs.running hold) ((hnew hsv').2 (heq ▸ hcopies))
        · exact absurd (heq ▸ hs.running hold') ((hnew hsv).2 hcopies)
        · exact hown hsv hsv' hcopies heq }
  holds hr := hworld.holds hr
  standing hr := standing_of_keeps hworld hr
  fresh h hcopies := (hplaces h).imp_right fun hsv => (hnew hsv).2 hcopies
  served h := absurd h List.not_mem_nil

end

end Evolves

/-- After a rest, an object may get a name if it mentions nothing new. -/
theorem Rests.evolves_naming {s s' s'' : Session} (h : s.Rests s') (hs : s.Sound)
    (hworld : s''.world = s'.world)
    (hplaces : ∀ {p sv}, s''.estate.serviceAt p = some sv → s'.estate.serviceAt p = some sv)
    (hkept : ∀ {r}, s''.estate.Keeps r → s'.estate.Keeps r) : s.Evolves s'' [] := by
  have hestate := h.estate
  have hhandlers : s.world.handlers.Keeps Handler.standing s''.world.handlers := by
    rw [hworld]
    exact h.handlers
  refine .of_keeps hhandlers hs (fun hr => ?_) fun hsv => hestate ▸ hplaces hsv
  have hr' := hestate ▸ hkept hr
  exact ⟨hhandlers.holds (hs.kept hr'), .inl hr'⟩

theorem Rests.evolves {s s' : Session} (h : s.Rests s') (hs : s.Sound) : s.Evolves s' [] :=
  h.evolves_naming hs rfl id id

theorem Sound.opened {s : Session} (hs : s.Sound) : s.opened.Sound :=
  ((rests_opened s).evolves hs).sound

end Session

end HttpDispatch
