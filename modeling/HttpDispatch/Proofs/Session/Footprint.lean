import HttpDispatch.Proofs.Session.Growth

/-!
# What a command may write

A command puts an object that mentions a handler into one slot at most, which its text names
(`Command.slot`), and leaves the other slots as they are (`Session.sameBut_step`).
-/

namespace HttpDispatch

namespace Session

/-- A name for an object that mentions a handler. -/
inductive Slot
  | handler (name : String)
  | route (name : String)
  | factory (name : String)
  | service (name : String)
  | app (name : String)
  | connection (name : String)

end Session

/-- The slot into which a command may put something. -/
def Command.slot : Command → Option Session.Slot
  | makeHandler name _ => some (.handler name)
  | finishRoute _ name _ | declareRoute name _ | extendRoute _ name _ => some (.route name)
  | createFactory _ name => some (.factory name)
  | activateFactory _ name _ => some (.service name)
  | makeApp name .. | mount name _ | setAppLogger name _ => some (.app name)
  | connect _ name _ => some (.connection name)
  | _ => none

namespace Session

variable {α β : Type} {slot : Option Slot}

/-- All slots but this one hold what they held. -/
structure Estate.SameBut (slot : Option Slot) (e e' : Estate) : Prop where
  handlers {name} : slot ≠ some (.handler name) → e'.handlers.get? name = e.handlers.get? name
  routes {name} : slot ≠ some (.route name) → e'.routes.get? name = e.routes.get? name
  factories {name} : slot ≠ some (.factory name) → e'.factories.get? name = e.factories.get? name
  services {name} : slot ≠ some (.service name) → e'.services.get? name = e.services.get? name
  apps {name} : slot ≠ some (.app name) → e'.apps.get? name = e.apps.get? name
  connections {name} : slot ≠ some (.connection name) →
    e'.connections.get? name = e.connections.get? name

namespace Estate.SameBut

variable {e e' e'' : Estate}

theorem refl (e : Estate) : SameBut slot e e :=
  ⟨fun _ => rfl, fun _ => rfl, fun _ => rfl, fun _ => rfl, fun _ => rfl, fun _ => rfl⟩

theorem trans (h : SameBut slot e e') (h' : SameBut slot e' e'') : SameBut slot e e'' where
  handlers hn := (h'.handlers hn).trans (h.handlers hn)
  routes hn := (h'.routes hn).trans (h.routes hn)
  factories hn := (h'.factories hn).trans (h.factories hn)
  services hn := (h'.services hn).trans (h.services hn)
  apps hn := (h'.apps hn).trans (h.apps hn)
  connections hn := (h'.connections hn).trans (h.connections hn)

end Estate.SameBut

/-- A part of a step that puts something into this slot only. -/
def WritesOnly (slot : Option Slot) (part : Step α) : Prop :=
  ∀ s : Session, s.estate.SameBut slot (exec part s).2.estate

theorem Resting.writesOnly {part : Step α} (h : Resting part) : WritesOnly slot part := by
  intro s
  rw [(h s).estate]
  exact .refl _

namespace WritesOnly

theorem run (program : Run α) : WritesOnly slot (Session.run program) := by
  intro s
  rw [exec_run]
  exact .refl _

theorem pure (a : α) : WritesOnly slot (Pure.pure a) := fun s => .refl s.estate

theorem bind {part : Step α} {f : α → Step β} (hp : WritesOnly slot part)
    (hf : ∀ a, WritesOnly slot (f a)) : WritesOnly slot (part >>= f) := fun s =>
  exec_bind_along (R := fun s s' => s.estate.SameBut slot s'.estate) .trans (hp s)
    fun a s₁ _ => hf a s₁

theorem find (names : Session → Dict α) (name : String) :
    WritesOnly slot (Session.find names name) := (Resting.find names name).writesOnly

theorem findOptional (names : Session → Dict α) (name : Option String) :
    WritesOnly slot (Session.findOptional names name) := (Resting.findOptional names name).writesOnly

/-! ### Names -/

section Names

variable {name other : String} {wrap : String → Slot}

/-- The entries of a dictionary, but for the one that is set. -/
theorem get?_set (d : Dict α) (a : α) (h : some (wrap name) ≠ some (wrap other)) :
    (d.set name a).get? other = d.get? other := by
  refine Dict.get?_set_ne d ?_ a
  rintro rfl
  exact h rfl

variable (name)

theorem nameHandler (r : Ref Handler) :
    WritesOnly (some (.handler name)) (Session.nameHandler name r) := fun s =>
  ⟨get?_set s.handlers r, fun _ => rfl, fun _ => rfl, fun _ => rfl, fun _ => rfl, fun _ => rfl⟩

theorem nameRoute (route : Route) :
    WritesOnly (some (.route name)) (Session.nameRoute name route) := fun s =>
  ⟨fun _ => rfl, get?_set s.routes route, fun _ => rfl, fun _ => rfl, fun _ => rfl, fun _ => rfl⟩

theorem nameFactory (f : RouteFactory) :
    WritesOnly (some (.factory name)) (Session.nameFactory name f) := fun s =>
  ⟨fun _ => rfl, fun _ => rfl, get?_set s.factories f, fun _ => rfl, fun _ => rfl, fun _ => rfl⟩

theorem nameService (sv : RouteService) :
    WritesOnly (some (.service name)) (Session.nameService name sv) := fun s =>
  ⟨fun _ => rfl, fun _ => rfl, fun _ => rfl, get?_set s.services sv, fun _ => rfl, fun _ => rfl⟩

theorem nameApp (app : App) : WritesOnly (some (.app name)) (Session.nameApp name app) := fun s =>
  ⟨fun _ => rfl, fun _ => rfl, fun _ => rfl, fun _ => rfl, get?_set s.apps app, fun _ => rfl⟩

theorem nameConnection (c : Connection) :
    WritesOnly (some (.connection name)) (Session.nameConnection name c) := fun s =>
  ⟨fun _ => rfl, fun _ => rfl, fun _ => rfl, fun _ => rfl, fun _ => rfl, get?_set s.connections c⟩

theorem mountOn (source : RouteSource) :
    WritesOnly (some (.app name)) (Session.mountOn name source) :=
  (find _ name).bind fun _ => (resting_mountable source).writesOnly.bind fun _ =>
    (run _).bind fun _ => nameApp name _

theorem mountAll (sources : List RouteSource) :
    WritesOnly (some (.app name)) (sources.forM (Session.mountOn name)) := by
  induction sources with
  | nil => exact .pure ()
  | cons source rest ih => exact (mountOn name source).bind fun _ => ih

end Names

end WritesOnly

/-! ### Commands -/

/-- A command writes its own slot only. -/
theorem writesOnly_perform (c : Command) : WritesOnly c.slot (perform c) := by
  by_cases hidle : c.Idle
  · exact (resting_perform hidle).writesOnly
  · cases c with
    | makeHandler name script =>
      exact (WritesOnly.run _).bind fun _ => (WritesOnly.nameHandler name _).bind fun _ => .pure _
    | finishRoute builder name source =>
      exact (WritesOnly.find _ builder).bind fun _ =>
        (resting_handler source).writesOnly.bind fun _ =>
          (WritesOnly.nameRoute name _).bind fun _ => .pure _
    | declareRoute name d =>
      exact (resting_declare d).writesOnly.bind fun _ =>
        (WritesOnly.nameRoute name _).bind fun _ => .pure _
    | extendRoute route name token =>
      exact (WritesOnly.find _ route).bind fun _ =>
        (WritesOnly.nameRoute name _).bind fun _ => .pure _
    | createFactory route name =>
      exact (WritesOnly.find _ route).bind fun _ => (WritesOnly.run _).bind fun _ =>
        (WritesOnly.nameFactory name _).bind fun _ => .pure _
    | activateFactory factory name logger =>
      exact (WritesOnly.find _ factory).bind fun _ =>
        (WritesOnly.findOptional _ logger).bind fun _ => (WritesOnly.run _).bind fun _ =>
          (WritesOnly.nameService name _).bind fun _ => .pure _
    | callService name init =>
      exact (WritesOnly.find _ name).bind fun _ => (WritesOnly.run _).bind fun _ =>
        (WritesOnly.run _).bind fun _ => .pure _
    | makeApp name state logger sources =>
      exact (WritesOnly.findOptional _ logger).bind fun _ => (WritesOnly.run _).bind fun _ =>
        (WritesOnly.nameApp name _).bind fun _ => (WritesOnly.mountAll name sources).bind fun _ =>
          (WritesOnly.find _ name).bind fun _ => .pure _
    | mount name source =>
      exact (WritesOnly.mountOn name source).bind fun _ =>
        (WritesOnly.find _ name).bind fun _ => .pure _
    | setAppLogger name logger =>
      exact (WritesOnly.find _ logger).bind fun _ => (WritesOnly.find _ name).bind fun _ =>
        (WritesOnly.nameApp name _).bind fun _ => .pure _
    | connect app name logger =>
      exact (WritesOnly.find _ app).bind fun _ =>
        (WritesOnly.findOptional _ logger).bind fun _ => (WritesOnly.run _).bind fun _ =>
          (WritesOnly.nameConnection name _).bind fun _ => .pure _
    | call name init io =>
      exact (WritesOnly.find _ name).bind fun _ => (WritesOnly.run _).bind fun _ => .pure _
    | _ => exact absurd trivial hidle

theorem sameBut_step (s : Session) (c : Command) :
    s.estate.SameBut c.slot (s.step c).2.estate := writesOnly_perform c s.opened

end Session

end HttpDispatch
