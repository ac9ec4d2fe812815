import HttpDispatch.Proofs.World.Frame
import HttpDispatch.Session

/-!
# How a session runs

A step carries out a command and keeps what the command answers.  The parts of a command are put
together like programs, and `exec` says what each of them comes to.

Most parts have nothing to do with handlers: they leave the named objects alone that mention one,
and change no handler.  During such a part a session is said to rest.
-/

namespace HttpDispatch

namespace Session

variable {α β : Type}

/-- What a part of a step comes to in a session: its answer or why it stops, and the session after
it. -/
def exec (part : Step α) (s : Session) : Except Stop α × Session :=
  Id.run (StateT.run (ExceptT.run part) s)

@[simp] theorem exec_pure (a : α) (s : Session) : exec (pure a) s = (.ok a, s) := rfl

theorem exec_bind (part : Step α) (f : α → Step β) (s : Session) :
    exec (part >>= f) s =
      match exec part s with
      | (.ok a, s') => exec (f a) s'
      | (.error stop, s') => (.error stop, s') := by
  show Id.run (StateT.run (ExceptT.run (ExceptT.bind part f)) s) = _
  simp only [ExceptT.run, ExceptT.bind, ExceptT.mk, ExceptT.bindCont, StateT.run_bind, exec]
  generalize StateT.run part s = outcome
  match outcome with
  | (.ok a, s') => rfl
  | (.error stop, s') => rfl

theorem exec_bind_ok {part : Step α} {f : α → Step β} {s s' : Session} {a : α}
    (h : exec part s = (.ok a, s')) : exec (part >>= f) s = exec (f a) s' := by
  rw [exec_bind, h]

theorem exec_bind_error {part : Step α} {f : α → Step β} {s s' : Session} {stop : Stop}
    (h : exec part s = (.error stop, s')) : exec (part >>= f) s = (.error stop, s') := by
  rw [exec_bind, h]

theorem exec_bind_eq_ok {part : Step α} {f : α → Step β} {s s' : Session} {b : β} :
    exec (part >>= f) s = (.ok b, s') ↔
      ∃ a s₁, exec part s = (.ok a, s₁) ∧ exec (f a) s₁ = (.ok b, s') := by
  rw [exec_bind]
  cases hp : exec part s with
  | mk result s₁ =>
    cases result with
    | ok a =>
      constructor
      · exact fun h => ⟨a, s₁, rfl, h⟩
      · rintro ⟨_, _, ⟨⟩, h⟩
        exact h
    | error stop =>
      constructor
      · nofun
      · rintro ⟨_, _, ⟨⟩, _⟩

/-- A transitive relation that holds across each of two parts of a step holds across both of them,
and also where the first one stops.  The second part may rely on what the first one has left. -/
theorem exec_bind_along {R : Session → Session → Prop} {part : Step α} {f : α → Step β}
    {s₀ s : Session} (trans : ∀ {s₁ s₂ s₃}, R s₁ s₂ → R s₂ s₃ → R s₁ s₃)
    (hp : R s₀ (exec part s).2) (hf : ∀ a s₁, R s₀ s₁ → R s₁ (exec (f a) s₁).2) :
    R s₀ (exec (part >>= f) s).2 := by
  rw [exec_bind]
  cases hs : exec part s with
  | mk result s₁ =>
    rw [hs] at hp
    cases result with
    | ok a => exact trans hp (hf a s₁ hp)
    | error stop => exact hp

/-- What comes after a part of a step may leave the session as it is. -/
theorem exec_bind_snd {part : Step α} {f : α → Step β} (hf : ∀ a s, (exec (f a) s).2 = s)
    (s : Session) : (exec (part >>= f) s).2 = (exec part s).2 := by
  rw [exec_bind]
  cases exec part s with
  | mk result s' =>
    cases result with
    | ok a => exact hf a s'
    | error stop => rfl

/-- The session in another world. -/
def inWorld (s : Session) (w : World) : Session := { s with world := w }

theorem exec_run (program : Run α) (s : Session) :
    exec (run program) s =
      (match (program.exec s.world).1 with
        | .ok a => .ok a
        | .error v => .error (.raised v),
        s.inWorld (program.exec s.world).2) := by
  show exec (get >>= _) s = _
  rw [exec_bind_ok (show exec get s = (.ok s, s) from rfl)]
  cases program.exec s.world with
  | mk result w =>
    cases result with
    | ok a => rfl
    | error v => rfl

theorem exec_run_eq_ok {program : Run α} {s s' : Session} {a : α} :
    exec (run program) s = (.ok a, s') ↔
      ∃ w, program.exec s.world = (.ok a, w) ∧ s' = s.inWorld w := by
  rw [exec_run]
  cases program.exec s.world with
  | mk result w =>
    cases result with
    | ok b =>
      constructor
      · rintro ⟨⟩
        exact ⟨w, rfl, rfl⟩
      · rintro ⟨_, ⟨⟩, rfl⟩
        rfl
    | error v => simp

theorem exec_find (names : Session → Dict α) (name : String) (s : Session) :
    exec (find names name) s =
      (match (names s).get? name with
        | some a => .ok a
        | none => .error (.unknown name), s) := by
  rw [find, exec_bind_ok (show exec get s = (.ok s, s) from rfl)]
  cases (names s).get? name with
  | some a => rfl
  | none => rfl

theorem exec_find_eq_ok {names : Session → Dict α} {name : String} {s s' : Session} {a : α} :
    exec (find names name) s = (.ok a, s') ↔ (names s).get? name = some a ∧ s' = s := by
  rw [exec_find]
  cases (names s).get? name with
  | some b => simp [eq_comm]
  | none => simp

theorem exec_find_unknown {names : Session → Dict α} {name : String} {s : Session}
    (h : (names s).get? name = none) :
    exec (find names name) s = (.error (.unknown name), s) := by
  rw [exec_find, h]

theorem exec_findOptional_snd (names : Session → Dict α) (name : Option String) (s : Session) :
    (exec (findOptional names name) s).2 = s := by
  cases name with
  | none => rfl
  | some n =>
    rw [findOptional, exec_bind_snd fun _ _ => rfl, exec_find]

theorem exec_findOptional_eq_ok {names : Session → Dict α} {name : Option String}
    {s s' : Session} {found : Option α} (h : exec (findOptional names name) s = (.ok found, s')) :
    found = name.bind (names s).get? ∧ s' = s := by
  have hs := exec_findOptional_snd names name s
  rw [h] at hs
  refine ⟨?_, hs⟩
  cases name with
  | none =>
    cases h
    rfl
  | some n =>
    obtain ⟨a, s₁, ha, h⟩ := exec_bind_eq_ok.1 h
    cases h
    exact (exec_find_eq_ok.1 ha).1.symm

/-- The session at the start of a step, of which nothing has been seen yet. -/
def opened (s : Session) : Session := s.inWorld { s.world with timeline := [] }

theorem step_snd (s : Session) (c : Command) : (s.step c).2 = (exec (perform c) s.opened).2 := rfl

/-- The session after some steps. -/
def after (s : Session) (cs : List Command) : Session := (s.steps cs).2

@[simp] theorem after_nil (s : Session) : s.after [] = s := rfl

@[simp] theorem after_cons (s : Session) (c : Command) (cs : List Command) :
    s.after (c :: cs) = (s.step c).2.after cs := rfl

theorem after_append (s : Session) (cs ds : List Command) :
    s.after (cs ++ ds) = (s.after cs).after ds := by
  induction cs generalizing s with
  | nil => rfl
  | cons c rest ih => exact ih (s.step c).2

/-! ### Rest -/

/-- The names of the objects that mention handlers. -/
structure Estate where
  handlers : Dict (Ref Handler)
  routes : Dict Route
  factories : Dict RouteFactory
  services : Dict RouteService
  apps : Dict App
  connections : Dict Connection

/-- The objects of a session that mention handlers. -/
def estate (s : Session) : Estate :=
  ⟨s.handlers, s.routes, s.factories, s.services, s.apps, s.connections⟩

/-- Between two sessions, objects mention the handlers that they mentioned, and those are as they
were. -/
structure Rests (s s' : Session) : Prop where
  estate : s'.estate = s.estate
  handlers : s.world.handlers.Keeps Handler.standing s'.world.handlers

theorem Rests.refl (s : Session) : s.Rests s := ⟨rfl, .refl _⟩

theorem Rests.trans {s s' s'' : Session} (h : s.Rests s') (h' : s'.Rests s'') : s.Rests s'' :=
  ⟨h'.estate.trans h.estate, h.handlers.trans h'.handlers⟩

theorem rests_opened (s : Session) : s.Rests s.opened := ⟨rfl, .refl _⟩

/-- A part of a step during which a session rests. -/
def Resting (part : Step α) : Prop := ∀ s : Session, s.Rests (exec part s).2

namespace Resting

theorem pure (a : α) : Resting (Pure.pure a) := fun s => .refl s

theorem get : Resting (MonadState.get : Step Session) := fun s => .refl s

theorem bind {part : Step α} {f : α → Step β} (hp : Resting part) (hf : ∀ a, Resting (f a)) :
    Resting (part >>= f) := fun s => exec_bind_along Rests.trans (hp s) fun a s₁ _ => hf a s₁

theorem run {program : Run α} (h : program.KeepsHandlers) : Resting (run program) := by
  intro s
  rw [exec_run]
  exact ⟨rfl, h s.world⟩

theorem find (names : Session → Dict α) (name : String) : Resting (find names name) := by
  intro s
  rw [exec_find]
  exact .refl s

theorem findOptional (names : Session → Dict α) (name : Option String) :
    Resting (findOptional names name) := by
  cases name with
  | none => exact .pure _
  | some n => exact (find names n).bind fun _ => .pure _

theorem forM {part : String → Step Unit} (h : ∀ name, Resting (part name))
    (name : Option String) : Resting (name.forM part) := by
  cases name with
  | none => exact .pure _
  | some n => exact h n

end Resting

end Session

end HttpDispatch
