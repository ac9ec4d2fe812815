import HttpDispatch.Proofs.Session.Connecting

/-!
# Factories that throw

A foreign factory fails in one of two ways: its promise of a service is rejected, or it throws
before it promises anything.  A row of activations goes on after a promise that is rejected, and
the connection fails with an error that tells the value with the pattern (`connect_rejected`).  A
factory that throws ends the row: those behind it are never activated, and the connection fails with
the value itself (`connect_raised`).

Both are stated of an application in which every other factory keeps its promise, so that this one
factory is why the connection fails.  The two runs are the same up to its activation.

Main statement: `connect_failing`.
-/

namespace HttpDispatch

open Run

/-- An error of this library is never what caused it. -/
theorem Value.fault_ne_cause (r : Report) (v : Value) : Value.fault r v ≠ v := by
  intro h
  have hsize := congrArg sizeOf h
  simp at hsize

/-- A factory whose activation came to a result makes a promise. -/
theorem MountedFactory.promises_of_exec {m : MountedFactory} {logger : Ref Logger} {w w' : World}
    {result : Except Value Service} (h : exec (m.factory.activate logger) w = (.ok result, w')) :
    m.Promises := by
  intro r hr v hfailure
  have hemit : exec (emit (.activated r.path (some logger))) w =
      (.ok (), w.observing [.event (.activated r.path (some logger))]) := rfl
  rw [hr, Factory.activate, exec_bind_ok hemit, hfailure] at h
  cases h

namespace Activations

variable {logger : Ref Logger} {w w₁ w₂ : World} {ms ms' : List MountedFactory}
  {results results' : List (Except Value Service)}

theorem promises (h : Activations logger w ms results w₁) : ∀ m ∈ ms, m.Promises := by
  induction h with
  | nil => nofun
  | cons hfirst _ ih => exact List.forall_mem_cons.2 ⟨MountedFactory.promises_of_exec hfirst, ih⟩

theorem append (h : Activations logger w ms results w₁)
    (h' : Activations logger w₁ ms' results' w₂) :
    Activations logger w (ms ++ ms') (results ++ results') w₂ := by
  induction h with
  | nil => exact h'
  | cons hfirst _ ih => exact .cons hfirst (ih h')

theorem exec_activateAll (h : Activations logger w ms results w₁) :
    exec (App.activateAll logger ms) w = (.ok ((ms.map (·.pattern)).zip results), w₁) := by
  induction h with
  | nil => rfl
  | cons hfirst _ ih => exact App.activateAll_cons_eq_ok.2 ⟨_, _, _, hfirst, ih, rfl⟩

/-- A factory that throws ends the row, whatever stands behind it. -/
theorem exec_activateAll_raised {m : MountedFactory} {v : Value}
    (h : Activations logger w ms results w₁)
    (hm : exec (m.factory.activate logger) w₁ = (.error v, w₂)) (after : List MountedFactory) :
    exec (App.activateAll logger (ms ++ m :: after)) w = (.error v, w₂) := by
  induction h with
  | nil => exact exec_bind_error hm
  | cons hfirst _ ih =>
    rw [List.cons_append, App.activateAll, exec_bind_ok hfirst]
    exact exec_bind_error (ih hm)

end Activations

/-- A foreign factory under a pattern that fails in this way when it is activated. -/
def MountedFactory.failing (pattern : Pattern) (r : ForeignRoute) (failure : ActivationFailure) :
    MountedFactory :=
  ⟨pattern, .foreign { r with activationFailure := some failure }⟩

namespace App

/-- An application that has this factory between those before and those behind it. -/
def around (app : App) (before after : List MountedFactory) (m : MountedFactory) : App :=
  { app with routes := before ++ m :: after }

/-- The services before a failed activation do not hide it, and what is behind it does not count. -/
theorem collect_zip_append_error {patterns patterns' : List Pattern} {services : List Service}
    (h : services.length = patterns.length) (pattern : Pattern) (v : Value)
    (results : List (Except Value Service)) :
    collect ((patterns ++ pattern :: patterns').zip (services.map .ok ++ .error v :: results)) =
      .error (activationFault pattern v) := by
  induction services generalizing patterns with
  | nil =>
    obtain rfl := List.length_eq_zero_iff.1 h.symm
    rfl
  | cons s rest ih =>
    obtain ⟨p, more, rfl⟩ := List.exists_cons_of_length_eq_add_one h.symm
    have hrest := ih (Nat.succ.inj h)
    rw [List.cons_append, List.map_cons, List.cons_append, List.zip_cons_cons, collect, hrest]
    rfl

section Failing

variable {app : App} {given : Option (Ref Logger)} {before after : List MountedFactory}
  {pattern : Pattern} {r : ForeignRoute} {v : Value} {services services' : List Service}
  {w w₁ w₂ : World}

theorem activations_rejected (pattern : Pattern) (v : Value) {logger : Ref Logger}
    (hbefore : Activations logger w before (services.map .ok) w₁)
    (hafter : Activations logger (w₁.observing [.event (.activated r.path (some logger))]) after
      (services'.map .ok) w₂) :
    Activations logger w (before ++ .failing pattern r (.rejected v) :: after)
      (services.map .ok ++ .error v :: services'.map .ok) w₂ :=
  hbefore.append (.cons rfl hafter)

theorem connect_rejected
    (hbefore : Activations (given.getD app.logger) w before (services.map .ok) w₁)
    (hafter : Activations (given.getD app.logger)
      (w₁.observing [.event (.activated r.path (some (given.getD app.logger)))]) after
      (services'.map .ok) w₂) :
    exec ((app.around before after (.failing pattern r (.rejected v))).connect given) w =
      (.error (activationFault pattern v).toValue, w₂) := by
  have hlength : services.length = (before.map (·.pattern)).length := by
    have hrow := hbefore.length_eq
    rwa [List.length_map] at hrow ⊢
  rw [exec_connect (activations_rejected pattern v hbefore hafter).exec_activateAll]
  simp only [around, List.map_append, List.map_cons]
  rw [MountedFactory.failing, collect_zip_append_error hlength]

theorem connect_raised
    (hbefore : Activations (given.getD app.logger) w before (services.map .ok) w₁) :
    exec ((app.around before after (.failing pattern r (.raised v))).connect given) w =
      (.error v, w₁.observing [.event (.activated r.path (some (given.getD app.logger)))]) :=
  exec_bind_error (hbefore.exec_activateAll_raised rfl after)

/-- **A factory that throws is not treated like one whose promise is rejected.**  Let every factory
of an application keep its promise, but for a foreign one at any place, which fails with any value.

If its promise is rejected, all factories are activated nevertheless, each once and in order, and
then the connection fails with an error that names the pattern of the failing factory and has the
value as its cause.  If it throws, the factories before it and it itself are activated and no other,
and the connection fails with the value as it is.  These two failures are never the same. -/
theorem connect_failing (app : App) (given : Option (Ref Logger)) (pattern : Pattern)
    (r : ForeignRoute) (v : Value)
    (hbefore : Activations (given.getD app.logger) w before (services.map .ok) w₁)
    (hafter : Activations (given.getD app.logger)
      (w₁.observing [.event (.activated r.path (some (given.getD app.logger)))]) after
      (services'.map .ok) w₂) :
    let logger := given.getD app.logger
    let connecting (failure : ActivationFailure) :=
      exec ((app.around before after (.failing pattern r failure)).connect given) w
    let seen (ms : List MountedFactory) := ms.filterMap (·.seenActivating logger)
    (∃ e report, connecting (.rejected v) = (.error e, w₂) ∧ e.TellsActivation pattern v report) ∧
      Activations logger w (before ++ .failing pattern r (.rejected v) :: after)
        (services.map .ok ++ .error v :: services'.map .ok) w₂ ∧
      w.Yields Observation.activation? w₂ (seen before ++ (r.path, some logger) :: seen after) ∧
      connecting (.raised v) =
        (.error v, w₁.observing [.event (.activated r.path (some logger))]) ∧
      w.Yields Observation.activation? (connecting (.raised v)).2
        (seen before ++ [(r.path, some logger)]) ∧
      (connecting (.raised v)).1 ≠ (connecting (.rejected v)).1 := by
  intro logger connecting seen
  have hrejected : connecting (.rejected v) = _ := connect_rejected hbefore hafter
  have hraised : connecting (.raised v) = _ := connect_raised hbefore
  have hrow := activations_rejected pattern v hbefore hafter
  have hall := hrow.yields hrow.promises
  rw [List.filterMap_append, List.filterMap_cons] at hall
  have hthrowing : w₁.Yields Observation.activation?
      (w₁.observing [.event (.activated r.path (some logger))]) [(r.path, some logger)] :=
    ⟨_, rfl, rfl⟩
  have hfew := (hbefore.yields hbefore.promises).trans hthrowing
  rw [hrejected, hraised]
  refine ⟨⟨_, _, rfl, tellsActivation pattern v⟩, hrow, hall, rfl, hfew, ?_⟩
  intro h
  exact Value.fault_ne_cause _ v (Except.error.inj h).symm

end Failing

/-- A foreign route that keeps its promise and answers every request. -/
def obliging (path : String) : ForeignRoute :=
  ⟨path, [], none, none, .ready, none, .returned .undefined⟩

/-- A row of one foreign factory that keeps its promise. -/
theorem activations_obliging (logger : Ref Logger) (path : String) (w : World) :
    Activations logger w [⟨⟨path⟩, .foreign (obliging path)⟩]
      ([.foreign (obliging path)].map .ok) (w.observing [.event (.activated path (some logger))]) :=
  .cons rfl (.nil _)

/-- The second of three factories fails, and the third is activated only if that one does not
throw. -/
theorem connect_failing_second :
    let w := World.initial 0 [] ∅
    let row (path : String) : List MountedFactory := [⟨⟨path⟩, .foreign (obliging path)⟩]
    let app : App := ⟨[], ⟨0⟩, ⟨0⟩⟩
    let connecting (failure : ActivationFailure) := exec ((app.around (row "/a") (row "/c")
      (.failing ⟨"/b"⟩ (obliging "/b") failure)).connect (some ⟨7⟩)) w
    (∃ w₁ w₂, Activations ⟨7⟩ w (row "/a") ([.foreign (obliging "/a")].map .ok) w₁ ∧
        Activations ⟨7⟩ (w₁.observing [.event (.activated "/b" (some ⟨7⟩))]) (row "/c")
          ([.foreign (obliging "/c")].map .ok) w₂) ∧
      (∃ e report, (connecting (.rejected (.text "no"))).1 = .error e ∧
        e.TellsActivation ⟨"/b"⟩ (.text "no") report) ∧
      w.Yields Observation.activation? (connecting (.rejected (.text "no"))).2
        [("/a", some ⟨7⟩), ("/b", some ⟨7⟩), ("/c", some ⟨7⟩)] ∧
      (connecting (.raised (.text "no"))).1 = .error (.text "no") ∧
      w.Yields Observation.activation? (connecting (.raised (.text "no"))).2
        [("/a", some ⟨7⟩), ("/b", some ⟨7⟩)] := by
  intro w row app connecting
  have hbefore := activations_obliging ⟨7⟩ "/a" w
  have hafter := activations_obliging ⟨7⟩ "/c"
    ((w.observing [.event (.activated "/a" (some ⟨7⟩))]).observing
      [.event (.activated "/b" (some ⟨7⟩))])
  obtain ⟨⟨e, report, hrejected, htells⟩, -, hall, hraised, hfew, -⟩ :=
    connect_failing app (some ⟨7⟩) ⟨"/b"⟩ (obliging "/b") (.text "no") hbefore hafter
  refine ⟨⟨_, _, hbefore, hafter⟩, ⟨e, report, ?_, htells⟩, ?_, ?_, hfew⟩
  · exact congrArg Prod.fst hrejected
  · exact (congrArg Prod.snd hrejected).symm ▸ hall
  · exact congrArg Prod.fst hraised

/-- With the same factories around it and the same value, one that throws and one whose promise is
rejected should be treated alike. -/
theorem connect_not_alike :
    ¬ ∀ (app : App) (given : Option (Ref Logger)) (before after : List MountedFactory)
        (pattern : Pattern) (r : ForeignRoute) (v : Value) (services services' : List Service)
        (w w₁ w₂ : World),
      Activations (given.getD app.logger) w before (services.map .ok) w₁ →
      Activations (given.getD app.logger)
        (w₁.observing [.event (.activated r.path (some (given.getD app.logger)))]) after
        (services'.map .ok) w₂ →
      exec ((app.around before after (.failing pattern r (.raised v))).connect given) w =
        exec ((app.around before after (.failing pattern r (.rejected v))).connect given) w := by
  intro h
  have hsame := h ⟨[], ⟨0⟩, ⟨0⟩⟩ none [] [] ⟨"/b"⟩ (obliging "/b") .null [] [] (.initial 0 [] ∅) _ _
    (.nil _) (.nil _)
  cases congrArg Prod.fst hsame

end App

end HttpDispatch
