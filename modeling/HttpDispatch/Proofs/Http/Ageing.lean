import HttpDispatch.Proofs.Http.Sending

/-!
# Transports are not reopened

Whatever is done to a transport, it is not reopened: once ended it stays ended, and once destroyed
it stays destroyed (`Transport.Ages`).  This holds of each of the things that can be done to one,
so it holds of what a handler does, action by action (`Stage.ages_perform`).

What a response meets on a transport depends on how the transport stands.  A closed one is left as
it is.  An open one takes the whole response, unless it fails on the writing; it may still fail on
the ending after that, and then the response has been passed on all the same.
-/

namespace HttpDispatch

namespace Transport

/-- The second transport may be the first one at a later time. -/
structure Ages (t t' : Transport) : Prop where
  ended : t.ended = true → t'.ended = true
  destroyed : t.destroyed = true → t'.destroyed = true

namespace Ages

variable {t t' t'' : Transport}

theorem refl (t : Transport) : t.Ages t := ⟨id, id⟩

theorem trans (h : t.Ages t') (h' : t'.Ages t'') : t.Ages t'' :=
  ⟨fun he => h'.ended (h.ended he), fun hd => h'.destroyed (h.destroyed hd)⟩

end Ages

variable {t : Transport}

theorem ages_write (t : Transport) (text : String) : t.Ages (t.write text) := by
  rw [write]
  split
  · split <;> exact ⟨id, id⟩
  · exact .refl t

theorem ages_finish (t : Transport) : t.Ages t.finish := by
  rw [finish]
  split
  · split
    · exact ⟨fun _ => rfl, fun _ => rfl⟩
    · exact ⟨fun _ => rfl, id⟩
  · exact .refl t

theorem ages_destroy (t : Transport) : t.Ages t.destroy := by
  rw [destroy]
  split
  · exact .refl t
  · exact ⟨id, fun _ => rfl⟩

theorem ages_settle (t : Transport) : t.Ages t.settle :=
  ⟨id, fun hd => by rw [settle, hd, Bool.true_or]⟩

theorem ages_closing (t : Transport) (text : String) : t.Ages (t.closing text) :=
  (t.ages_write text).trans (t.write text).ages_finish

end Transport

namespace Stage

/-- The transports of the second stage may be those of the first at a later time. -/
def Ages (s s' : Stage) : Prop := ∀ io, (s.transport io).Ages (s'.transport io)

namespace Ages

variable {s s' s'' : Stage}

theorem refl (s : Stage) : s.Ages s := fun _ => .refl _

theorem trans (h : s.Ages s') (h' : s'.Ages s'') : s.Ages s'' := fun io => (h io).trans (h' io)

/-- What is done to one transport leaves the others alone. -/
theorem onTransport {f : Transport → Transport} (hf : ∀ t : Transport, t.Ages (f t)) (s : Stage)
    (io : String) : s.Ages (s.onTransport io f) := by
  intro other
  by_cases h : other = io
  · rw [h, transport_onTransport]
    exact hf _
  · have hsame : (s.onTransport io f).transport other = s.transport other := by
      rw [transport, Stage.onTransport, Dict.get?_set_ne _ h]
      rfl
    rw [hsame]
    exact .refl _

end Ages

theorem ages_act {req : Request} {s s' : Stage} {a : Action} (h : s.act req a = .ok s') :
    s.Ages s' := by
  cases a with
  | write text =>
    cases h
    exact .onTransport (fun t => t.ages_write text) s req.io
  | finish text =>
    cases h
    exact .onTransport (fun t => t.ages_closing text) s req.io
  | destroy =>
    cases h
    exact .onTransport (fun t => t.ages_destroy) s req.io
  | bump key =>
    rw [act] at h
    cases hbump : (s.states.get req.state).bump key with
    | ok state =>
      rw [hbump] at h
      cases h
      exact fun _ => .refl _
    | error e =>
      rw [hbump] at h
      cases h

/-- The actions of a handler reopen no transport. -/
theorem ages_perform (req : Request) (actions : List Action) (s : Stage) :
    s.Ages (s.perform req actions).2 := by
  induction actions generalizing s with
  | nil => exact .refl s
  | cons a rest ih =>
    rw [perform]
    cases ha : s.act req a with
    | ok s' => exact (ages_act ha).trans (ih s')
    | error v => exact .refl s

end Stage

/-! ### A response on a transport -/

namespace Transport

/-- The transport fails as soon as a text is written to it. -/
def FailsWriting (t : Transport) (text : String) : Prop := (t.write text).failure.isSome = true

/-- The transport takes a text and fails when it is ended after that. -/
def FailsEnding (t : Transport) (text : String) : Prop :=
  (t.write text).failure = none ∧ (t.closing text).failure.isSome = true

variable {t : Transport} {text : String}

theorem closed_eq_true : t.closed = true ↔ t.destroyed = true ∨ t.ended = true := by
  rw [closed, Bool.or_eq_true]

@[simp] theorem closed_write (t : Transport) (text : String) : (t.write text).closed = t.closed := by
  rw [write]
  split
  · split <;> rfl
  · rfl

theorem responsive_eq_true :
    t.responsive = true ↔ t.closed = false ∧ t.failure = none := by
  rw [responsive, Bool.and_eq_true, Bool.not_eq_true', Option.isNone_iff_eq_none]

/-- A transport that has failed on the writing is not ended after that. -/
theorem closing_of_failsWriting (h : t.FailsWriting text) : t.closing text = t.write text := by
  have hnot : ¬ (t.write text).responsive = true := by
    intro hresponsive
    rw [FailsWriting, (responsive_eq_true.1 hresponsive).2] at h
    nomatch h
  rw [closing, finish, if_neg hnot]

/-- An open transport accepts a text unless it fails on the writing. -/
theorem accepts_iff : t.Accepts ↔ t.closed = false ∧ ¬ t.FailsWriting text := by
  constructor
  · intro h
    refine ⟨(responsive_eq_true.1 h.responsive).1, ?_⟩
    obtain ⟨kind, output, waiting, ended, destroyed, failure⟩ := t
    obtain rfl : failure = none := (responsive_eq_true.1 h.responsive).2
    rw [FailsWriting, write, if_pos h.responsive]
    cases kind with
    | failsWrite message => exact absurd rfl (h.kind message)
    | direct | slow | failsEnd => cases waiting <;> simp
  · rintro ⟨hopen, hwriting⟩
    obtain ⟨kind, output, waiting, ended, destroyed, failure⟩ := t
    have hresponsive : failure = none := by
      cases failure with
      | none => rfl
      | some message =>
        refine absurd ?_ hwriting
        rw [FailsWriting, write, if_neg (by simp [responsive])]
        rfl
    subst hresponsive
    refine ⟨responsive_eq_true.2 ⟨hopen, rfl⟩, ?_⟩
    rintro message rfl
    refine hwriting ?_
    rw [FailsWriting, write, if_pos (responsive_eq_true.2 ⟨hopen, rfl⟩)]
    rfl

/-- A transport that accepts a text is ended by the ending after it. -/
theorem ended_closing (h : t.Accepts) (text : String) : (t.closing text).ended = true := by
  obtain ⟨hopen, hwriting⟩ := accepts_iff.1 h
  have hresponsive : (t.write text).responsive = true := by
    rw [responsive_eq_true, closed_write]
    exact ⟨hopen, Option.not_isSome_iff_eq_none.1 hwriting⟩
  rw [closing, finish, if_pos hresponsive]
  split <;> rfl

/-- A transport that fails on the writing of a text passes nothing of it on. -/
theorem written_write_of_failsWriting (h : t.FailsWriting text) :
    (t.write text).written = t.written := by
  rw [FailsWriting] at h
  rw [write] at h ⊢
  split at h
  · next hresponsive =>
    rw [if_pos hresponsive]
    have hnone := (responsive_eq_true.1 hresponsive).2
    split at h
    · rfl
    all_goals exact absurd h (by simp [hnone])
  · next hnot => rw [if_neg hnot]

end Transport

end HttpDispatch
