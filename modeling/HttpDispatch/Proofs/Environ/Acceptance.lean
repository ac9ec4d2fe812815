import HttpDispatch.Proofs.Environ.Loading
import HttpDispatch.Proofs.Text.LowerCase

/-!
# Which environments are accepted

Two variables decide about an environment.  The one of the level says something if it is not set or
is the name of a level in any case, and the case of ASCII letters is the only liberty there is: the
variable is brought into lower case by the full rules of Unicode, but nothing beyond ASCII has a
lower case that occurs in these names (`Level.ofName?_lower_eq_some_iff`).  The one of the form says
something if it is not set, `true` or `false`.

An environment is accepted if both say something.  Otherwise the error names one variable, that of
the level if it says nothing, and shows its value as it was set.  Main statement:
`Run.configuration_exact`.
-/

namespace HttpDispatch

namespace Level

theorem isNative_of_mem_name (l : Level) : ∀ d ∈ l.name.toList, Text.IsNative d := by
  have hall : l.name.toList.all (Text.IsNative ·) = true := by
    cases l <;> decide
  intro d hd
  exact of_decide_eq_true (List.all_eq_true.1 hall d hd)

/-- What has the name of a level as its lower case is this name, up to the case of ASCII letters. -/
theorem ofName?_lower_eq_some_iff {value : String} {l : Level} :
    ofName? (Text.lower value) = some l ↔ value.toLower = l.name := by
  rw [ofName?_eq_some_iff, Text.lower_eq_iff l.isNative_of_mem_name]

end Level

/-- The value is the error that a variable has a value which it may not have. -/
def Value.Refuses (v : Value) (field value : String) : Prop :=
  ∃ report expected, v = .fault report .undefined ∧ report.code = .invalidConfig ∧
    report.message = "Invalid configuration: " ++ field ∧
    report.details =
      some (.obj [("field", .str field), ("value", .str value), ("constraint", .str expected)])

namespace Config

/-- What a variable says of the threshold.  The lower case is that of ASCII letters. -/
inductive SaysLevel : Option String → Level → Prop
  | unset : SaysLevel none .info
  | named {value : String} {l : Level} : value.toLower = l.name → SaysLevel (some value) l

/-- What a variable says of the form of console lines. -/
inductive SaysJson : Option String → Bool → Prop
  | unset : SaysJson none false
  | yes : SaysJson (some "true") true
  | no : SaysJson (some "false") false

variable {env : Environ} {f : Fault}

theorem refuses_invalid (field value expected : String) :
    (invalid field value expected).toValue.Refuses field value :=
  ⟨_, expected, rfl, rfl, rfl, rfl⟩

theorem levelOf_eq_ok_iff {l : Level} :
    levelOf env = .ok l ↔ SaysLevel (env.get? levelKey) l := by
  rw [levelOf]
  cases env.get? levelKey with
  | none =>
    constructor
    · rintro ⟨⟩
      exact .unset
    · rintro ⟨⟩
      rfl
  | some value =>
    have hsame : SaysLevel (some value) l ↔ value.toLower = l.name := by
      refine ⟨?_, .named⟩
      rintro ⟨⟩
      assumption
    rw [hsame, ← Level.ofName?_lower_eq_some_iff]
    cases h : Level.ofName? (Text.lower value) <;> simp [h]

theorem exists_refuses_of_levelOf (h : levelOf env = .error f) :
    ∃ value, env.get? levelKey = some value ∧ f.toValue.Refuses levelKey value := by
  rw [levelOf] at h
  cases hvalue : env.get? levelKey with
  | none =>
    rw [hvalue] at h
    cases h
  | some value =>
    simp only [hvalue] at h
    split at h
    · cases h
    · cases h
      exact ⟨value, rfl, refuses_invalid ..⟩

theorem jsonOf_eq_ok_iff {json : Bool} :
    jsonOf env = .ok json ↔ SaysJson (env.get? jsonKey) json := by
  rw [jsonOf]
  cases env.get? jsonKey with
  | none =>
    constructor
    · rintro ⟨⟩
      exact .unset
    · rintro ⟨⟩
      rfl
  | some value =>
    constructor
    · intro h
      simp only at h
      split at h
      · next hyes =>
        cases h
        subst hyes
        exact .yes
      split at h
      · next hno =>
        cases h
        subst hno
        exact .no
      · cases h
    · rintro (_ | _)
      · rfl
      · rfl

theorem exists_refuses_of_jsonOf (h : jsonOf env = .error f) :
    ∃ value, env.get? jsonKey = some value ∧ f.toValue.Refuses jsonKey value := by
  rw [jsonOf] at h
  cases hvalue : env.get? jsonKey with
  | none =>
    rw [hvalue] at h
    cases h
  | some value =>
    simp only [hvalue] at h
    split at h
    · cases h
    split at h
    · cases h
    · cases h
      exact ⟨value, rfl, refuses_invalid ..⟩

theorem ofEnviron_eq_ok_iff {c : Config} :
    ofEnviron env = .ok c ↔ levelOf env = .ok c.level ∧ jsonOf env = .ok c.json := by
  rw [ofEnviron]
  cases levelOf env with
  | error f => simp
  | ok level =>
    cases jsonOf env with
    | error f => simp
    | ok json =>
      obtain ⟨level', json'⟩ := c
      simp

/-- The level is looked at first. -/
theorem ofEnviron_of_levelOf (h : levelOf env = .error f) : ofEnviron env = .error f := by
  rw [ofEnviron, h]

theorem ofEnviron_of_jsonOf {l : Level} (hlevel : levelOf env = .ok l)
    (h : jsonOf env = .error f) : ofEnviron env = .error f := by
  rw [ofEnviron, hlevel, h]

end Config

namespace Run

open Config

/-- **Which environments are accepted.**  Asking for the configuration changes nothing, and an
environment has one exactly if both variables say something, and then it is what they say.  If that
of the level says nothing, the error is about it and shows its value as it was set, whatever the
other one is.  If only the other one says nothing, the error is about this one.  No other variable
has an influence. -/
theorem configuration_exact (env : Environ) (w : World) :
    ∃ outcome, exec (configuration env) w = (outcome, w) ∧
      (∀ c, outcome = .ok c ↔
        SaysLevel (env.get? "LOG_LEVEL") c.level ∧ SaysJson (env.get? "LOG_JSON") c.json) ∧
      ((∀ l, ¬ SaysLevel (env.get? "LOG_LEVEL") l) → ∃ value v,
        env.get? "LOG_LEVEL" = some value ∧ outcome = .error v ∧ v.Refuses "LOG_LEVEL" value) ∧
      ((∃ l, SaysLevel (env.get? "LOG_LEVEL") l) → (∀ b, ¬ SaysJson (env.get? "LOG_JSON") b) →
        ∃ value v,
          env.get? "LOG_JSON" = some value ∧ outcome = .error v ∧ v.Refuses "LOG_JSON" value) ∧
      ∀ other : Environ, other.get? "LOG_LEVEL" = env.get? "LOG_LEVEL" →
        other.get? "LOG_JSON" = env.get? "LOG_JSON" →
        exec (configuration other) w = (outcome, w) := by
  refine ⟨_, exec_configuration env w, fun c => ?_, fun hnone => ?_, fun hlevel hnone => ?_,
    fun other hlevel hjson => ?_⟩
  · have hboth : ofEnviron env = .ok c ↔
        SaysLevel (env.get? "LOG_LEVEL") c.level ∧ SaysJson (env.get? "LOG_JSON") c.json :=
      ofEnviron_eq_ok_iff.trans (and_congr levelOf_eq_ok_iff jsonOf_eq_ok_iff)
    refine Iff.trans ?_ hboth
    cases ofEnviron env <;> simp [Except.mapError]
  · cases hlevel : levelOf env with
    | ok l => exact absurd (levelOf_eq_ok_iff.1 hlevel) (hnone l)
    | error f =>
      obtain ⟨value, hvalue, hrefuses⟩ := exists_refuses_of_levelOf hlevel
      exact ⟨value, f.toValue, hvalue, by rw [ofEnviron_of_levelOf hlevel]; rfl, hrefuses⟩
  · obtain ⟨l, hl⟩ := hlevel
    cases hjson : jsonOf env with
    | ok b => exact absurd (jsonOf_eq_ok_iff.1 hjson) (hnone b)
    | error f =>
      obtain ⟨value, hvalue, hrefuses⟩ := exists_refuses_of_jsonOf hjson
      exact ⟨value, f.toValue, hvalue,
        by rw [ofEnviron_of_jsonOf (levelOf_eq_ok_iff.2 hl) hjson]; rfl, hrefuses⟩
  · have hsame : ofEnviron other = ofEnviron env := by
      simp only [ofEnviron, levelOf, jsonOf, levelKey, jsonKey, hlevel, hjson]
    rw [exec_configuration, hsame]

example : (Config.ofEnviron (Dict.ofList [("LOG_LEVEL", "wARn"), ("LOG_JSON", "true")])).toOption =
    some ⟨.warn, true⟩ := by
  decide +kernel

end Run

end HttpDispatch
