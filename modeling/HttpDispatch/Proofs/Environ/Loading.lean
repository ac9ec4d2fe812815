import HttpDispatch.Environ.Load

/-!
# Loading environment files

A file that can be read adds what it defines to the environment, as far as it is not set, and only
then the environment is looked at.  So a load that fails because the environment is not valid
leaves there what one that succeeds leaves (`Run.loadEnvFile_failed`), and since nothing takes it
away again, no later load succeeds.

Several loads may each find other files.  A `Load` is one of them with the files as they are then,
and `World.loading` is the world after a row of loads, whatever became of each.  Within one file the
last definition of a variable counts, but among several files the first that defines it
(`World.loadsInOrder`).
-/

namespace HttpDispatch

open Run

/-- What is in a dictionary is found there under its key. -/
theorem Dict.contains_of_mem {α : Type} {d : Dict α} {e : String × α} (h : e ∈ d.entries) :
    d.contains e.1 = true := by
  have hlookup : ∀ entries : List (String × α), e ∈ entries →
      (lookupIn e.1 entries).isSome = true := by
    intro entries hmem
    induction entries with
    | nil => nomatch hmem
    | cons first rest ih =>
      rw [lookupIn]
      split
      · rfl
      · next hne =>
        rcases List.mem_cons.1 hmem with rfl | hrest
        · exact absurd rfl hne
        · exact ih hrest
  exact hlookup d.entries h

/-! ### What a file adds -/

namespace EnvFile

/-- A file gives a variable the value of the last of its definitions.  The reserved key is no
variable. -/
def Gives (content key value : String) : Prop :=
  key ≠ Params.reserved ∧ Params.Last (definitions content) key value

/-- The environment to which the variables of a file were added. -/
def adding (env : Environ) (content : String) : Environ := merge env (bindings content).entries

variable {env : Environ} {content key value : String}

theorem get?_bindings_eq_some_iff : (bindings content).get? key = some value ↔
    Gives content key value := Params.get?_ofList_eq_some_iff

theorem get?_adding (env : Environ) (content key : String) :
    (adding env content).get? key = (env.get? key).or ((bindings content).get? key) :=
  get?_merge env (bindings content).entries key

theorem get?_adding_of_some (h : env.get? key = some value) (content : String) :
    (adding env content).get? key = some value := by
  rw [get?_adding, h, Option.some_or]

theorem get?_adding_eq_some_iff : (adding env content).get? key = some value ↔
    env.get? key = some value ∨ env.get? key = none ∧ Gives content key value := by
  rw [get?_adding, Option.or_eq_some_iff, get?_bindings_eq_some_iff]

/-- A file adds nothing exactly if all that it defines is set. -/
theorem adding_eq_self_iff : adding env content = env ↔
    ∀ key value, Gives content key value → env.contains key = true := by
  constructor
  · intro h key value hgives
    rw [← h, Dict.contains, get?_adding, get?_bindings_eq_some_iff.2 hgives, Option.isSome_or,
      Option.isSome_some, Bool.or_true]
  · intro h
    refine merge_of_contains fun v hv => ?_
    obtain ⟨value, hvalue⟩ := Option.isSome_iff_exists.1 (Dict.contains_of_mem hv)
    exact h v.1 value (get?_bindings_eq_some_iff.1 hvalue)

theorem adding_adding (env : Environ) (content : String) :
    adding (adding env content) content = adding env content := by
  refine adding_eq_self_iff.2 fun key value hgives => ?_
  rw [Dict.contains, get?_adding, get?_bindings_eq_some_iff.2 hgives, Option.isSome_or,
    Option.isSome_some, Bool.or_true]

end EnvFile

namespace Config

open EnvFile (adding get?_adding_of_some)

variable {env : Environ} {f : Fault}

theorem levelOf_adding_of_error (h : levelOf env = .error f) (content : String) :
    levelOf (adding env content) = .error f := by
  cases hvalue : env.get? levelKey with
  | none =>
    rw [levelOf, hvalue] at h
    cases h
  | some value =>
    rw [levelOf, get?_adding_of_some hvalue]
    rwa [levelOf, hvalue] at h

theorem jsonOf_adding_of_error (h : jsonOf env = .error f) (content : String) :
    jsonOf (adding env content) = .error f := by
  cases hvalue : env.get? jsonKey with
  | none =>
    rw [jsonOf, hvalue] at h
    cases h
  | some value =>
    rw [jsonOf, get?_adding_of_some hvalue]
    rwa [jsonOf, hvalue] at h

/-- No file mends an environment that is not valid. -/
theorem exists_error_adding (h : ofEnviron env = .error f) (content : String) :
    ∃ f', ofEnviron (adding env content) = .error f' := by
  rw [ofEnviron] at h
  cases hlevel : levelOf env with
  | error f₁ =>
    refine ⟨f₁, ?_⟩
    rw [ofEnviron, levelOf_adding_of_error hlevel]
  | ok level =>
    rw [hlevel] at h
    cases hjson : jsonOf env with
    | ok json =>
      rw [hjson] at h
      cases h
    | error f₂ =>
      rw [ofEnviron, jsonOf_adding_of_error hjson]
      cases levelOf (adding env content) with
      | error f₁ => exact ⟨f₁, rfl⟩
      | ok level' => exact ⟨f₂, rfl⟩

end Config

/-! ### One load -/

/-- What is read for a path. -/
def FileTree.readEnv (t : FileTree) (path : String) : Except FileError String :=
  t.read (if path = "" then Run.defaultEnvPath else path)

/-- The world to whose environment the variables of a file were added. -/
def World.adding (w : World) (content : String) : World :=
  { w with environ := EnvFile.adding w.environ content }

namespace Run

variable {path content : String} {w w' : World} {e : FileError} {v : Value}

theorem exec_configuration (env : Environ) (w : World) :
    exec (configuration env) w = ((Config.ofEnviron env).mapError Fault.toValue, w) := by
  rw [configuration]
  cases Config.ofEnviron env <;> rfl

/-- The error of a load whose file cannot be read. -/
def unreadable (path : String) (e : FileError) : Fault :=
  .make ("Failed to read env file " ++ path) .invalidConfig
    (some (.obj [("field", .str "path"), ("value", .str path), ("constraint", .str e.message)]))
    none e.toValue

theorem exec_loadEnvFile_of_error (h : w.files.readEnv path = .error e) :
    exec (loadEnvFile path) w = (.error (unreadable path e).toValue, w) := by
  rw [FileTree.readEnv] at h
  rw [loadEnvFile, exec_bind_ok (exec_get w), h]
  exact exec_raise _ w

theorem exec_loadEnvFile_of_ok (h : w.files.readEnv path = .ok content) :
    exec (loadEnvFile path) w =
      exec (configuration (w.adding content).environ) (w.adding content) := by
  rw [FileTree.readEnv] at h
  rw [loadEnvFile, exec_bind_ok (exec_get w), h]
  exact (exec_bind_ok (exec_modify _ w)).trans (exec_bind_ok (exec_get _))

end Run

/-! ### Several loads -/

namespace EnvFile

/-- A load of an environment file, and the files as they are then. -/
structure Load where
  files : FileTree
  path : String

namespace Load

/-- The content of the file that is loaded, if it can be read. -/
def content? (l : Load) : Option String := (l.files.readEnv l.path).toOption

/-- The file that is loaded can be read and gives a variable this value. -/
def Gives (l : Load) (key value : String) : Prop :=
  ∃ content, l.content? = some content ∧ EnvFile.Gives content key value

/-- What a load comes to in a world. -/
def exec (l : Load) (w : World) : Except Value Config × World :=
  Run.exec (loadEnvFile l.path) { w with files := l.files }

/-- The value that a load gives a variable. -/
def value? (l : Load) (key : String) : Option String :=
  l.content?.bind fun content => (bindings content).get? key

variable {l : Load} {content key value : String} {w : World} {f : Fault}

theorem value?_eq_some_iff : l.value? key = some value ↔ l.Gives key value := by
  simp only [value?, Gives, Option.bind_eq_some_iff, get?_bindings_eq_some_iff]

theorem value?_eq_none_iff : l.value? key = none ↔ ∀ value, ¬ l.Gives key value := by
  simp only [Option.eq_none_iff_forall_ne_some, ne_eq, value?_eq_some_iff]

theorem exists_exec_of_none (h : l.content? = none) :
    ∃ v, ∀ w, l.exec w = (.error v, { w with files := l.files }) := by
  rw [content?] at h
  cases hread : l.files.readEnv l.path with
  | error e =>
    exact ⟨_, fun w => exec_loadEnvFile_of_error (w := { w with files := l.files }) hread⟩
  | ok content =>
    rw [hread] at h
    nomatch h

theorem exec_of_some (h : l.content? = some content) (w : World) :
    l.exec w = Run.exec (configuration (adding w.environ content))
      { w with files := l.files, environ := adding w.environ content } := by
  rw [content?] at h
  cases hread : l.files.readEnv l.path with
  | error e =>
    rw [hread] at h
    nomatch h
  | ok content' =>
    rw [hread] at h
    obtain rfl := Option.some.inj h
    exact exec_loadEnvFile_of_ok (w := { w with files := l.files }) hread

/-- A load sets what is not set and it gives a value. -/
theorem get?_environ_exec (l : Load) (w : World) (key : String) :
    (l.exec w).2.environ.get? key = (w.environ.get? key).or (l.value? key) := by
  rw [value?]
  cases hcontent : l.content? with
  | none =>
    obtain ⟨v, hv⟩ := exists_exec_of_none hcontent
    rw [hv, Option.bind_none, Option.or_none]
  | some content =>
    rw [exec_of_some hcontent, exec_configuration, Option.bind_some]
    exact get?_adding w.environ content key

/-- A load that is repeated at once comes to the same. -/
theorem exec_exec (l : Load) (w : World) : l.exec (l.exec w).2 = l.exec w := by
  cases hcontent : l.content? with
  | none =>
    obtain ⟨v, hv⟩ := exists_exec_of_none hcontent
    rw [hv, hv]
  | some content =>
    simp only [exec_of_some hcontent, exec_configuration, adding_adding]

/-- Where the environment is not valid, a load fails, and leaves it so. -/
theorem exists_error_exec (h : Config.ofEnviron w.environ = .error f) (l : Load) :
    (∃ v, (l.exec w).1 = .error v) ∧
      ∃ f', Config.ofEnviron (l.exec w).2.environ = .error f' := by
  cases hcontent : l.content? with
  | none =>
    obtain ⟨v, hv⟩ := exists_exec_of_none hcontent
    rw [hv]
    exact ⟨⟨v, rfl⟩, f, h⟩
  | some content =>
    obtain ⟨f', hf'⟩ := Config.exists_error_adding h content
    rw [exec_of_some hcontent, exec_configuration]
    refine ⟨⟨f'.toValue, ?_⟩, f', hf'⟩
    rw [hf']
    rfl

end Load

end EnvFile

namespace World

open EnvFile (Load)

/-- The world after these loads, one after the other. -/
def loading (w : World) (loads : List Load) : World := loads.foldl (fun w l => (l.exec w).2) w

theorem loading_append (w : World) (loads more : List Load) :
    w.loading (loads ++ more) = (w.loading loads).loading more := List.foldl_append

/-- What is not set gets the value of the first load that gives one. -/
theorem get?_environ_loading (w : World) (loads : List Load) (key : String) :
    (w.loading loads).environ.get? key =
      (w.environ.get? key).or (loads.findSome? (·.value? key)) := by
  induction loads generalizing w with
  | nil => exact (Option.or_none ..).symm
  | cons l rest ih =>
    have hrest : w.loading (l :: rest) = (l.exec w).2.loading rest := rfl
    rw [hrest, ih, l.get?_environ_exec, Option.or_assoc, List.findSome?_cons]
    cases l.value? key <;> rfl

/-- An environment that is not valid stays so, whatever is loaded. -/
theorem exists_error_loading {w : World} {f : Fault} (h : Config.ofEnviron w.environ = .error f)
    (loads : List Load) : ∃ f', Config.ofEnviron (w.loading loads).environ = .error f' := by
  induction loads generalizing w f with
  | nil => exact ⟨f, h⟩
  | cons l rest ih =>
    obtain ⟨-, f', hf'⟩ := l.exists_error_exec h
    exact ih hf'

end World

/-! ### A load that fails -/

namespace Run

/-- **What a load leaves behind that fails.**  If the file cannot be read, nothing is changed.  If
it can, the load has failed because the environment is not valid, and then nothing is changed but
the environment: what was set keeps its value, and of the rest is set what the file gives a value,
just as if the load had succeeded.  So the environment is what it was exactly if the file gives no
value to a variable that was not set.  And it stays invalid: no later load succeeds, whatever it
reads. -/
theorem loadEnvFile_failed {path : String} {w w' : World} {v : Value}
    (h : exec (loadEnvFile path) w = (.error v, w')) :
    (∀ e, w.files.readEnv path = .error e → w' = w) ∧
    ∀ content, w.files.readEnv path = .ok content →
      w' = { w with environ := w'.environ } ∧
      (∀ key value, w'.environ.get? key = some value ↔ w.environ.get? key = some value ∨
        w.environ.get? key = none ∧ EnvFile.Gives content key value) ∧
      (w'.environ = w.environ ↔
        ∀ key value, EnvFile.Gives content key value → w.environ.contains key = true) ∧
      ∀ (loads : List EnvFile.Load) (l : EnvFile.Load),
        ∃ v', (l.exec (w'.loading loads)).1 = .error v' := by
  constructor
  · intro e hread
    exact (Prod.mk.inj (h.symm.trans (exec_loadEnvFile_of_error hread))).2
  · intro content hread
    rw [exec_loadEnvFile_of_ok hread, exec_configuration] at h
    obtain ⟨hresult, rfl⟩ := Prod.mk.inj h
    obtain ⟨f, hf⟩ : ∃ f, Config.ofEnviron (w.adding content).environ = .error f := by
      cases hconfig : Config.ofEnviron (w.adding content).environ with
      | ok c =>
        rw [hconfig] at hresult
        nomatch hresult
      | error f => exact ⟨f, rfl⟩
    refine ⟨rfl, fun key value => EnvFile.get?_adding_eq_some_iff, EnvFile.adding_eq_self_iff,
      fun loads l => ?_⟩
    obtain ⟨f', hf'⟩ := World.exists_error_loading hf loads
    exact (l.exists_error_exec hf').1

/-- One environment file and no other. -/
def onlyEnvFile (content : String) : FileTree := ⟨[([".env"], content)], []⟩

/-- A world with an environment file that sets no proper level, and with the form of lines set
before. -/
def shouting : World :=
  { World.initial 0 [] (Dict.set ∅ "LOG_JSON" "false") with
    files := onlyEnvFile "LOG_LEVEL=loud\nLOG_JSON=true" }

theorem exists_exec_shouting : ∃ v w', exec (loadEnvFile "") shouting = (.error v, w') ∧
    w'.environ.get? "LOG_LEVEL" = some "loud" := by
  have hresult : (exec (loadEnvFile "") shouting).1.isOk = false := by decide +kernel
  have hlevel : (exec (loadEnvFile "") shouting).2.environ.get? "LOG_LEVEL" = some "loud" := by
    decide +kernel
  cases hexec : exec (loadEnvFile "") shouting with
  | mk result w' =>
    rw [hexec] at hresult hlevel
    cases result with
    | ok c => nomatch hresult
    | error v => exact ⟨v, w', rfl, hlevel⟩

/-- The level stays, and a file that sets a proper one comes too late. -/
theorem loadEnvFile_failed_shouting : ∃ v w', exec (loadEnvFile "") shouting = (.error v, w') ∧
    w'.environ.get? "LOG_LEVEL" = some "loud" ∧ w'.environ.get? "LOG_JSON" = some "false" ∧
    w'.environ ≠ shouting.environ ∧
    ∃ v', (EnvFile.Load.exec ⟨onlyEnvFile "LOG_LEVEL=info", ""⟩ w').1 = .error v' := by
  obtain ⟨v, w', hexec, -⟩ := exists_exec_shouting
  have hread : shouting.files.readEnv "" = .ok "LOG_LEVEL=loud\nLOG_JSON=true" := by rfl
  have hlevel : EnvFile.Gives "LOG_LEVEL=loud\nLOG_JSON=true" "LOG_LEVEL" "loud" :=
    EnvFile.get?_bindings_eq_some_iff.1 (by decide +kernel)
  obtain ⟨-, hset, hsame, hlater⟩ := (loadEnvFile_failed hexec).2 _ hread
  refine ⟨v, w', hexec, (hset _ _).2 (.inr ⟨rfl, hlevel⟩), (hset _ _).2 (.inl rfl), fun h => ?_,
    hlater [] _⟩
  nomatch hsame.1 h _ _ hlevel

/-- A load that fails need not leave the environment as it was. -/
theorem loadEnvFile_not_undone : ¬ ∀ (path : String) (w w' : World) (v : Value),
    exec (loadEnvFile path) w = (.error v, w') → w'.environ = w.environ := by
  intro h
  obtain ⟨v, w', hexec, hlevel⟩ := exists_exec_shouting
  rw [h _ _ _ _ hexec] at hlevel
  nomatch hlevel

end Run

/-! ### Loads in a row -/

namespace World

open EnvFile (Load)

/-- What a row of loads comes to, whatever becomes of each: what was set is kept, and of the rest is
set what some file gives a value, which is then that of the first such file. -/
structure LoadsInOrder (w : World) (loads : List Load) : Prop where
  kept {key value : String} : w.environ.get? key = some value →
    (w.loading loads).environ.get? key = some value
  set_iff {key : String} : w.environ.get? key = none →
    ((w.loading loads).environ.contains key = true ↔ ∃ l ∈ loads, ∃ value, l.Gives key value)
  first {key value : String} : w.environ.get? key = none →
    ((w.loading loads).environ.get? key = some value ↔
      ∃ before l after, loads = before ++ l :: after ∧ l.Gives key value ∧
        ∀ m ∈ before, ∀ other, ¬ m.Gives key other)
  /-- Each load of a file that can be read answers as the environment that it leaves is configured,
  and a load that is repeated at once changes nothing and comes to the same. -/
  each {before after : List Load} {l : Load} : loads = before ++ l :: after →
    ∃ result, l.exec (w.loading before) = (result, w.loading (before ++ [l])) ∧
      l.exec (w.loading (before ++ [l])) = (result, w.loading (before ++ [l])) ∧
      ∀ content, l.content? = some content →
        result = (exec (configuration (w.loading (before ++ [l])).environ)
          (w.loading (before ++ [l]))).1

variable {w : World} {loads : List Load} {key value : String}

theorem contains_environ_loading_iff (h : w.environ.get? key = none) :
    (w.loading loads).environ.contains key = true ↔ ∃ l ∈ loads, ∃ value, l.Gives key value := by
  rw [Dict.contains, get?_environ_loading, h, Option.none_or, List.isSome_findSome?,
    List.any_eq_true]
  simp only [Option.isSome_iff_exists, EnvFile.Load.value?_eq_some_iff]

theorem get?_environ_loading_eq_some_iff (h : w.environ.get? key = none) :
    (w.loading loads).environ.get? key = some value ↔
      ∃ before l after, loads = before ++ l :: after ∧ l.Gives key value ∧
        ∀ m ∈ before, ∀ other, ¬ m.Gives key other := by
  rw [get?_environ_loading, h, Option.none_or, List.findSome?_eq_some_iff]
  simp only [EnvFile.Load.value?_eq_some_iff, EnvFile.Load.value?_eq_none_iff]

/-- A load of a file that can be read answers as the environment that it leaves is configured. -/
theorem fst_exec_load {l : Load} {content : String} (h : l.content? = some content) (w : World) :
    (l.exec w).1 = (exec (configuration (l.exec w).2.environ) (l.exec w).2).1 := by
  rw [EnvFile.Load.exec_of_some h, exec_configuration, exec_configuration]

/-- **Which of several definitions of a variable counts.**  Let environment files be loaded, one
after the other, each with the files as they are then, and whether the loads succeed or not.  Then
every variable that was set keeps its value.  Any other one is set exactly if a file that could be
read gives it a value, and has the value that the first such file gives it, which is that of its
last definition there.  Each load of a file that could be read answers as the environment is
configured that it leaves, and one that is repeated at once changes nothing and answers the same. -/
theorem loadsInOrder (w : World) (loads : List Load) : w.LoadsInOrder loads where
  kept h := by rw [get?_environ_loading, h, Option.some_or]
  set_iff := contains_environ_loading_iff
  first := get?_environ_loading_eq_some_iff
  each {before after l} _ := by
    have hafter : w.loading (before ++ [l]) = (l.exec (w.loading before)).2 :=
      loading_append w before [l]
    rw [hafter]
    refine ⟨(l.exec (w.loading before)).1, rfl, l.exec_exec _, fun content hcontent => ?_⟩
    exact fst_exec_load hcontent _

example :
    let loads : List Load := [⟨Run.onlyEnvFile "A=1\nA=2", ""⟩, ⟨.empty, ""⟩,
      ⟨Run.onlyEnvFile "A=3\nLOG_JSON=yes\nB=4\nC=5", ""⟩, ⟨Run.onlyEnvFile "B=6", ""⟩]
    ((World.initial 0 [] (Dict.set ∅ "C" "0")).loading loads).environ.entries =
      [("C", "0"), ("A", "2"), ("LOG_JSON", "yes"), ("B", "4")] := by
  decide +kernel

end World

end HttpDispatch
