import HttpDispatch.Log.Shared
import HttpDispatch.Proofs.Log.Emission
import HttpDispatch.Proofs.Log.Tracing

/-!
# The warning about default logging

A logger that is made from an environment which is not valid begins with a warning
(`Run.exec_configuredLogger`).  On the console this warning can be told from any other line: it has
the colour of warnings, and behind its time stand the level and, since it is in no trace, the
message at once (`Observation.tellsFallback`).  A line of another level or in JSON begins
differently, and a warning about a request names its trace first (`Logger.not_tellsFallback`).
-/

namespace HttpDispatch

/-! ### Times -/

namespace Timestamp

theorem notMem_padded {c : Char} (hc : c.isDigit = false) (width n : Nat) :
    c ∉ (padded width n).toList := by
  rw [padded, String.toList_ofList, List.mem_append, not_or]
  constructor
  · intro h
    rw [(List.mem_replicate.1 h).2] at hc
    nomatch hc
  · intro h
    have hdigit : c.isDigit = true := Nat.isDigit_of_mem_toDigits (by decide) (by decide) h
    rw [hdigit] at hc
    nomatch hc

/-- The text of a moment is made of digits and a few marks. -/
theorem notMem_text {c : Char} (hdigit : c.isDigit = false)
    (hmark : c ∉ ['-', '+', 'T', ':', '.', 'Z']) (milliseconds : Int) :
    c ∉ (text milliseconds).toList := by
  have hpadded : ∀ width n, c ∉ (padded width n).toList := notMem_padded hdigit
  simp only [List.mem_cons, List.not_mem_nil, or_false, not_or] at hmark
  obtain ⟨hminus, hplus, ht, hcolon, hpoint, hz⟩ := hmark
  have hyear : ∀ year, c ∉ (yearText year).toList := by
    intro year
    rw [yearText]
    split
    · exact hpadded _ _
    · rw [String.toList_append, List.mem_append, not_or]
      refine ⟨?_, hpadded _ _⟩
      split
      · simpa using hminus
      · simpa using hplus
  simp only [text, String.toList_append, List.mem_append, not_or]
  simp [hyear, hpadded, hminus, ht, hcolon, hpoint, hz]

end Timestamp

/-! ### Lines -/

namespace Entry

/-- The text that begins a warning. -/
def warningStart : String := "\x1b[33m["

/-- What stands behind the time of a warning that default logging is fallen back to. -/
def fallbackStart : String := "] WARN: Falling back to default logging: "

end Entry

namespace Observation

/-- Whether this is a warning on the console that default logging is fallen back to. -/
def tellsFallback : Observation → Bool
  | printed line =>
    Entry.warningStart.toList.isPrefixOf line.toList &&
      Entry.fallbackStart.toList.isPrefixOf (line.toList.dropWhile (· != ']'))
  | _ => false

/-- How many warnings tell that default logging is fallen back to. -/
def fallbacks (seen : List Observation) : Nat := seen.countP tellsFallback

@[simp] theorem fallbacks_append (seen more : List Observation) :
    fallbacks (seen ++ more) = fallbacks seen + fallbacks more :=
  List.countP_append

theorem fallbacks_eq_zero {seen : List Observation} (h : ∀ o ∈ seen, o.tellsFallback = false) :
    fallbacks seen = 0 :=
  List.countP_eq_zero.2 fun o ho => by rw [h o ho]; decide

end Observation

namespace Entry

/-- The first bracket of a line is the one behind the time. -/
theorem dropWhile_text {e : Entry} (ht : ']' ∉ e.timestamp.toList) (level : Level)
    (rest : List Char) :
    ((colour level ++ "[" ++ e.timestamp).toList ++ ']' :: rest).dropWhile (· != ']') =
      ']' :: rest := by
  have hpass : ∀ c ∈ (colour level ++ "[" ++ e.timestamp).toList, (c != ']') = true := by
    intro c hc
    rw [bne_iff_ne]
    rintro rfl
    rw [String.toList_append, String.toList_append] at hc
    rcases List.mem_append.1 hc with hc | hc
    · cases level <;> exact absurd hc (by decide)
    · exact ht hc
  rw [List.dropWhile_append_of_pos hpass]
  exact List.dropWhile_cons_of_neg (by decide)

/-- What the text of an entry says of its trace. -/
def traceText (e : Entry) : String :=
  match e.traceId with
  | some id => if id = "" then "" else " [trace:" ++ id ++ "]"
  | none => ""

/-- What the text of an entry says of its context. -/
def contextText (e : Entry) : String :=
  match e.context with
  | some c => if c.isVoid then "" else " " ++ c.render
  | none => ""

theorem text_eq (e : Entry) :
    e.text = colour e.level ++ "[" ++ e.timestamp ++ "] " ++ e.level.heading ++ ":" ++ e.traceText ++
      " " ++ e.message ++ e.contextText ++ colourEnd := rfl

theorem exists_toList_text (e : Entry) : ∃ rest : String,
    e.text.toList = (colour e.level ++ "[" ++ e.timestamp).toList ++
      ']' :: (" " ++ e.level.heading ++ ":" ++ e.traceText ++ " " ++ e.message ++ rest).toList := by
  have hclosing : ("] " : String).toList = ']' :: (" " : String).toList := rfl
  refine ⟨e.contextText ++ colourEnd, ?_⟩
  rw [text_eq]
  simp only [String.toList_append, hclosing, List.append_assoc, List.cons_append]

variable {e : Entry}

/-- A line of another level has another colour. -/
theorem not_tellsFallback_of_level (h : e.level ≠ .warn) :
    Observation.tellsFallback (.printed e.text) = false := by
  obtain ⟨rest, htext⟩ := e.exists_toList_text
  have hcolour : ∀ more, (warningStart.toList).isPrefixOf ((colour e.level).toList ++ more) =
      false := by
    intro more
    cases hlevel : e.level with
    | warn => exact absurd hlevel h
    | debug | info | error => rfl
  rw [Observation.tellsFallback, htext, String.toList_append, String.toList_append,
    List.append_assoc, List.append_assoc, hcolour, Bool.false_and]

/-- A line about a request names its trace before it says anything else. -/
theorem not_tellsFallback_of_traceId (ht : ']' ∉ e.timestamp.toList) {id : String}
    (hid : e.traceId = some id) (hne : id ≠ "") :
    Observation.tellsFallback (.printed e.text) = false := by
  obtain ⟨rest, htext⟩ := e.exists_toList_text
  have htrace : e.traceText = " [trace:" ++ (id ++ "]") := by
    rw [traceText, hid]
    exact (if_neg hne).trans (String.append_assoc ..)
  have hbehind : ∀ more, (fallbackStart.toList).isPrefixOf
      (']' :: ((" " ++ e.level.heading ++ ":").toList ++ (" [trace:".toList ++ more))) = false := by
    intro more
    cases e.level <;> rfl
  rw [Observation.tellsFallback, htext, dropWhile_text ht, htrace]
  simp only [String.toList_append, List.append_assoc] at hbehind ⊢
  rw [hbehind, Bool.and_false]

/-- A line in JSON begins with a brace. -/
theorem not_tellsFallback_of_json :
    Observation.tellsFallback (.printed e.toJson.render) = false := by
  have hbrace : ∃ rest, e.toJson.render.toList = '{' :: rest := by
    rw [Json.render, String.toList_ofList, toJson, List.cons_append, List.cons_append,
      List.cons_append, List.cons_append, Json.chars]
    exact ⟨_, rfl⟩
  obtain ⟨rest, hrest⟩ := hbrace
  rw [Observation.tellsFallback, hrest]
  rfl

/-- The warning itself. -/
theorem tellsFallback_text (ht : ']' ∉ e.timestamp.toList) (hlevel : e.level = .warn)
    (hid : e.traceId = none) {reason : String}
    (hmessage : e.message = "Falling back to default logging: " ++ reason) :
    Observation.tellsFallback (.printed e.text) = true := by
  obtain ⟨rest, htext⟩ := e.exists_toList_text
  have htrace : e.traceText = "" := by rw [traceText, hid]
  rw [Observation.tellsFallback, htext, dropWhile_text ht, htrace, hlevel, hmessage,
    Bool.and_eq_true]
  constructor
  · simp only [String.toList_append, List.append_assoc]
    rfl
  · simp only [String.toList_append, List.append_assoc]
    rfl

end Entry

namespace Logger

/-- Whether what the logger says at a level names a trace if it is a warning. -/
def Attributes (l : Logger) (level : Level) : Prop :=
  level = .warn → ∃ id, l.trace.map Trace.traceId = some id ∧ id ≠ ""

/-- What is seen of a log call is not the warning about default logging. -/
theorem not_tellsFallback {l : Logger} {level : Level} (h : l.Attributes level) {clock : Int}
    {message : String} {context : Option Json} {error : Option ErrorSummary} {o : Observation}
    (ho : o ∈ l.emits clock level message context error) : o.tellsFallback = false := by
  rw [emits] at ho
  split at ho
  case isFalse => cases ho
  rw [shows] at ho
  rcases List.mem_append.1 ho with ho | ho
  · obtain ⟨s, -, rfl⟩ := Option.mem_toList.1 ho |> Option.map_eq_some_iff.1
    rfl
  split at ho
  case isFalse => cases ho
  rw [List.mem_singleton.1 ho, Entry.line]
  split
  · exact Entry.not_tellsFallback_of_json
  · by_cases hwarn : level = .warn
    · obtain ⟨id, hid, hne⟩ := h hwarn
      exact Entry.not_tellsFallback_of_traceId (Timestamp.notMem_text rfl (by decide) clock) hid hne
    · exact Entry.not_tellsFallback_of_level hwarn

end Logger

/-! ### Default logging -/

/-- The settings of a logger that is made from an environment: those of its configuration, or the
plain ones where it is not valid. -/
def Settings.ofEnviron (env : Environ) : Settings :=
  match Config.ofEnviron env with
  | .ok c => c.settings
  | .error _ => .default

/-- Whether the variables about logging are valid. -/
def Environ.isValid (env : Environ) : Bool := (Config.ofEnviron env).isOk

/-- What is seen when a logger is made from an environment. -/
def seenConfiguring (clock : Int) (env : Environ) : List Observation :=
  match Config.ofEnviron env with
  | .ok _ => []
  | .error f =>
    (Logger.ofSettings .default).emits clock .warn
      ("Falling back to default logging: " ++ f.toValue.display)
      (some (.obj [("code", .str f.report.code.name)])) none

/-- There is one warning exactly if the environment is not valid. -/
theorem fallbacks_seenConfiguring (clock : Int) (env : Environ) :
    Observation.fallbacks (seenConfiguring clock env) = if env.isValid then 0 else 1 := by
  rw [seenConfiguring, Environ.isValid]
  cases Config.ofEnviron env with
  | ok c => rfl
  | error f =>
    let l := Logger.ofSettings .default
    let e := l.entry clock .warn ("Falling back to default logging: " ++ f.toValue.display)
      (some (.obj [("code", .str f.report.code.name)])) none
    have htells : Observation.tellsFallback (.printed e.text) = true :=
      Entry.tellsFallback_text (Timestamp.notMem_text rfl (by decide) clock) rfl rfl rfl
    exact (List.countP_cons_of_pos htells).trans rfl

namespace Run

/-- Making a logger from an environment never fails. -/
theorem exec_configuredLogger (env : Environ) (w : World) :
    exec (configuredLogger env) w =
      (.ok w.loggers.next,
        { w.observing (seenConfiguring w.clock env) with
          loggers := w.loggers.push (.ofSettings (.ofEnviron env)) }) := by
  rw [configuredLogger, seenConfiguring, Settings.ofEnviron]
  cases Config.ofEnviron env with
  | ok c => rw [World.observing_nil]; rfl
  | error f =>
    have hl : (Logger.ofSettings .default).NeverThrows := fun _ => rfl
    exact exec_bind_ok (Logger.exec_log (hl _))

/-- The shared logger that is there stays. -/
theorem exec_sharedLogger_of_some {w : World} {r : Ref Logger} (h : w.shared = some r) :
    exec sharedLogger w = (.ok r, w) := by
  rw [sharedLogger, exec_bind_ok (exec_get w), h]
  rfl

/-- Where there is no shared logger, one is made from the environment as it is. -/
theorem exec_sharedLogger_of_none {w : World} (h : w.shared = none) :
    exec sharedLogger w =
      (.ok w.loggers.next,
        { w.observing (seenConfiguring w.clock w.environ) with
          loggers := w.loggers.push (.ofSettings (.ofEnviron w.environ))
          shared := some w.loggers.next }) := by
  rw [sharedLogger, exec_bind_ok (exec_get w), h]
  exact (exec_bind_ok (exec_get w)).trans
    ((exec_bind_ok (exec_configuredLogger w.environ w)).trans rfl)

end Run

end HttpDispatch
