import HttpDispatch.Proofs.Json.RoundTrip
import HttpDispatch.Proofs.Log.Emission

/-!
# JSON lines

In JSON an entry is one line, and nothing of it is lost.  It can be read off the line by someone who
knows the names of the members and nothing else: a member is there exactly if the entry has
something to say under its name, and no other member is there (`Entry.ofJson?_toJson`).

So a log call of a logger that writes such lines writes one, without a control character in it, and
what is read off it is the entry that the sink has got (`Logger.log_lossless`).  But the console
comes after the sink, and if that throws, there is no line at all.
-/

namespace HttpDispatch

/-! ### Reading records -/

namespace Json

/-- The text that a value is. -/
def text? : Json → Option String
  | .str s => some s
  | _ => none

/-- A record of texts. -/
def record (members : List (String × String)) : Json :=
  .obj (members.map fun m => (m.1, .str m.2))

theorem isReadable_record (members : List (String × String)) :
    (record members).isReadable = true := by
  apply isReadable_members
  intro m hm
  obtain ⟨n, -, rfl⟩ := List.mem_map.1 hm
  exact .inl ⟨n.2, rfl⟩

/-- The members have these names, in this order; some names may be missing. -/
def Named (members : List (String × Json)) (names : List String) : Prop :=
  (members.map Prod.fst).Sublist names

instance (members : List (String × Json)) (names : List String) :
    Decidable (Named members names) := inferInstanceAs (Decidable (List.Sublist _ _))

theorem Named.append {ms ns : List (String × Json)} {names more : List String}
    (h : Named ms names) (h' : Named ns more) : Named (ms ++ ns) (names ++ more) := by
  rw [Named, List.map_append]
  exact List.Sublist.append h h'

theorem named_optional (name : String) (value : Option Json) :
    Named (optional name value) [name] := by
  cases value with
  | none => exact List.nil_sublist _
  | some v => exact List.Sublist.refl _

@[simp] theorem member?_cons (name : String) (m : String × Json) (ms : List (String × Json)) :
    member? name (m :: ms) =
      (member? name ms).or (if m.1 = name then some m.2 else none) := by
  rw [member?]
  cases member? name ms <;> rfl

@[simp] theorem member?_append (name : String) (ms ns : List (String × Json)) :
    member? name (ms ++ ns) = (member? name ns).or (member? name ms) := by
  induction ms with
  | nil => exact (Option.or_none).symm
  | cons m ms ih => rw [List.cons_append, member?_cons, member?_cons, ih, Option.or_assoc]

@[simp] theorem member?_optional (name : String) (value : Option Json) :
    member? name (optional name value) = value := by
  cases value <;> simp [optional, member?]

@[simp] theorem member?_optional_of_ne {name other : String} (h : other ≠ name)
    (value : Option Json) : member? name (optional other value) = none := by
  cases value <;> simp [optional, member?, h]

section Members

variable {α : Type}

/-- Reads the member of a name, if there is one. -/
def readMember? (read : Json → Option α) (name : String) (members : List (String × Json)) :
    Option (Option α) :=
  match member? name members with
  | none => some none
  | some v => (read v).map some

/-- What has been written under a name is read there. -/
theorem readMember?_eq {read : Json → Option α} {write : α → Json}
    (hread : ∀ a, read (write a) = some a) {name : String} {members : List (String × Json)}
    {value : Option α} (h : member? name members = value.map write) :
    readMember? read name members = some value := by
  rw [readMember?, h]
  cases value with
  | none => rfl
  | some a => exact congrArg (Option.map some) (hread a)

end Members

theorem readMember?_text {name : String} {members : List (String × Json)} {value : Option String}
    (h : member? name members = value.map .str) :
    readMember? text? name members = some value := by
  have htext : ∀ s, text? (.str s) = some s := fun _ => rfl
  exact readMember?_eq htext h

end Json

namespace ErrorSummary

def memberNames : List String := ["name", "message", "stack"]

/-- The summary that a value is. -/
def ofJson? : Json → Option ErrorSummary
  | .obj ms =>
    if Json.Named ms memberNames then do
      let name ← Json.readMember? Json.text? "name" ms
      let message ← Json.readMember? Json.text? "message" ms
      let stack ← Json.readMember? Json.text? "stack" ms
      return { name, message, stack }
    else none
  | _ => none

theorem ofJson?_toJson (e : ErrorSummary) : ofJson? e.toJson = some e := by
  obtain ⟨name, message, stack⟩ := e
  let ms := Json.optionalText "name" name ++ Json.optionalText "message" message ++
    Json.optionalText "stack" stack
  have hnamed : Json.Named ms memberNames :=
    ((Json.named_optional _ _).append (Json.named_optional _ _)).append (Json.named_optional _ _)
  have hname : Json.readMember? Json.text? "name" ms = some name :=
    Json.readMember?_text (by simp [ms, Json.optionalText])
  have hmessage : Json.readMember? Json.text? "message" ms = some message :=
    Json.readMember?_text (by simp [ms, Json.optionalText])
  have hstack : Json.readMember? Json.text? "stack" ms = some stack :=
    Json.readMember?_text (by simp [ms, Json.optionalText])
  show ofJson? (.obj ms) = _
  rw [ofJson?, if_pos hnamed, hname, hmessage, hstack]
  rfl

theorem isReadable_toJson (e : ErrorSummary) : e.toJson.isReadable = true := by
  rw [toJson, Json.isReadable]
  simp only [Json.membersReadable_append, Json.membersReadable_optionalText, Bool.and_true]

end ErrorSummary

namespace Entry

def memberNames : List String :=
  ["level", "message", "timestamp", "traceId", "spanId", "context", "error"]

/-- The entry that a value is. -/
def ofJson? : Json → Option Entry
  | .obj ms =>
    if Json.Named ms memberNames then do
      let level ← ((Json.member? "level" ms).bind Json.text?).bind Level.ofName?
      let message ← (Json.member? "message" ms).bind Json.text?
      let timestamp ← (Json.member? "timestamp" ms).bind Json.text?
      let traceId ← Json.readMember? Json.text? "traceId" ms
      let spanId ← Json.readMember? Json.text? "spanId" ms
      let context ← Json.readMember? some "context" ms
      let error ← Json.readMember? ErrorSummary.ofJson? "error" ms
      return { level, message, timestamp, traceId, spanId, context, error }
    else none
  | _ => none

theorem ofJson?_toJson (e : Entry) : ofJson? e.toJson = some e := by
  obtain ⟨level, message, timestamp, traceId, spanId, context, error⟩ := e
  let first : List (String × Json) :=
    [("level", .str level.name), ("message", .str message), ("timestamp", .str timestamp)]
  let ms := first ++ Json.optionalText "traceId" traceId ++ Json.optionalText "spanId" spanId ++
    Json.optional "context" context ++ Json.optional "error" (error.map ErrorSummary.toJson)
  have hfirst : Json.Named first ["level", "message", "timestamp"] := List.Sublist.refl _
  have hnamed : Json.Named ms memberNames :=
    (((hfirst.append (Json.named_optional _ _)).append (Json.named_optional _ _)).append
      (Json.named_optional _ _)).append (Json.named_optional _ _)
  have hlevel : Json.member? "level" ms = some (.str level.name) := by
    simp [ms, first, Json.optionalText]
  have hmessage : Json.member? "message" ms = some (.str message) := by
    simp [ms, first, Json.optionalText]
  have htimestamp : Json.member? "timestamp" ms = some (.str timestamp) := by
    simp [ms, first, Json.optionalText]
  have htraceId : Json.readMember? Json.text? "traceId" ms = some traceId :=
    Json.readMember?_text (by simp [ms, first, Json.optionalText])
  have hspanId : Json.readMember? Json.text? "spanId" ms = some spanId :=
    Json.readMember?_text (by simp [ms, first, Json.optionalText])
  have hcontext : Json.readMember? some "context" ms = some context :=
    Json.readMember?_eq (fun _ => rfl) (by simp [ms, first, Json.optionalText])
  have herror : Json.readMember? ErrorSummary.ofJson? "error" ms = some error :=
    Json.readMember?_eq ErrorSummary.ofJson?_toJson
      (by simp [ms, first, Json.optionalText])
  show ofJson? (.obj ms) = _
  rw [ofJson?, if_pos hnamed, hlevel, hmessage, htimestamp, htraceId, hspanId, hcontext, herror]
  simp [Json.text?, Level.ofName?_name]

theorem isReadable_toJson {e : Entry} (h : ∀ c, e.context = some c → c.isReadable = true) :
    e.toJson.isReadable = true := by
  have herror : ∀ v, e.error.map ErrorSummary.toJson = some v → v.isReadable = true := by
    intro v hv
    obtain ⟨s, -, rfl⟩ := Option.map_eq_some_iff.1 hv
    exact s.isReadable_toJson
  rw [toJson, Json.isReadable]
  simp only [Json.membersReadable_append, Json.membersReadable_optionalText,
    Json.membersReadable_optional h, Json.membersReadable_optional herror, Bool.and_true]
  rfl

/-- What is read off the line of an entry is the entry. -/
theorem ofJson?_read?_line {e : Entry} (h : ∀ c, e.context = some c → c.isReadable = true) :
    (Json.read? (e.line true)).bind ofJson? = some e := by
  have hline : e.line true = e.toJson.render := rfl
  rw [hline, Json.read?_render (isReadable_toJson h), Option.bind_some, ofJson?_toJson]

end Entry

/-! ### Lines of a logger -/

namespace Logger

open Run

/-- The log call answers, the sink gets the entry, and the console one line, which has no control
character in it and is read as the entry. -/
def LogsLosslessly (l : Logger) (level : Level) (message : String)
    (context : Option (List (String × String))) (error : Option ErrorSummary) (w : World) : Prop :=
  let e := l.entry w.clock level message (context.map Json.record) error
  ∃ line,
    exec (l.log level message (context.map Json.record) error) w =
      (.ok (), w.observing
        ((l.settings.sink.map fun s => .logged s.name e).toList ++ [.printed line])) ∧
    (∀ c ∈ line.toList, 0x20 ≤ c.toNat) ∧ (Json.read? line).bind Entry.ofJson? = some e

/-- **JSON lines are lossless**: a log call of a logger with JSON lines on the console, whose level
passes, writes just one of them, in which there is no control character and from which the entry
that the sink has got can be read.  If the sink throws on the entry, the call comes to what it
throws, and nothing is written. -/
theorem log_lossless {l : Logger} {level : Level} (hconsole : l.settings.console = true)
    (hjson : l.settings.json = true) (hpasses : level.passes l.level = true) (message : String)
    (context : Option (List (String × String))) (error : Option ErrorSummary) (w : World) :
    let e := l.entry w.clock level message (context.map Json.record) error
    (l.throws? e = none → l.LogsLosslessly level message context error w) ∧
    ∀ v, l.throws? e = some v →
      exec (l.log level message (context.map Json.record) error) w = (.error v, w) := by
  intro e
  constructor
  · intro hreceives
    have hcontext : ∀ c, e.context = some c → c.isReadable = true := by
      intro c hc
      obtain ⟨members, -, rfl⟩ := Option.map_eq_some_iff.1 hc
      exact Json.isReadable_record members
    refine ⟨e.line true, ?_, ?_, Entry.ofJson?_read?_line hcontext⟩
    · rw [exec_log hreceives, emits, if_pos hpasses, shows, if_pos hconsole, hjson]
    · intro c hc
      have hchars : (e.line true).toList = e.toJson.chars := String.toList_ofList
      rw [hchars] at hc
      exact Json.toNat_of_mem_chars _ hc
  · intro v hthrows
    exact exec_log_of_throws hpasses hthrows

/-- A forged line stays inside its own. -/
theorem log_lossless_forged :
    let l : Logger := ⟨⟨.info, true, true, some (.capture "L")⟩, some (.root "t" 0)⟩
    l.settings.console = true ∧ l.settings.json = true ∧ Level.passes .error l.level = true ∧
      l.NeverThrows ∧
      l.LogsLosslessly .error "a\n\x7b\"level\":\"info\"\x7d" (some [("k", "\x00\"")])
        (some ⟨some "E", some "b\r", none⟩) (.initial 0 [0] ∅) := by
  intro l
  exact ⟨rfl, rfl, rfl, fun _ => rfl, (log_lossless rfl rfl rfl _ _ _ _).1 rfl⟩

/-- A sink that throws leaves the console without a line. -/
theorem log_not_always_printed :
    ¬ ∀ (l : Logger) (level : Level) (message : String)
      (context : Option (List (String × String))) (error : Option ErrorSummary) (w : World),
      l.settings.console = true → l.settings.json = true → level.passes l.level = true →
      ∃ seen line, .printed line ∈ seen ∧
        (exec (l.log level message (context.map Json.record) error) w).2.timeline =
          w.timeline ++ seen := by
  intro h
  let sink : Sink := .refusing "L" (.error none "sink down" none) Level.all
  let l : Logger := .ofSettings ⟨.info, true, true, some sink⟩
  obtain ⟨seen, line, hline, htimeline⟩ := h l .info "m" none none (.initial 0 [0] ∅) rfl rfl rfl
  have hseen : [] = seen := htimeline
  rw [← hseen] at hline
  exact absurd hline List.not_mem_nil

end Logger

end HttpDispatch
