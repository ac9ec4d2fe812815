import HttpDispatch.Proofs.Failure.Display
import HttpDispatch.Proofs.Http.Octets
import HttpDispatch.Proofs.Log.Fallback
import HttpDispatch.Proofs.Routing.Report

/-!
# Failures in one line

The text by which a value is reported is made of fixed words and of texts that the value brings
along: messages and names of errors, descriptions of symbols, tags, and texts themselves.  Nothing
is escaped in it, so that it is one line exactly if all of these are (`Value.oneLine_display_iff`).

A service puts this text into the line that it logs about a failed handler.  The rest of the line is
the time, the trace of the logger and a context in JSON, in which line ends are escaped.

Main statement: `RouteService.exec_call_oneLine_iff`.
-/

namespace HttpDispatch

namespace Value

/-- What the value converts to has this text of its own in it. -/
inductive Carries : Value → String → Prop
  | text (s : String) : Carries (.text s) s
  | item {items : List Value} {v : Value} {t : String} :
      v ∈ items → Carries v t → Carries (.array items) t
  | tag (t : String) : Carries (.object (some t)) t
  | commonTag (toPrimitive : Option (Conversion Value)) (t : String) :
      Carries (.selfConverting none toPrimitive (some t)) t
  | first {v : Value} {t : String} (toPrimitive : Option (Conversion Value))
      (tag : Option String) : v.isPrimitive = true → Carries v t →
      Carries (.selfConverting (some (.yields v)) toPrimitive tag) t
  | second {o v : Value} {t : String} (tag : Option String) :
      o.isPrimitive = false → v.isPrimitive = true → Carries v t →
      Carries (.selfConverting (some (.yields o)) (some (.yields v)) tag) t
  | errorName (name message : String) (stack : Option String) :
      Carries (.error (some name) message stack) name
  | errorMessage (ownName : Option String) (message : String) (stack : Option String) :
      Carries (.error ownName message stack) message
  | platformName (name : String) : Carries (.platformError name) name
  | faultMessage (r : Report) (cause : Value) : Carries (.fault r cause) r.message

/-- The tag of an object, unless it has the common one. -/
def ownTag? : Value → Option String
  | object t | bare t | selfConverting _ _ t => t
  | _ => none

/-- The text by which the value is reported has this text of its own in it: the message of an error,
the description of a symbol, what stands in the text that it converts to, or else its tag. -/
inductive Brings : Value → String → Prop
  | message {v : Value} {m : String} : v.message? = some m → Brings v m
  | description (d : String) : Brings (.symbol (some d)) d
  | converted {v : Value} {s t : String} :
      v.message? = none → Converts v s → Carries v t → Brings v t
  | failed {v : Value} {t : String} : Fails v → v.ownTag? = some t → Brings v t

/-! ### What a value converts to -/

theorem oneLine_tagged {tag : String} : OneLine (tagged tag) ↔ OneLine tag := by
  have hopen : OneLine "[object " := by decide
  have hclose : OneLine "]" := by decide
  rw [tagged, OneLine.append_iff, OneLine.append_iff]
  exact ⟨fun h => h.1.2, fun h => ⟨⟨hopen, h⟩, hclose⟩⟩

theorem oneLine_number (x : Number) : OneLine x.text := by
  refine OneLine.of_printable fun c hc => ?_
  rw [Number.text, String.toList_ofList] at hc
  exact Number.toNat_of_mem_chars hc

theorem oneLine_bigint (n : Int) : OneLine (toString n) := by
  cases n with
  | ofNat n => exact oneLine_toString n
  | negSucc n => exact OneLine.append (by decide) (oneLine_toString (n + 1))

/-- The headline of an error is one line exactly if its name and its message are. -/
theorem oneLine_headline {name message : String} :
    OneLine (Report.headline name message) ↔ OneLine name ∧ OneLine message := by
  have hempty : OneLine "" := by decide
  have hcolon : OneLine ": " := by decide
  rw [Report.headline]
  split
  · next h => rw [h]; exact (and_iff_left hempty).symm
  · split
    · next h => rw [h]; exact (and_iff_right hempty).symm
    · rw [OneLine.append_iff, OneLine.append_iff, and_iff_left hcolon]

/-- An optional text is one line together with the word that stands for it. -/
theorem oneLine_getD {t : Option String} {word : String} (h : OneLine word) :
    OneLine (t.getD word) ↔ ∀ s, t = some s → OneLine s := by
  cases t with
  | none => exact ⟨fun _ => nofun, fun _ => h⟩
  | some s => exact ⟨fun hs _ hsome => Option.some.inj hsome ▸ hs, fun hall => hall s rfl⟩

theorem oneLine_object {tag : Option String} :
    OneLine (tagged (tag.getD "Object")) ↔ ∀ t, tag = some t → OneLine t :=
  oneLine_tagged.trans (oneLine_getD (by decide))

theorem IsNothing.not_carries {v : Value} (h : v.IsNothing) {t : String} : ¬ Carries v t := by
  cases h <;> nofun

/-- What a value converts to is one line exactly if the texts of its own in it are. -/
theorem Converts.oneLine_iff {v : Value} {s : String} (h : Converts v s) :
    OneLine s ↔ ∀ t, Carries v t → OneLine t := by
  induction h with
  | undefined | null | yes | no => exact ⟨fun _ _ ht => (nomatch ht), fun _ => by decide⟩
  | text s => exact ⟨fun hs _ (.text _) => hs, fun hall => hall s (.text s)⟩
  | number x => exact ⟨fun _ _ ht => (nomatch ht), fun _ => oneLine_number x⟩
  | bigint n => exact ⟨fun _ _ ht => (nomatch ht), fun _ => oneLine_bigint n⟩
  | @array items hnothing _ ih =>
    rw [OneLine.intercalate_iff (by decide), List.forall_mem_map]
    constructor
    · rintro hall t (_ | ⟨hv, ht⟩)
      obtain ⟨item, hitem, rfl⟩ := List.mem_map.1 hv
      have hsome : ¬ item.1.IsNothing := fun h => h.not_carries ht
      exact (ih item hitem hsome).1 (hall item hitem) t ht
    · intro hall item hitem
      by_cases h : item.1.IsNothing
      · rw [hnothing item hitem h]
        decide
      · exact (ih item hitem h).2 fun t ht => hall t (.item (List.mem_map_of_mem hitem) ht)
  | object tag =>
    refine oneLine_object.trans ⟨?_, ?_⟩
    · rintro hall t ⟨⟩
      exact hall t rfl
    · rintro hall t rfl
      exact hall t (.tag t)
  | common toPrimitive tag =>
    refine oneLine_object.trans ⟨?_, ?_⟩
    · rintro hall t ⟨⟩
      exact hall t rfl
    · rintro hall t rfl
      exact hall t (.commonTag toPrimitive t)
  | first toPrimitive tag hv _ ih =>
    refine ih.trans ⟨?_, fun hall t ht => hall t (.first toPrimitive tag hv ht)⟩
    intro hall t ht
    cases ht with
    | first _ _ _ ht => exact hall t ht
    | second _ ho => nomatch hv.symm.trans ho
  | second tag ho hv _ ih =>
    refine ih.trans ⟨?_, fun hall t ht => hall t (.second tag ho hv ht)⟩
    intro hall t ht
    cases ht with
    | first _ _ ho' => nomatch ho.symm.trans ho'
    | second _ _ _ ht => exact hall t ht
  | inert => exact ⟨fun _ _ ht => (nomatch ht), fun _ => by decide⟩
  | error ownName message stack =>
    rw [oneLine_headline, oneLine_getD (by decide)]
    constructor
    · rintro ⟨hname, hmessage⟩ t ht
      cases ht with
      | errorName => exact hname t rfl
      | errorMessage => exact hmessage
    · intro hall
      refine ⟨?_, hall message (.errorMessage ownName message stack)⟩
      rintro name rfl
      exact hall name (.errorName name message stack)
  | platformError name =>
    exact ⟨fun hname _ (.platformName _) => hname, fun hall => hall name (.platformName name)⟩
  | fault r cause =>
    have hname : OneLine Report.errorName := by decide
    rw [oneLine_headline, and_iff_right hname]
    exact ⟨fun hr _ (.faultMessage _ _) => hr, fun hall => hall _ (.faultMessage r cause)⟩

/-! ### What is reported -/

theorem brings_iff_of_message? {v : Value} {m t : String} (h : v.message? = some m) :
    Brings v t ↔ t = m := by
  constructor
  · intro ht
    cases ht with
    | message hm => exact Option.some.inj (hm.symm.trans h)
    | description => nomatch h
    | converted hnone => nomatch h.symm.trans hnone
    | failed hfails => nomatch h.symm.trans hfails.message?_eq
  · rintro rfl
    exact .message h

theorem brings_iff_of_converts {v : Value} {s t : String} (h : v.message? = none)
    (hs : Converts v s) : Brings v t ↔ Carries v t := by
  refine ⟨fun ht => ?_, .converted h hs⟩
  cases ht with
  | message hm => nomatch h.symm.trans hm
  | description => nomatch hs
  | converted _ _ ht => exact ht
  | failed hfails => nomatch hfails.text?_eq.symm.trans hs.text?_eq

theorem brings_iff_of_fails {v : Value} {t : String} (h : Fails v) :
    Brings v t ↔ v.ownTag? = some t := by
  refine ⟨fun ht => ?_, .failed h⟩
  cases ht with
  | message hm => nomatch h.message?_eq.symm.trans hm
  | description => nomatch h
  | converted _ hs => nomatch h.text?_eq.symm.trans hs.text?_eq
  | failed _ ht => exact ht

theorem Fails.oneLine_iff {v : Value} (h : Fails v) :
    OneLine (tagged v.tag) ↔ ∀ t, v.ownTag? = some t → OneLine t := by
  cases h with
  | bare | breaks | onlyObjects => exact oneLine_object
  | symbolItem | item =>
    have harray : OneLine (tagged "Array") := by decide
    exact ⟨fun _ => nofun, fun _ => harray⟩

/-- The text by which a value is reported is one line exactly if the texts of its own in it are. -/
theorem Displays.oneLine_iff {v : Value} {s : String} (h : Displays v s) :
    OneLine s ↔ ∀ t, Brings v t → OneLine t := by
  cases h with
  | error hm =>
    simp only [brings_iff_of_message? hm]
    exact forall_eq.symm
  | text =>
    simp only [brings_iff_of_converts rfl (.text s)]
    exact (Converts.text s).oneLine_iff
  | converted hm hs =>
    cases hs with
    | symbol d =>
      have hopen : OneLine "Symbol(" := by decide
      have hclose : OneLine ")" := by decide
      rw [OneLine.append_iff, OneLine.append_iff, and_iff_right hopen, and_iff_left hclose,
        oneLine_getD (by decide)]
      constructor
      · intro hall t ht
        cases ht with
        | message hm => nomatch hm
        | description => exact hall t rfl
        | converted _ hs => nomatch hs
        | failed hfails => nomatch hfails
      · rintro hall t rfl
        exact hall t (.description t)
    | converts hs =>
      simp only [brings_iff_of_converts hm hs]
      exact hs.oneLine_iff
  | failed hfails =>
    simp only [brings_iff_of_fails hfails]
    exact hfails.oneLine_iff

theorem oneLine_display_iff (v : Value) : OneLine v.display ↔ ∀ t, v.Brings t → OneLine t :=
  v.displays_display.oneLine_iff

end Value

/-! ### What is logged -/

theorem Timestamp.oneLine_text (milliseconds : Int) : OneLine (text milliseconds) :=
  ⟨notMem_text rfl (by decide) milliseconds, notMem_text rfl (by decide) milliseconds⟩

namespace Entry

theorem oneLine_contextText (e : Entry) : OneLine e.contextText := by
  rw [contextText]
  split
  · split
    · decide
    · exact OneLine.append (by decide) (Json.oneLine_render _)
  · decide

theorem oneLine_traceText {e : Entry} (h : ∀ id, e.traceId = some id → OneLine id) :
    OneLine e.traceText := by
  rw [traceText]
  split
  · next id hid =>
    split
    · decide
    · exact (OneLine.append (by decide) (h id hid)).append (by decide)
  · decide

/-- Of the text of an entry, only the message may have line ends in it, and the trace. -/
theorem oneLine_text_iff {e : Entry} (htime : OneLine e.timestamp)
    (hid : ∀ id, e.traceId = some id → OneLine id) : OneLine e.text ↔ OneLine e.message := by
  have hcolour : OneLine (colour e.level) := by cases e.level <;> decide
  have hheading : OneLine e.level.heading := by cases e.level <;> decide
  have hbefore : OneLine (colour e.level ++ "[" ++ e.timestamp ++ "] " ++ e.level.heading ++ ":" ++
      e.traceText ++ " ") :=
    (((((hcolour.append (by decide)).append htime).append (by decide)).append hheading).append
      (by decide)).append (oneLine_traceText hid) |>.append (by decide)
  have hend : OneLine colourEnd := by decide
  rw [text_eq, OneLine.append_iff, OneLine.append_iff, OneLine.append_iff, and_iff_left hend,
    and_iff_left e.oneLine_contextText, and_iff_right hbefore]

end Entry

/-- The text of what goes to the console or, less the value that comes with it, to the error
console. -/
def Observation.onConsole? : Observation → Option String
  | printed line => some line
  | complained message _ => some message
  | logged _ _ | event _ => none

namespace RouteService

open Run

theorem onConsole?_seenHandling (w : World) (r : Ref Handler) (req : Request) :
    (w.seenHandling r req).filterMap Observation.onConsole? = [] := by
  rw [List.filterMap_eq_nil_iff]
  intro o ho
  obtain ⟨e, rfl⟩ := Observation.eq_event_of_isLine (World.isLine_of_mem_seenHandling ho)
  rfl

/-- The text of the report about a failure, on a console that shows texts. -/
def consoleText (l : Logger) (clock : Int) (req : Request) (v : Value) : String :=
  match l.throws? (failureEntry l clock req v) with
  | none => (failureEntry l clock req v).text
  | some _ => failureMessage v.display

theorem onConsole?_seenReport {l : Logger} (hconsole : l.settings.console = true)
    (hjson : l.settings.json = false) (clock : Int) (req : Request) (v : Value) :
    (seenReport l clock req v).filterMap Observation.onConsole? =
      [consoleText l clock req v] := by
  rw [seenReport, consoleText]
  cases l.throws? (failureEntry l clock req v) with
  | some thrown => rfl
  | none =>
    simp only [Logger.shows, hconsole, hjson]
    cases l.settings.sink <;> rfl

theorem oneLine_failureMessage {text : String} : OneLine (failureMessage text) ↔ OneLine text := by
  have hstart : OneLine "Error in request handler: " := by decide
  exact OneLine.append_iff.trans (and_iff_right hstart)

theorem oneLine_consoleText {l : Logger}
    (hid : ∀ id, l.trace.map Trace.traceId = some id → OneLine id) (clock : Int) (req : Request)
    (v : Value) : OneLine (consoleText l clock req v) ↔ OneLine v.display := by
  rw [consoleText]
  cases l.throws? (failureEntry l clock req v) with
  | some thrown => exact oneLine_failureMessage
  | none =>
    let e := failureEntry l clock req v
    have htime : e.timestamp = Timestamp.text clock := rfl
    have hmessage : e.message = failureMessage v.display := rfl
    have htext : OneLine e.text ↔ OneLine e.message :=
      Entry.oneLine_text_iff (htime ▸ Timestamp.oneLine_text clock) hid
    exact htext.trans (hmessage ▸ oneLine_failureMessage)

/-- **When a failure is one line.**  The text by which a value is reported is one line exactly if
all texts are that the value brings into it.  A handler that fails with the value, in whatever way,
puts one text on the console of a service that logs texts, and this is one line exactly if the text
of the value is.  The path of the request makes no difference, and the trace of the logger none as
long as its id is one line. -/
theorem exec_call_oneLine_iff (v : Value) :
    (OneLine v.display ↔ ∀ t, v.Brings t → OneLine t) ∧
    ∀ (s : RouteService) (req : Request) (w : World),
      (w.outcomeOf s.handler req).settle = .error v →
      (w.loggers.get s.logger).settings.console = true →
      (w.loggers.get s.logger).settings.json = false →
      (∀ id, (w.loggers.get s.logger).trace.map Trace.traceId = some id → OneLine id) →
      ∃ text, w.Yields Observation.onConsole? (exec (s.call req) w).2 [text] ∧
        (OneLine text ↔ OneLine v.display) := by
  refine ⟨v.oneLine_display_iff, fun s req w hfails hconsole hjson hid => ?_⟩
  generalize hl : w.loggers.get s.logger = l at hconsole hjson hid
  refine ⟨consoleText l w.clock req v, ?_, oneLine_consoleText hid w.clock req v⟩
  refine ⟨w.seenHandling s.handler req ++ seenReport l w.clock req v, ?_, ?_⟩
  · rw [exec_call, hfails, hl, World.timeline_observing, World.timeline_afterHandling,
      List.append_assoc]
    rfl
  · rw [List.filterMap_append, onConsole?_seenHandling, onConsole?_seenReport hconsole hjson]
    rfl

/-- A list that holds an error and a text. -/
def errorAndText : Value := .array [.error none "a" none, .text "b"]

/-- A service whose handler rejects its promise with that list, and a logger for the console. -/
def rejectingWorld : World :=
  let reject : Script := ⟨"reject", none, 0, none, [], [.rejected errorAndText]⟩
  { World.initial 0 [] ∅ with
    handlers := ⟨[.ofScript reject]⟩
    loggers := ⟨[.ofSettings .default]⟩ }

/-- A list of an error and a text is reported in one line, on the console too. -/
theorem exec_call_oneLine_iff_rejecting :
    let s : RouteService := ⟨⟨0⟩, [], ⟨0⟩⟩
    let req : Request := ⟨⟨"GET", "/a", "HTTP/1.1", ⟨[]⟩⟩, ∅, "t-1", ⟨0⟩, "c"⟩
    (rejectingWorld.outcomeOf s.handler req).settle = .error errorAndText ∧
      errorAndText.display = "Error: a,b" ∧
      (rejectingWorld.loggers.get s.logger).settings.console = true ∧
      (rejectingWorld.loggers.get s.logger).settings.json = false ∧
      ∃ text, rejectingWorld.Yields Observation.onConsole? (exec (s.call req) rejectingWorld).2
        [text] ∧ OneLine text := by
  intro s req
  have hfails : (rejectingWorld.outcomeOf s.handler req).settle = .error errorAndText := rfl
  obtain ⟨-, hconsole⟩ := exec_call_oneLine_iff errorAndText
  obtain ⟨text, hyields, hline⟩ := hconsole s req rejectingWorld hfails rfl rfl nofun
  have hdisplay : errorAndText.display = "Error: a,b" := rfl
  exact ⟨hfails, hdisplay, rfl, rfl, text, hyields, hline.2 (hdisplay ▸ by decide)⟩

end RouteService

/-- Not every value is reported in one line: an error has a message of two lines. -/
theorem Value.not_oneLine_display : ¬ ∀ v : Value, OneLine v.display := by
  intro h
  have hline : OneLine (Value.error none "a\nb" none).display := h _
  exact absurd hline (by decide)

end HttpDispatch
