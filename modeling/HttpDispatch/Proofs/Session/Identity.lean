import HttpDispatch.Proofs.Routing.FirstMatch
import HttpDispatch.Session

/-!
# The id of a request

A request gets its trace id in one of two ways.  On a connection it is that of the trace which is
started for the request: an id that the header brings, and a new one where there is none or it is
empty.  Without a connection the header decides by itself, and a new id is made only where there is
no header.

So the two ways agree unless the header is there and empty, and then the request goes without an
id.  The header joins all values that arrived under its name, and a separator is a text already, so
that this is the case exactly if one such header arrived and there are only blanks in it
(`Headers.get?_eq_some_empty_iff`, `Headers.values_of_ofInit?`).

Main statement: `Session.exec_request_traceId_iff`.
-/

namespace HttpDispatch

/-! ### The values of a header -/

namespace HeadersInit

/-- The headers that arrive; the reserved key is no member of a record. -/
def arriving : HeadersInit → List (String × String)
  | list headers => headers
  | record members => members.filter fun m => m.1 != Params.reserved

/-- The values that arrive under a name in small letters, however their own names are spelled. -/
def valuesOf (init : HeadersInit) (name : String) : List String :=
  (init.arriving.filter fun h => Headers.lowerName h.1 == name).map fun h => Headers.trimValue h.2

end HeadersInit

namespace Headers

theorem entry_eq {name value : String} {e : String × String}
    (h : entry? name value = some e) : e = (lowerName name, trimValue value) := by
  rw [ entry?] at h
  split at h
  · exact (Option.some.inj h).symm
  · nomatch h

theorem entries_of_ofList? {arriving : List (String × String)} {headers : Headers}
    (h : ofList? arriving = some headers) :
    headers.entries = arriving.map fun h => (lowerName h.1, trimValue h.2) := by
  obtain ⟨entries, hentries, rfl⟩ := Option.map_eq_some_iff.1 h
  clear h
  induction arriving generalizing entries with
  | nil =>
    cases hentries
    rfl
  | cons a rest ih =>
    rw [List.mapM_cons] at hentries
    obtain ⟨e, he, hentries⟩ := Option.bind_eq_some_iff.1 hentries
    obtain ⟨more, hmore, hentries⟩ := Option.bind_eq_some_iff.1 hentries
    cases hentries
    rw [entry_eq he, List.map_cons, ← ih more hmore]

/-- Headers keep what arrived under a name, without the blanks around it. -/
theorem values_of_ofInit? {init : HeadersInit} {headers : Headers}
    (h : ofInit? init = some headers) (name : String) :
    headers.values name = init.valuesOf name := by
  have hentries : headers.entries =
      init.arriving.map fun h => (lowerName h.1, trimValue h.2) := by
    cases init with
    | list arriving => exact entries_of_ofList? h
    | record members =>
      rw [ofInit?, ofRecord?] at h
      split at h
      · exact entries_of_ofList? h
      · nomatch h
  rw [values, hentries, List.filter_map, List.map_map]
  rfl

theorem separator_ne_empty (name : String) : separator name ≠ "" := by
  rw [separator]
  split <;> decide

/-- A header is empty exactly if it has one value, and this is empty. -/
theorem get?_eq_some_empty_iff (h : Headers) (name : String) :
    h.get? name = some "" ↔ h.values name = [""] := by
  rw [get?]
  cases h.values name with
  | nil => simp
  | cons v rest =>
    cases rest with
    | nil => simp
    | cons v' rest =>
      simp only [String.intercalate_cons_cons, Option.some.injEq, String.append_eq_empty_iff,
        separator_ne_empty]
      simp

end Headers

/-! ### The two ways -/

namespace World

/-- The trace id of a request that takes what the header brings as it is. -/
def ownTraceId (w : World) (given : Option String) : String :=
  given.getD (Trace.makeId w.clock w.nextDraw)

/-- An id that is taken as it is agrees with that of a trace, unless it is empty. -/
theorem ownTraceId_agrees_iff (w : World) (given : Option String) :
    (w.ownTraceId given ≠ "" ∧ w.ownTraceId given = w.traceIdFor given) ↔ given ≠ some "" := by
  constructor
  · rintro ⟨hne, -⟩ rfl
    exact hne rfl
  · intro hgiven
    have heq : w.ownTraceId given = w.traceIdFor given := by
      cases given with
      | none => rfl
      | some id =>
        have hne : id ≠ "" := fun hid => hgiven (congrArg some hid)
        have hbrought : broughtId? (some id) = some id := by simp [broughtId?, hne]
        rw [traceIdFor, hbrought]
        rfl
    exact ⟨heq ▸ w.traceIdFor_ne_empty given, heq⟩

end World

namespace Connection

open Run

/-- A route that takes a request gets it with the id of the trace that is started for it. -/
theorem exists_serves_of_takes {c : Connection} {init : HeadInit} {headers : Headers} {w : World}
    (hh : Headers.ofInit? init.headers = some headers) (io : String)
    (hl : (w.loggers.get c.logger).NeverThrows)
    (ht : ∃ m ∈ c.routes, m.takes init.path init.verb = true) :
    ∃ req : Request, w.Serves (exec (c.call init io) w).2 [req] ∧
      req.traceId = w.traceIdFor (headers.get? RequestHead.traceHeader) := by
  obtain ⟨m, hfind⟩ := Option.isSome_iff_exists.1 (List.find?_isSome.2 ht)
  refine ⟨c.requestFor init headers io w m, ?_, rfl⟩
  rw [exec_call_taken hh hfind (hl _) io]
  exact (onlyLines_announcing c init headers w m).serves.trans (Service.serves_exec_call _ _ _)

end Connection

namespace Session

open Run (startTrace)

/-- A request that brings no id of its own takes what the header brings. -/
theorem exists_exec_request {init : RequestInit} {headers : Headers}
    (hh : Headers.ofInit? init.head.headers = some headers) (hid : init.traceId = none)
    (w : World) :
    ∃ req w₁, (request init).exec w = (.ok req, w₁) ∧
      req.traceId = w.ownTraceId (headers.get? RequestHead.traceHeader) := by
  rw [request, HeadInit.ofInit?_of_valid hh, hid, World.ownTraceId]
  have hgiven : (none <|> (init.head.withHeaders headers).traceId?) =
      headers.get? RequestHead.traceHeader := rfl
  simp only [hgiven]
  cases headers.get? RequestHead.traceHeader with
  | none => exact ⟨_, _, rfl, rfl⟩
  | some id => exact ⟨_, _, rfl, rfl⟩

/-- **When the two ways to an id agree.**  A request with valid headers, to which no id is given,
always comes about, and so does the trace that is started for its header in the same world.  The
request has an id, and the same as the trace, exactly unless only one header of the name arrived and
there is nothing in it but blanks.  Then the request has the empty id, and the trace a new one.  The
id of the trace is the one that a route gets with the request, on any connection where one takes
it. -/
theorem exec_request_traceId_iff {init : RequestInit} {headers : Headers}
    (hh : Headers.ofInit? init.head.headers = some headers) (hid : init.traceId = none)
    (w : World) :
    ∃ req w₁ t w₂, (request init).exec w = (.ok req, w₁) ∧
      (startTrace (headers.get? RequestHead.traceHeader)).exec w = (.ok t, w₂) ∧
      ((req.traceId ≠ "" ∧ req.traceId = t.traceId) ↔
        init.head.headers.valuesOf RequestHead.traceHeader ≠ [""]) ∧
      (init.head.headers.valuesOf RequestHead.traceHeader = [""] →
        req.traceId = "" ∧ t.traceId = Trace.makeId w.clock w.nextDraw) ∧
      ∀ (c : Connection) (io : String), (w.loggers.get c.logger).NeverThrows →
        (∃ m ∈ c.routes, m.takes init.head.path init.head.verb = true) →
        ∃ q : Request, w.Serves ((c.call init.head io).exec w).2 [q] ∧ q.traceId = t.traceId := by
  obtain ⟨req, w₁, hrequest, hown⟩ := exists_exec_request hh hid w
  refine ⟨req, w₁, _, _, hrequest, Run.exec_startTrace _ w, ?_, ?_, ?_⟩
  · rw [hown, ← Headers.values_of_ofInit? hh]
    exact (w.ownTraceId_agrees_iff _).trans (not_congr (headers.get?_eq_some_empty_iff _))
  · intro hblank
    rw [← Headers.values_of_ofInit? hh, ← headers.get?_eq_some_empty_iff] at hblank
    rw [hown, hblank]
    exact ⟨rfl, rfl⟩
  · intro c io hl ht
    exact Connection.exists_serves_of_takes hh io hl ht

/-- A request whose only header is this one. -/
def requestWith (headers : List (String × String)) : RequestInit :=
  ⟨⟨"GET", "/", none, .list headers⟩, ∅, none, default, "c"⟩

/-- Two headers of the name make one id, even if the second is blank. -/
theorem exec_request_traceId_iff_repeated :
    let init := requestWith [("X-Trace-Id", " t-1"), ("x-trace-id", " ")]
    let headers : Headers := ⟨[("x-trace-id", "t-1"), ("x-trace-id", "")]⟩
    Headers.ofInit? init.head.headers = some headers ∧ init.traceId = none ∧
      init.head.headers.valuesOf RequestHead.traceHeader = ["t-1", ""] ∧
      ∃ req w₁ t w₂, (request init).exec (.initial 0 [] ∅) = (.ok req, w₁) ∧
        (startTrace (some "t-1, ")).exec (.initial 0 [] ∅) = (.ok t, w₂) ∧
        req.traceId ≠ "" ∧ req.traceId = t.traceId := by
  intro init headers
  have hh : Headers.ofInit? init.head.headers = some headers := by decide
  have hvalues : init.head.headers.valuesOf RequestHead.traceHeader = ["t-1", ""] := by decide
  obtain ⟨req, w₁, t, w₂, hrequest, htrace, hagree, -⟩ :=
    exec_request_traceId_iff hh rfl (.initial 0 [] ∅)
  have hsome : init.head.headers.valuesOf RequestHead.traceHeader ≠ [""] := by
    rw [hvalues]
    decide
  exact ⟨hh, rfl, hvalues, req, w₁, t, w₂, hrequest, htrace, hagree.2 hsome⟩

/-- The two ways do not always agree: the only header of the name is empty. -/
theorem exec_request_traceId_ne :
    ¬ ∀ (init : RequestInit) (headers : Headers) (w : World) (req : Request) (w₁ : World)
        (t : Trace) (w₂ : World),
      Headers.ofInit? init.head.headers = some headers → init.traceId = none →
      (request init).exec w = (.ok req, w₁) →
      (startTrace (headers.get? RequestHead.traceHeader)).exec w = (.ok t, w₂) →
      req.traceId ≠ "" ∧ req.traceId = t.traceId := by
  intro h
  have hh : Headers.ofInit? (requestWith [("x-trace-id", "")]).head.headers =
      some ⟨[("x-trace-id", "")]⟩ := by decide
  obtain ⟨hne, -⟩ := h _ _ (.initial 0 [] ∅) _ _ _ _ hh rfl rfl (Run.exec_startTrace _ _)
  exact hne rfl

end Session

end HttpDispatch
