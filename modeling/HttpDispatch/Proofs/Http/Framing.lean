import HttpDispatch.Proofs.Http.Octets
import HttpDispatch.Proofs.Json.RoundTrip
import HttpDispatch.Proofs.Routing.Answer

/-!
# The response that is received

Main statement: of an error response that reaches its transport, the receiver reads a head of the
lines that were meant, a length that counts the octets of the body, and a body that is the report
of the error, whatever texts the report is made of (`sendError_received`).

The lines of the head know nothing of these texts but how long they are.  In particular the head
with which a connection refuses a request depends on the routes that cover its path, and on nothing
else of the request (`refusalLines`).
-/

namespace HttpDispatch

/-! ### The body -/

theorem ErrorCode.isPlain_status (code : ErrorCode) :
    Json.isPlain (.ofNat code.status) = true := by
  have h404 : Json.isPlain (.ofNat 404) = true := by decide +kernel
  have h405 : Json.isPlain (.ofNat 405) = true := by decide +kernel
  have h500 : Json.isPlain (.ofNat 500) = true := by decide +kernel
  cases code with
  | routeNotFound => exact h404
  | methodNotAllowed => exact h405
  | handlerFailed | serviceInitFailed | connectionClosed | invalidConfig | internalError
  | unknownError => exact h500

theorem Report.isReadable_toResponse {r : Report}
    (h : ∀ d, r.details = some d → d.isReadable = true) (clock : Int) :
    (r.toResponse clock).isReadable = true := by
  have hstatus : Json.isReadable (.nat r.status) = true := r.code.isPlain_status
  rw [toResponse, Json.isReadable, Json.membersReadable, Json.isReadable]
  simp only [Json.membersReadable_append, Json.membersReadable_optional h,
    Json.membersReadable_optionalText, Bool.and_true, Json.membersReadable, Json.isReadable,
    Bool.true_and]
  exact hstatus

namespace Response

theorem oneLine_body (r : Report) (clock : Int) : OneLine (body r clock) :=
  Json.oneLine_render _

/-- The body is read as the report that it was written of. -/
theorem read_body {r : Report} (h : ∀ d, r.details = some d → d.isReadable = true) (clock : Int) :
    ((Utf8.decode? (octets (body r clock))).bind fun cs => Json.read? (String.ofList cs)) =
      some (r.toResponse clock) := by
  rw [octets, Utf8.decode?_encode, Option.bind_some, String.ofList_toList]
  exact Json.read?_render (r.isReadable_toResponse h clock)

/-! ### The head -/

theorem oneLine_headLines {r : Report} {headers : Dict String}
    (h : ∀ e ∈ headers.entries, OneLine e.1 ∧ OneLine e.2) (body : String) :
    ∀ l ∈ headLines r headers body, OneLine l ∧ octets l ≠ [] := by
  have hphrase : OneLine r.code.reasonPhrase := by
    cases r.code <;> decide
  have hne : ∀ {s t u : String}, octets t ≠ [] → octets (s ++ t ++ u) ≠ [] := by
    intro s t u ht
    rw [octets_append, octets_append]
    simp [ht]
  intro l hl
  rw [headLines, List.mem_append] at hl
  rcases hl with hl | hl
  · simp only [List.mem_cons, List.not_mem_nil, or_false] at hl
    rcases hl with rfl | rfl | rfl
    · refine ⟨?_, hne (by decide)⟩
      exact ((OneLine.append (by decide) (oneLine_toString _)).append (by decide)).append hphrase
    · exact ⟨by decide, by decide⟩
    · refine ⟨OneLine.append (by decide) (oneLine_toString _), ?_⟩
      rw [octets_append]
      exact List.append_ne_nil_of_left_ne_nil (by decide) _
  · obtain ⟨e, he, rfl⟩ := List.mem_map.1 hl
    obtain ⟨hname, hvalue⟩ := h e (Dict.mem_listed.1 he)
    exact ⟨(hname.append (by decide)).append hvalue, hne (by decide)⟩

theorem octets_text (r : Report) (headers : Dict String) (clock : Int) :
    octets (text r headers clock) =
      List.intercalate [13, 10] ((headLines r headers (body r clock)).map octets) ++
        13 :: 10 :: 13 :: 10 :: octets (body r clock) := by
  rw [text, octets_append, octets_append, octets_append, octets_intercalate]
  have hend : octets lineEnd = [13, 10] := rfl
  rw [hend]
  simp

/-- Of a response the receiver reads the lines of the head and the body. -/
theorem exists_splitHead?_text {r : Report} {headers : Dict String}
    (h : ∀ e ∈ headers.entries, OneLine e.1 ∧ OneLine e.2) (clock : Int) :
    ∃ head, splitHead? (octets (text r headers clock)) = some (head, octets (body r clock)) ∧
      lines head = (headLines r headers (body r clock)).map octets := by
  have hlines := oneLine_headLines (r := r) h (body r clock)
  have hne : (headLines r headers (body r clock)).map octets ≠ [] := by
    simp [headLines]
  have hmap : ∀ l ∈ (headLines r headers (body r clock)).map octets, 13 ∉ l ∧ l ≠ [] := by
    intro l hl
    obtain ⟨s, hs, rfl⟩ := List.mem_map.1 hl
    exact ⟨(hlines s hs).1.notMem_octets.1, (hlines s hs).2⟩
  refine ⟨_, ?_, lines_intercalate hne fun l hl => (hmap l hl).1⟩
  rw [octets_text, splitHead?_intercalate hne hmap]

end Response

/-! ### The head of a refusal -/

namespace Connection

open Run

/-- The lines of the head with which a request is refused, by the routes that cover its path and
the length of the body. -/
def refusalLines (covering : List MountedService) (length : Nat) : List String :=
  match covering with
  | [] =>
    ["HTTP/1.1 404 Not Found", "content-type: application/json",
      "content-length: " ++ toString length]
  | _ :: _ =>
    ["HTTP/1.1 405 Method Not Allowed", "content-type: application/json",
      "content-length: " ++ toString length,
      "allow: " ++ String.intercalate ", " (covering.flatMap (·.service.methods)).eraseDups]

theorem headLines_noRouteReport (path method traceId body : String) :
    Response.headLines (noRouteReport path method traceId) ∅ body =
      ["HTTP/1.1 404 Not Found", "content-type: application/json",
        "content-length: " ++ toString (octets body).length] := by
  have hstatus : "HTTP/1.1 " ++ toString (404 : Nat) ++ " " ++ "Not Found" =
      "HTTP/1.1 404 Not Found" := by decide
  rw [← hstatus]
  show _ ++ (Dict.empty : Dict String).listed.map _ = _
  rw [Dict.listed_empty]
  rfl

theorem headLines_notAllowedReport (path method traceId body : String) (allowed : List String) :
    Response.headLines (notAllowedReport path method traceId allowed)
        (Dict.ofList [("allow", String.intercalate ", " allowed)]) body =
      ["HTTP/1.1 405 Method Not Allowed", "content-type: application/json",
        "content-length: " ++ toString (octets body).length,
        "allow: " ++ String.intercalate ", " allowed] := by
  have hstatus : "HTTP/1.1 " ++ toString (405 : Nat) ++ " " ++ "Method Not Allowed" =
      "HTTP/1.1 405 Method Not Allowed" := by decide
  rw [← hstatus]
  show _ ++ (Dict.ofList [("allow", _)]).listed.map _ = _
  rw [Dict.listed_singleton (by decide)]
  rfl

theorem headLines_refusal (c : Connection) (path method traceId body : String) :
    Response.headLines (c.refusal path method traceId).1 (c.refusal path method traceId).2 body =
      refusalLines (c.routes.filter (·.covers path)) (octets body).length := by
  rw [refusal]
  cases hf : c.routes.filter (·.covers path) with
  | nil =>
    have hany : ¬ c.routes.any (·.covers path) = true := by
      intro h
      obtain ⟨m, hm, hcov⟩ := List.any_eq_true.1 h
      have hmem := List.mem_filter.2 ⟨hm, hcov⟩
      rw [hf] at hmem
      exact absurd hmem List.not_mem_nil
    rw [if_neg hany, headLines_noRouteReport, refusalLines]
  | cons m rest =>
    have hmem : m ∈ c.routes.filter (·.covers path) := hf ▸ List.mem_cons_self
    have hany : c.routes.any (·.covers path) = true :=
      List.any_eq_true.2 ⟨m, List.mem_filter.1 hmem⟩
    rw [if_pos hany, headLines_notAllowedReport, methodsAt, hf, refusalLines]

theorem oneLine_allow {allowed : List String} (h : ∀ x ∈ allowed, OneLine x) :
    ∀ e ∈ (Dict.ofList [("allow", String.intercalate ", " allowed)]).entries,
      OneLine e.1 ∧ OneLine e.2 := by
  intro e he
  obtain rfl := List.mem_singleton.1 he
  have hname : OneLine "allow" := by decide
  exact ⟨hname, OneLine.intercalate (by decide) h⟩

theorem oneLine_refusal {c : Connection} (h : ∀ m ∈ c.routes, ∀ x ∈ m.service.methods, OneLine x)
    (path method traceId : String) :
    ∀ e ∈ (c.refusal path method traceId).2.entries, OneLine e.1 ∧ OneLine e.2 := by
  rw [refusal]
  split
  · refine oneLine_allow fun x hx => ?_
    obtain ⟨m, hm, hxm⟩ := List.mem_flatMap.1 (List.mem_eraseDups.1 hx)
    exact h m (List.mem_filter.1 hm).1 x hxm
  · exact fun _ he => absurd he List.not_mem_nil

theorem output_refusing {io : String} {w : World} (h : (w.transport io).Accepts) (l : Logger)
    (path method : String) (refusal : Report × Dict String) :
    ((refusing l io path method refusal w).transport io).output =
      (w.transport io).written ++ Response.text refusal.1 refusal.2 w.clock := by
  obtain ⟨line, more, -, -, heq⟩ := exists_refusing_eq l io path method refusal w
  rw [heq, World.transport_observing]
  exact output_sendError (w := w.observing line) h refusal.1 refusal.2

end Connection

/-! ### The whole way -/

open Run

/-- **An error response is received as it was meant**, if its transport is open and accepts it.
The first empty line divides what was written into the head and the body: the lines of the head are
the status line, two lines about the body with the number of its octets, and one line for each
further header, and the body holds the report, texts and all.  A connection refuses a request with
a head that only the routes that cover its path and the length of the body decide. -/
theorem sendError_received {io : String} {w : World} (ha : (w.transport io).Accepts) :
    (∀ (message : String) (code : ErrorCode) (details : Option Json)
        (suggestion traceId : Option String) (headers : Dict String) (r : Report),
      r = Report.make message code details suggestion traceId →
      (∀ d, details = some d → d.isReadable = true) →
      (∀ e ∈ headers.entries, OneLine e.1 ∧ OneLine e.2) →
      ∃ (text : String) (head body : List UInt8),
        ((exec (sendError io r headers) w).2.transport io).output =
          (w.transport io).written ++ text ∧
        splitHead? (octets text) = some (head, body) ∧
        lines head =
          (["HTTP/1.1 " ++ toString code.status ++ " " ++ code.reasonPhrase,
              "content-type: application/json", "content-length: " ++ toString body.length] ++
            headers.listed.map fun e => e.1 ++ ": " ++ e.2).map octets ∧
        headers.listed.Perm headers.entries ∧
        (13 ∉ body ∧ 10 ∉ body) ∧
        ((Utf8.decode? body).bind fun cs => Json.read? (String.ofList cs)) =
          some ((Report.make r.message r.code r.details r.suggestion r.traceId).toResponse
            w.clock)) ∧
    ∀ (c : Connection) (init : HeadInit) (headers : Headers),
      Headers.ofInit? init.headers = some headers →
      (w.loggers.get c.logger).NeverThrows →
      (∀ m ∈ c.routes, m.takes init.path init.verb = false) →
      (∀ m ∈ c.routes, ∀ x ∈ m.service.methods, OneLine x) →
      ∃ (text : String) (head body : List UInt8),
        ((exec (c.call init io) w).2.transport io).output = (w.transport io).written ++ text ∧
        splitHead? (octets text) = some (head, body) ∧
        lines head =
          (Connection.refusalLines (c.routes.filter (·.covers init.path)) body.length).map
            octets := by
  constructor
  · intro message code details suggestion traceId headers r hr hd hh
    have hcode : r.code = code := hr ▸ rfl
    have hdetails : r.details = details := hr ▸ rfl
    obtain ⟨head, hsplit, hlines⟩ := Response.exists_splitHead?_text (r := r) hh w.clock
    refine ⟨_, head, _, output_sendError ha r headers, hsplit, ?_, headers.listed_perm,
      (Response.oneLine_body r w.clock).notMem_octets, ?_⟩
    · rw [hlines, ← hcode]
      rfl
    · rw [Report.make_eq_self r hr]
      exact Response.read_body (hdetails ▸ hd) w.clock
  · intro c init headers hh hl hnone hmethods
    let given := headers.get? RequestHead.traceHeader
    let refusal := c.refusal init.path init.verb (w.traceIdFor given)
    have hfind := MountedService.find?_eq_none hnone
    obtain ⟨head, hsplit, hlines⟩ := Response.exists_splitHead?_text (r := refusal.1)
      (Connection.oneLine_refusal hmethods init.path init.verb (w.traceIdFor given)) w.clock
    refine ⟨_, head, _, ?_, hsplit, ?_⟩
    · rw [Connection.exec_call_refusing hh hfind hl]
      exact Connection.output_refusing (w := w.drawing (World.drawsFor given)) ha _ _ _ refusal
    · rw [hlines, Connection.headLines_refusal]

/-- What a message and details hold of line ends is not seen in the head. -/
theorem sendError_received_injection :
    ((World.initial 0 [] ∅).transport "c").Accepts ∧
      ∃ (text : String) (head body : List UInt8),
        ((exec (sendError "c"
            (.make "a\r\n\r\nb" .methodNotAllowed
              (some (.obj [("path", .str "\r\n\r\n"), ("allowed", .texts ["GET", "\""])])) none none)
            (Dict.ofList [("allow", "GET")])) (World.initial 0 [] ∅)).2.transport "c").output =
          "" ++ text ∧
        splitHead? (octets text) = some (head, body) ∧ 13 ∉ body ∧ (lines head).length = 4 := by
  have ha : ((World.initial 0 [] ∅).transport "c").Accepts := by
    refine ⟨rfl, ?_⟩
    rintro message ⟨⟩
  have hreceived := (sendError_received ha).1 "a\r\n\r\nb" .methodNotAllowed
    (some (.obj [("path", .str "\r\n\r\n"), ("allowed", .texts ["GET", "\""])])) none none
    (Dict.ofList [("allow", "GET")]) _ rfl
  have hreadable : (Json.obj [("path", .str "\r\n\r\n"),
      ("allowed", .texts ["GET", "\""])]).isReadable = true := by
    refine Json.isReadable_members fun m hm => ?_
    simp only [List.mem_cons, List.not_mem_nil, or_false] at hm
    rcases hm with rfl | rfl
    · exact .inl ⟨_, rfl⟩
    · exact .inr ⟨_, rfl⟩
  obtain ⟨text, head, body, hout, hsplit, hlines, -, hbody, -⟩ :=
    hreceived (fun d hd => Option.some.inj hd ▸ hreadable) (by decide)
  refine ⟨ha, text, head, body, hout, hsplit, hbody.1, ?_⟩
  rw [hlines, List.length_map, Dict.listed_singleton (by decide)]
  rfl

end HttpDispatch
