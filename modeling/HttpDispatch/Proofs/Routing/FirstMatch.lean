import HttpDispatch.Proofs.Routing.Answer

/-!
# The first route that fits

Main statement: a connection gives a request to the first of its routes that takes it, once, and
otherwise to none (`exec_call_first`).  What the route gets is made of the head alone, and until
then nothing has happened but lines and draws; in particular nothing was written to a transport.
-/

namespace HttpDispatch

/-- Between two worlds, ids were drawn and lines were written, and that is all. -/
def World.OnlyLines (w w' : World) : Prop :=
  ∃ draws seen, (∀ o ∈ seen, o.isLine = true) ∧ w' = (w.drawing draws).observing seen

theorem World.OnlyLines.serves {w w' : World} (h : w.OnlyLines w') : w.Serves w' [] := by
  obtain ⟨draws, seen, hlines, rfl⟩ := h
  exact ⟨seen, rfl, Observation.requests_of_isLine hlines⟩

/-- A request that is made of a head for a route. -/
structure Request.IsFor (req : Request) (init : HeadInit) (m : MountedService)
    (io traceId : String) : Prop where
  method : req.method = Method.normalize init.method
  path : req.path = init.path
  params : m.pattern.params? init.path = some req.params
  query : req.query = (Target.ofString init.uri).query
  traceId : req.traceId = traceId
  io : req.io = io

/-- A report that tells, with these further headers, why no route of a connection takes a
request. -/
structure Report.Refuses (r : Report) (extra : Dict String) (c : Connection) (init : HeadInit)
    (traceId : String) : Prop where
  covered : (∃ m ∈ c.routes, m.covers init.path = true) →
    r.code = .methodNotAllowed ∧ r.status = 405
  uncovered : (∀ m ∈ c.routes, m.covers init.path = false) →
    r.code = .routeNotFound ∧ r.status = 404
  allowed : r.code = .methodNotAllowed → ∃ allowed,
    FirstOccurrences allowed (Connection.methodsAt init.path c.routes) ∧
      r.details = some (.obj [("path", .str init.path), ("method", .str init.verb),
        ("allowed", .texts allowed)]) ∧
      extra.get? "allow" = some (String.intercalate ", " allowed)
  traceId : r.traceId = some traceId

open Run

namespace Service

/-- A service that is called is given the request once. -/
theorem serves_exec_call (s : Service) (req : Request) (w : World) :
    w.Serves (exec (s.call req) w).2 [req] := by
  cases s with
  | route s =>
    rw [exec_call_route, RouteService.exec_call]
    have hhandling : w.Serves (w.afterHandling s.handler req) [req] :=
      ⟨_, rfl, World.requests_seenHandling w s.handler req⟩
    exact hhandling.lines fun o ho => RouteService.isLine_of_mem_seenAfter ho
  | foreign r =>
    rw [exec_call_foreign]
    exact ⟨_, rfl, rfl⟩

end Service

namespace Connection

/-! ### The route that gets the request -/

theorem onlyLines_announcing (c : Connection) (init : HeadInit) (headers : Headers) (w : World)
    (m : MountedService) : w.OnlyLines (c.announcing init headers w m) :=
  ⟨_, _, fun _ ho => Logger.isLine_of_mem_emits ho, rfl⟩

theorem isFor_requestFor (c : Connection) {init : HeadInit} {m : MountedService}
    (hm : m.covers init.path = true) (headers : Headers) (io : String) (w : World) :
    (c.requestFor init headers io w m).IsFor init m io
      (w.traceIdFor (headers.get? RequestHead.traceHeader)) := by
  refine ⟨rfl, rfl, ?_, rfl, rfl, rfl⟩
  obtain ⟨params, hp⟩ := Option.isSome_iff_exists.1 hm
  show _ = some ((m.pattern.params? init.path).getD ∅)
  rw [hp]
  rfl

/-! ### The refusal -/

theorem refuses_refusal (c : Connection) (init : HeadInit) (traceId : String) :
    (c.refusal init.path init.verb traceId).1.Refuses (c.refusal init.path init.verb traceId).2 c
      init traceId := by
  rw [refusal]
  by_cases hany : c.routes.any (·.covers init.path) = true
  · rw [if_pos hany]
    obtain ⟨m, hm, hcov⟩ := List.any_eq_true.1 hany
    refine ⟨fun _ => ⟨rfl, rfl⟩, fun hnone => ?_, fun _ => ?_, rfl⟩
    · exact absurd hcov (by rw [hnone m hm]; decide)
    · exact ⟨_, FirstOccurrences.eraseDups _, rfl, Dict.get?_set_self ..⟩
  · rw [if_neg hany]
    refine ⟨fun hsome => ?_, fun _ => ⟨rfl, rfl⟩, fun hcode => ?_, rfl⟩
    · exact absurd (List.any_eq_true.2 hsome) hany
    · exact absurd hcode (by simp [noRouteReport, Report.make])

theorem serves_refusing (l : Logger) (io path method : String) (refusal : Report × Dict String)
    (w : World) :
    (refusing l io path method refusal w).handlers = w.handlers ∧
      w.Serves (refusing l io path method refusal w) [] := by
  obtain ⟨line, more, hline, hmore, heq⟩ := exists_refusing_eq l io path method refusal w
  obtain ⟨hhandlers, hsent⟩ := serves_sendError io refusal.1 refusal.2 (w.observing line)
  have hwarned : w.Serves (w.observing line) [] := (World.Serves.refl w).lines hline
  rw [heq]
  exact ⟨hhandlers, (hwarned.trans hsent).lines hmore⟩

/-- **The first route that fits gets the request, and gets it once.**  Where a route takes a
request whose headers are valid, the connection only announces it and then is the service of the
first of these routes.  Where none does, no service is run, and the connection refuses the request
with a report that says why. -/
theorem exec_call_first (c : Connection) (init : HeadInit) (io : String) (w : World)
    {headers : Headers} (hh : Headers.ofInit? init.headers = some headers)
    (hl : (w.loggers.get c.logger).NeverThrows) :
    ((∃ m ∈ c.routes, m.takes init.path init.verb = true) →
      ∃ (i : Nat) (m : MountedService) (req : Request) (w₁ : World),
        c.routes[i]? = some m ∧ m.takes init.path init.verb = true ∧
        (∀ j < i, ∀ m', c.routes[j]? = some m' → m'.takes init.path init.verb = false) ∧
        req.IsFor init m io (w.traceIdFor (headers.get? RequestHead.traceHeader)) ∧
        w.OnlyLines w₁ ∧
        exec (c.call init io) w = exec (m.service.call req) w₁ ∧
        w.Serves (exec (c.call init io) w).2 [req]) ∧
    ((∀ m ∈ c.routes, m.takes init.path init.verb = false) →
      ∃ l r extra w₁,
        r.Refuses extra c init (w.traceIdFor (headers.get? RequestHead.traceHeader)) ∧
        w.OnlyLines w₁ ∧
        exec (c.call init io) w =
          exec (do reject l io init.path init.verb r extra; return .undefined) w₁ ∧
        (exec (c.call init io) w).1 = .ok .undefined ∧
        (exec (c.call init io) w).2.handlers = w.handlers ∧
        w.Serves (exec (c.call init io) w).2 []) := by
  constructor
  -- The search gives the first route that takes the request, and with it the place of this route.
  · rintro ⟨m₀, hm₀, ht₀⟩
    obtain ⟨m, hfind⟩ := Option.isSome_iff_exists.1 (List.find?_isSome.2 ⟨m₀, hm₀, ht₀⟩)
    obtain ⟨ht, i, hi, hm, hleast⟩ := List.find?_eq_some_iff_getElem.1 hfind
    have hcov : m.covers init.path = true := (Bool.and_eq_true_iff.1 ht).1
    have hcall := exec_call_taken hh hfind (hl _) io
    have hannounced := onlyLines_announcing c init headers w m
    refine ⟨i, m, c.requestFor init headers io w m, c.announcing init headers w m, ?_, ht, ?_,
      isFor_requestFor c hcov headers io w, hannounced, hcall, ?_⟩
    · rw [List.getElem?_eq_getElem hi, hm]
    · intro j hj m' hm'
      have hj' : j < c.routes.length := Nat.lt_trans hj hi
      rw [List.getElem?_eq_getElem hj', Option.some_inj] at hm'
      have hnot := hleast j hj
      rw [hm'] at hnot
      simpa using hnot
    · rw [hcall]
      exact hannounced.serves.trans (Service.serves_exec_call _ _ _)
  · intro hnone
    have hfind := MountedService.find?_eq_none hnone
    have hcall := exec_call_refused hh hfind io w
    have hrefusing := exec_call_refusing hh hfind hl io
    let given := headers.get? RequestHead.traceHeader
    let l := (w.loggers.get c.logger).child (w.traceFor given)
    let refusal := c.refusal init.path init.verb (w.traceIdFor given)
    let w₁ := w.drawing (World.drawsFor given)
    obtain ⟨hhandlers, hserves⟩ := serves_refusing l io init.path init.verb refusal w₁
    have hdrawing : w.OnlyLines w₁ :=
      ⟨World.drawsFor given, [], fun _ h => absurd h List.not_mem_nil, (World.observing_nil _).symm⟩
    refine ⟨l, refusal.1, refusal.2, w₁, refuses_refusal c init _, hdrawing, hcall, ?_, ?_, ?_⟩
    · rw [hrefusing]
    · rw [hrefusing]
      exact hhandlers
    · rw [hrefusing]
      exact hserves

/-- Two foreign routes on one path, of which only the second accepts anything. -/
def pickyThenOpen : Connection :=
  let route (all : Bool) : ForeignRoute :=
    ⟨"/a", ["GET"], none, none, .ready, some fun _ => all, .returned .undefined⟩
  ⟨[⟨⟨"/a"⟩, .foreign (route false)⟩, ⟨⟨"/a"⟩, .foreign (route true)⟩], ⟨0⟩, ⟨0⟩⟩

/-- A route that fits but does not accept the method is passed over. -/
theorem exec_call_first_pickyThenOpen :
    Headers.ofInit? (.list []) = some ⟨[]⟩ ∧
      (((World.initial 0 [] ∅).loggers.get pickyThenOpen.logger).NeverThrows) ∧
      ∃ req : Request, req.method = "GET" ∧ req.path = "/a" ∧
        (World.initial 0 [] ∅).Serves
          (exec (pickyThenOpen.call ⟨"get", "/a?x=1", none, .list []⟩ "c")
            (World.initial 0 [] ∅)).2 [req] := by
  let init : HeadInit := ⟨"get", "/a?x=1", none, .list []⟩
  let w := World.initial 0 [] ∅
  have hh : Headers.ofInit? init.headers = some ⟨[]⟩ := rfl
  have hl : (w.loggers.get pickyThenOpen.logger).NeverThrows := fun _ => rfl
  have ht : ∃ m ∈ pickyThenOpen.routes, m.takes init.path init.verb = true :=
    ⟨_, List.mem_cons_of_mem _ List.mem_cons_self, by decide⟩
  obtain ⟨i, m, req, w₁, -, -, -, hreq, -, -, hserves⟩ :=
    (exec_call_first pickyThenOpen init "c" w hh hl).1 ht
  exact ⟨hh, hl, req, hreq.method.trans (by decide), hreq.path.trans (by decide), hserves⟩

end Connection

end HttpDispatch
