import HttpDispatch.Proofs.Routing.Activation
import HttpDispatch.Proofs.Routing.FirstMatch
import HttpDispatch.Proofs.Text.UpperCase

/-!
# The methods that are allowed

A request that is answered with a list of allowed methods may be sent again with another method.
Main statement (`allow_exact`): the list tells exactly with which methods this helps.  A method in
the list gets the request to a handler, and any other one gets the same list again.

A route that lists no methods accepts all of them, so it is never among the routes whose methods
are listed: it would have taken the request.  The method is put into canonical form by the head and
once more by the route that is asked, which makes no difference (`Method.normalize_normalize`).
-/

namespace HttpDispatch

theorem FirstOccurrences.nodup {kept all : List String} (h : FirstOccurrences kept all) :
    kept.Nodup := by
  refine h.ordered.imp ?_
  rintro x _ hlt rfl
  exact Nat.lt_irrefl _ hlt

namespace HeadInit

/-- The same head with another method. -/
def withMethod (init : HeadInit) (token : String) : HeadInit := { init with method := token }

end HeadInit

/-- A route service takes what its pattern covers, with every method that it lists, and with every
method at all if it lists none. -/
theorem MountedService.takes_normalize {m : MountedService} {s : RouteService}
    (hs : m.service = .route s) {path token : String} :
    m.takes path (Method.normalize token) = true ↔
      m.covers path = true ∧ (s.methods = [] ∨ Method.normalize token ∈ s.methods) := by
  rw [takes, Bool.and_eq_true, hs, Service.accepts, RouteService.accepts, Method.accepts_iff,
    Method.normalize_normalize]

open Run

namespace Connection

theorem mem_methodsAt {path x : String} {routes : List MountedService} :
    x ∈ methodsAt path routes ↔
      ∃ m ∈ routes, m.covers path = true ∧ x ∈ m.service.methods := by
  simp only [methodsAt, List.mem_flatMap, List.mem_filter, and_assoc]

/-- A method is not allowed where some route covers the path, but none takes the request. -/
theorem dispatch_eq_notAllowed {path method : String} {routes : List MountedService}
    {methods : List String} :
    dispatch path method routes = .notAllowed methods ↔
      routes.find? (·.takes path method) = none ∧ routes.any (·.covers path) = true ∧
        methods = methodsAt path routes := by
  rw [dispatch_eq]
  cases routes.find? (·.takes path method) with
  | some m => simp
  | none =>
    by_cases hany : routes.any (·.covers path) = true
    · simp [hany, eq_comm]
    · simp [hany]

/-- A connection of route services: it routes by the methods that they list. -/
def OnlyRoutes (c : Connection) : Prop := ∀ m ∈ c.routes, ∃ s, m.service = .route s

section Methods

variable {c : Connection} {path token : String}

/-- A method that is listed for a path finds a route that takes it. -/
theorem OnlyRoutes.exists_takes (hc : c.OnlyRoutes)
    (h : Method.normalize token ∈ methodsAt path c.routes) :
    ∃ m, c.routes.find? (·.takes path (Method.normalize token)) = some m := by
  obtain ⟨m, hm, hcovers, hmethod⟩ := mem_methodsAt.1 h
  obtain ⟨s, hs⟩ := hc m hm
  rw [hs] at hmethod
  have htakes : m.takes path (Method.normalize token) = true :=
    (MountedService.takes_normalize hs).2 ⟨hcovers, .inr hmethod⟩
  exact Option.isSome_iff_exists.1 (List.find?_isSome.2 ⟨m, hm, htakes⟩)

/-- Where one method is not allowed, all routes that cover the path list methods. -/
theorem OnlyRoutes.methods_ne_nil (hc : c.OnlyRoutes)
    (h : c.routes.find? (·.takes path (Method.normalize token)) = none) {m : MountedService}
    (hm : m ∈ c.routes) (hcovers : m.covers path = true) : m.service.methods ≠ [] := by
  obtain ⟨s, hs⟩ := hc m hm
  rw [hs]
  intro hnil
  have htakes : m.takes path (Method.normalize token) = true :=
    (MountedService.takes_normalize hs).2 ⟨hcovers, .inl hnil⟩
  have hnot := List.find?_eq_none.1 h m hm
  exact hnot htakes

/-- Where one method is not allowed, a route takes exactly the methods that are listed. -/
theorem OnlyRoutes.find?_eq_none_iff (hc : c.OnlyRoutes) {refused : String}
    (h : c.routes.find? (·.takes path (Method.normalize refused)) = none) :
    c.routes.find? (·.takes path (Method.normalize token)) = none ↔
      Method.normalize token ∉ methodsAt path c.routes := by
  constructor
  · intro hnone hmem
    obtain ⟨m, hm⟩ := hc.exists_takes hmem
    rw [hnone] at hm
    nomatch hm
  · intro hmem
    rw [List.find?_eq_none]
    intro m hm htakes
    obtain ⟨s, hs⟩ := hc m hm
    obtain ⟨hcovers, hmethods⟩ := (MountedService.takes_normalize hs).1 htakes
    have hne := hc.methods_ne_nil h hm hcovers
    rw [hs] at hne
    have hlisted : Method.normalize token ∈ s.methods := hmethods.resolve_left hne
    exact hmem (mem_methodsAt.2 ⟨m, hm, hcovers, by rwa [hs]⟩)

end Methods

/-! ### What becomes of the request -/

/-- A connection answers requests with this head by the list of the methods that are allowed:
with the list in the report and in a header, on any transport and in any world.  What is logged and
received then is told by `RefusesMethod.received`. -/
def RefusesMethod (c : Connection) (init : HeadInit) (headers : Headers) (allowed : List String) :
    Prop :=
  ∀ (io : String) (w : World),
    let given := headers.get? RequestHead.traceHeader
    exec (c.call init io) w =
      exec (refuse ((w.loggers.get c.logger).child (w.traceFor given)) io init.path init.verb
          (notAllowedReport init.path init.verb (w.traceIdFor given) allowed,
            Dict.ofList [("allow", String.intercalate ", " allowed)]))
        (w.drawing (World.drawsFor given))

/-- A connection gives requests with this head to a route service, after one line of its own.  If
the sink does not throw on that line, the handler of the service is run, once, and no other. -/
structure HandsTo (c : Connection) (init : HeadInit) (headers : Headers) (m : MountedService)
    (s : RouteService) : Prop where
  mounted : m ∈ c.routes
  route : m.service = .route s
  call : ∀ (io : String) (w : World), exec (c.call init io) w =
    exec (do
        (c.spanLogger headers w).debug (init.verb ++ " " ++ init.path)
          (some (.obj [("pattern", .str m.pattern.source)]))
        m.service.call (c.requestFor init headers io w m))
      (w.drawing (World.drawsFor (headers.get? RequestHead.traceHeader) + 1))
  runs : ∀ (io : String) (w : World),
    (w.loggers.get c.logger).throws? (c.announcement init headers w m) = none →
    w.Serves (exec (c.call init io) w).2 [c.requestFor init headers io w m] ∧
      (exec (c.call init io) w).2.handlers = w.handlers.modify s.handler Handler.tick

variable {c : Connection} {init : HeadInit} {headers : Headers}

theorem refusesMethod_of_find? (hh : Headers.ofInit? init.headers = some headers)
    (hfind : c.routes.find? (·.takes init.path init.verb) = none)
    (hany : c.routes.any (·.covers init.path) = true) :
    c.RefusesMethod init headers (methodsAt init.path c.routes).eraseDups := by
  intro io w
  have hrefused := exec_call_refused hh hfind io w
  rwa [refusal, if_pos hany] at hrefused

theorem OnlyRoutes.handsTo (hc : c.OnlyRoutes) (hh : Headers.ofInit? init.headers = some headers)
    {m : MountedService} (hfind : c.routes.find? (·.takes init.path init.verb) = some m) :
    ∃ s, c.HandsTo init headers m s := by
  have hm : m ∈ c.routes := List.mem_of_find?_eq_some hfind
  obtain ⟨s, hs⟩ := hc m hm
  refine ⟨s, hm, hs, exec_call_matched hh hfind, fun io w hl => ?_⟩
  rw [exec_call_taken hh hfind hl]
  constructor
  · exact (onlyLines_announcing c init headers w m).serves.trans (Service.serves_exec_call _ _ _)
  · rw [hs, Service.exec_call_route, RouteService.exec_call]
    rfl

/-- **The list of allowed methods is exact.**  On a connection of an application of handlers, where
a method is not allowed, the methods that are listed are some, each once, and not the one that was
tried.  With a method of the list, in whatever case and padding, a request with the same head gets
to a handler; with another one it gets the same list. -/
theorem allow_exact {app : App} (happ : app.OnlyHandlers) {logger : Option (Ref Logger)}
    {w₀ w₁ : World} (hconnect : exec (app.connect logger) w₀ = (.ok c, w₁))
    (hh : Headers.ofInit? init.headers = some headers) {methods : List String}
    (hd : dispatch init.path init.verb c.routes = .notAllowed methods) :
    let allowed := methods.eraseDups
    allowed ≠ [] ∧ allowed.Nodup ∧ Method.normalize init.method ∉ allowed ∧
      c.RefusesMethod init headers allowed ∧
      ∀ token : String,
        (Method.normalize token ∈ allowed →
          ∃ m s, c.HandsTo (init.withMethod token) headers m s) ∧
        (Method.normalize token ∉ allowed →
          c.RefusesMethod (init.withMethod token) headers allowed) := by
  have hc : c.OnlyRoutes := fun m hm => (happ.exists_route hconnect hm).imp fun _ hs => hs.1
  obtain ⟨hnone, hany, rfl⟩ := dispatch_eq_notAllowed.1 hd
  have hverb : c.routes.find? (·.takes init.path (Method.normalize init.method)) = none := hnone
  have hlist : ∀ x, x ∈ (methodsAt init.path c.routes).eraseDups ↔
      x ∈ methodsAt init.path c.routes := fun _ => List.mem_eraseDups
  refine ⟨?_, (FirstOccurrences.eraseDups _).nodup, ?_, refusesMethod_of_find? hh hnone hany, ?_⟩
  · -- Some route covers the path, and this one lists a method.
    obtain ⟨m, hm, hcovers⟩ := List.any_eq_true.1 hany
    obtain ⟨x, hx⟩ := List.exists_mem_of_ne_nil _ (hc.methods_ne_nil hverb hm hcovers)
    have hmem := (hlist x).2 (mem_methodsAt.2 ⟨m, hm, hcovers, hx⟩)
    exact List.ne_nil_of_mem hmem
  · rw [hlist]
    exact (hc.find?_eq_none_iff hverb).1 hverb
  · intro token
    have hh' : Headers.ofInit? (init.withMethod token).headers = some headers := hh
    constructor
    · intro hmem
      obtain ⟨m, hfind⟩ := hc.exists_takes ((hlist _).1 hmem)
      have hfind' : c.routes.find?
          (·.takes (init.withMethod token).path (init.withMethod token).verb) = some m := hfind
      exact ⟨m, hc.handsTo hh' hfind'⟩
    · intro hmem
      have hfind' : c.routes.find?
          (·.takes (init.withMethod token).path (init.withMethod token).verb) = none :=
        (hc.find?_eq_none_iff hverb).2 (mt (hlist _).2 hmem)
      exact refusesMethod_of_find? hh' hfind' hany

/-- Two routes that cover one path, with methods in common. -/
def getAndPut : App :=
  ⟨[⟨⟨"/a"⟩, .route ⟨⟨0⟩, ["GET"]⟩⟩, ⟨⟨"/:x"⟩, .route ⟨⟨0⟩, ["PUT", "GET"]⟩⟩], ⟨0⟩, ⟨0⟩⟩

/-- What these routes do not take with one method, a handler gets with another. -/
theorem allow_exact_getAndPut :
    getAndPut.OnlyHandlers ∧
      ∃ c w₁, exec (getAndPut.connect none) (.initial 0 [] ∅) = (.ok c, w₁) ∧
        Headers.ofInit? (.list []) = some ⟨[]⟩ ∧
        dispatch "/a" "POST" c.routes = .notAllowed ["GET", "PUT", "GET"] ∧
        ∃ m s, c.HandsTo ⟨" put ", "/a?q", none, .list []⟩ ⟨[]⟩ m s := by
  have happ : getAndPut.OnlyHandlers := by
    intro m hm
    rcases List.mem_cons.1 hm with rfl | hm
    · exact ⟨_, rfl⟩
    · exact List.mem_singleton.1 hm ▸ ⟨_, rfl⟩
  let init : HeadInit := ⟨"post", "/a?q", none, .list []⟩
  let c : Connection := ⟨[⟨⟨"/a"⟩, .route ⟨⟨0⟩, ["GET"], ⟨0⟩⟩⟩,
    ⟨⟨"/:x"⟩, .route ⟨⟨0⟩, ["PUT", "GET"], ⟨0⟩⟩⟩], ⟨0⟩, ⟨0⟩⟩
  have hconnect : exec (getAndPut.connect none) (.initial 0 [] ∅) = (.ok c, .initial 0 [] ∅) := rfl
  have hh : Headers.ofInit? init.headers = some ⟨[]⟩ := rfl
  have hd : dispatch "/a" "POST" c.routes = .notAllowed ["GET", "PUT", "GET"] := rfl
  have hpath : init.path = "/a" := by decide
  have hverb : init.verb = "POST" := by decide
  obtain ⟨-, -, -, -, hagain⟩ := allow_exact happ hconnect hh (by rw [hpath, hverb]; exact hd)
  exact ⟨happ, c, _, hconnect, hh, hd, (hagain " put ").1 (by decide)⟩

end Connection

end HttpDispatch
