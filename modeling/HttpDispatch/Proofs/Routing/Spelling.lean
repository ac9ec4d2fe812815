import HttpDispatch.Proofs.Routing.Allowed
import Mathlib.Data.List.Find

/-!
# The spelling of a method

A method may come in any case and with any padding.  The head puts it into canonical form, and a
service that goes by a list of methods does so once more with what it is asked about.  The second
time changes nothing: a canonical token has no blank at its ends, and every character of it is its
own upper case (`Method.IsCanonical`), so there is nothing left to take away or to map.

Main statement (`Connection.decidesBy_as_sent`): the routes decide about a request as if they were
asked about the method in the spelling in which it was sent.  This needs services that look at the
canonical form only (`Service.Canonicalises`).  All routes with handlers are of this kind, and so
are the foreign ones that list their methods; a foreign route with an acceptance of its own may
tell the spellings apart, but it only ever sees the canonical one.
-/

namespace HttpDispatch

namespace Method

/-! ### Canonical tokens -/

/-- A token in canonical form: in upper case throughout, and without padding. -/
structure IsCanonical (token : String) : Prop where
  own : ∀ c ∈ token.toList, Text.upperChar c = [c]
  head : ∀ c, token.toList.head? = some c → Text.isBlank c = false
  last : ∀ c, token.toList.getLast? = some c → Text.isBlank c = false

theorem IsCanonical.normalize_eq {token : String} (h : IsCanonical token) :
    normalize token = token := by
  have htrim : Text.trim token = token := by
    rw [Text.trim, Text.trimChars_eq_self h.head h.last, String.ofList_toList]
  have hupper : token.toList.flatMap Text.upperChar = token.toList := by
    rw [List.flatMap_congr h.own]
    exact List.flatMap_singleton' _
  rw [normalize, htrim, Text.upper, hupper, String.ofList_toList]

theorem trimChars_normalize (token : String) :
    Text.trimChars (normalize token).toList = (normalize token).toList :=
  calc Text.trimChars (normalize token).toList
      = (Text.trim (normalize token)).toList := String.toList_ofList.symm
    _ = (normalize token).toList := by rw [normalize, Text.trim_upper_trim]

theorem isCanonical_normalize (token : String) : IsCanonical (normalize token) where
  own := by
    intro d hd
    rw [normalize, Text.upper, String.toList_ofList, List.mem_flatMap] at hd
    obtain ⟨c, -, hd⟩ := hd
    exact (Text.upperChar_of_mem hd).1
  head := by
    intro c hc
    rw [← trimChars_normalize] at hc
    exact Text.trimChars_head hc
  last := by
    intro c hc
    rw [← trimChars_normalize] at hc
    exact Text.trimChars_getLast hc

/-- The canonical tokens are those that are their own canonical form. -/
theorem normalize_eq_self_iff {token : String} : normalize token = token ↔ IsCanonical token :=
  ⟨fun h => h ▸ isCanonical_normalize token, IsCanonical.normalize_eq⟩

instance (token : String) : Decidable (IsCanonical token) :=
  decidable_of_iff _ normalize_eq_self_iff

/-- Upper case may be longer than the token, and it is canonical all the same. -/
example : IsCanonical (normalize " ﬁx\ufeff") ∧ normalize " ﬁx\ufeff" = "FIX" := by decide

theorem accepts_normalize (methods : List String) (token : String) :
    accepts methods (normalize token) = accepts methods token := by
  rw [accepts, accepts, normalize_normalize]

end Method

namespace HeadInit

@[simp] theorem headers_withMethod (init : HeadInit) (token : String) :
    (init.withMethod token).headers = init.headers := rfl

theorem withHeaders_withMethod (init : HeadInit) (token : String) (headers : Headers) :
    (init.withMethod token).withHeaders headers =
      { init.withHeaders headers with method := Method.normalize token } := rfl

/-- A head comes out alike if its method is canonical already. -/
theorem ofInit?_withMethod_verb (init : HeadInit) :
    RequestHead.ofInit? (init.withMethod init.verb) = RequestHead.ofInit? init := by
  have hheaders : (init.withMethod init.verb).withHeaders = init.withHeaders := by
    funext headers
    rw [withHeaders_withMethod, verb, Method.normalize_normalize]
    rfl
  rw [ofInit?_eq, ofInit?_eq, hheaders, headers_withMethod]

end HeadInit

namespace Service

/-! ### Services that look at the canonical form -/

/-- A service that decides about a token by its canonical form alone. -/
def Canonicalises (s : Service) : Prop :=
  ∃ decision : String → Bool, ∀ token, s.accepts token = decision (Method.normalize token)

/-- Such a service is one that does not tell a token from its canonical form. -/
theorem canonicalises_iff {s : Service} :
    s.Canonicalises ↔ ∀ token, s.accepts (Method.normalize token) = s.accepts token := by
  constructor
  · rintro ⟨decision, h⟩ token
    rw [h, h, Method.normalize_normalize]
  · intro h
    exact ⟨fun verb => s.accepts verb, fun token => (h token).symm⟩

theorem canonicalises_of_methods {s : Service} {methods : List String}
    (h : ∀ token, s.accepts token = Method.accepts methods token) : s.Canonicalises := by
  rw [canonicalises_iff]
  intro token
  rw [h, h, Method.accepts_normalize]

theorem canonicalises_route (s : RouteService) : (route s).Canonicalises :=
  canonicalises_of_methods fun _ => rfl

theorem canonicalises_foreign {r : ForeignRoute} (h : r.acceptance = none) :
    (foreign r).Canonicalises := by
  have haccepts : ∀ token, (foreign r).accepts token = Method.accepts r.methods token := by
    intro token
    rw [accepts, h]
    rfl
  exact canonicalises_of_methods haccepts

/-- A service that compares tokens as they stand is not of this kind. -/
example : ¬ (foreign ⟨"/a", [], none, none, .ready, some fun token => token == "get",
    .returned .undefined⟩).Canonicalises :=
  fun h => absurd (canonicalises_iff.1 h "get") (by decide)

end Service

/-- Where a route covers a path, its service is asked, and elsewhere it does not matter. -/
theorem MountedService.takes_normalize_eq {m : MountedService} {path : String}
    (h : m.covers path = true → m.service.Canonicalises) (token : String) :
    m.takes path (Method.normalize token) = m.takes path token := by
  rw [takes, takes]
  cases hcovers : m.covers path with
  | false => rw [Bool.false_and, Bool.false_and]
  | true => rw [Service.canonicalises_iff.1 (h hcovers) token]

open Run

namespace Connection

/-! ### The token that decides -/

/-- A connection decides about requests with this head by a token.  The first route that takes a
request for the path with the token is announced and gets it, and where no route does, the request
is refused, in one of two ways (`DecidesBy.refuses`).  What is said about the method, to the log, to
the handler and in the refusal, is its canonical form. -/
structure DecidesBy (c : Connection) (init : HeadInit) (headers : Headers) (token : String) :
    Prop where
  taken : ∀ m, c.routes.find? (·.takes init.path token) = some m → ∀ (io : String) (w : World),
    exec (c.call init io) w =
      exec (do
          (c.spanLogger headers w).debug (init.verb ++ " " ++ init.path)
            (some (.obj [("pattern", .str m.pattern.source)]))
          m.service.call (c.requestFor init headers io w m))
        (w.drawing (World.drawsFor (headers.get? RequestHead.traceHeader) + 1))
  refused : c.routes.find? (·.takes init.path token) = none → ∀ (io : String) (w : World),
    let given := headers.get? RequestHead.traceHeader
    exec (c.call init io) w =
      exec (refuse ((w.loggers.get c.logger).child (w.traceFor given)) io init.path init.verb
          (c.refusal init.path init.verb (w.traceIdFor given)))
        (w.drawing (World.drawsFor given))

/-- A connection asks about the canonical form. -/
theorem decidesBy_verb (c : Connection) {init : HeadInit} {headers : Headers}
    (hh : Headers.ofInit? init.headers = some headers) : c.DecidesBy init headers init.verb where
  taken := fun _ hm => exec_call_matched hh hm
  refused := fun hm => exec_call_refused hh hm

section AsSent

variable {path : String} {routes : List MountedService}

/-- The same route is found in either spelling. -/
theorem find?_takes_normalize
    (h : ∀ m ∈ routes, m.covers path = true → m.service.Canonicalises) (token : String) :
    routes.find? (·.takes path (Method.normalize token)) = routes.find? (·.takes path token) :=
  List.find?_congr fun m hm => MountedService.takes_normalize_eq (h m hm) token

theorem dispatch_normalize
    (h : ∀ m ∈ routes, m.covers path = true → m.service.Canonicalises) (token : String) :
    dispatch path (Method.normalize token) routes = dispatch path token routes := by
  rw [dispatch_eq, dispatch_eq, find?_takes_normalize h]

end AsSent

/-- A head that already has its method in canonical form is treated alike. -/
theorem call_withMethod_verb (c : Connection) (init : HeadInit) (io : String) :
    c.call (init.withMethod init.verb) io = c.call init io := by
  rw [call, call, HeadInit.ofInit?_withMethod_verb]

/-- **A connection decides by the method as it was sent.**  The canonical form of a token is
canonical, so it is its own canonical form, and a list of methods accepts it exactly if it accepts
the token.  Hence a head is treated like the one whose method is canonical already, and where the
services on the path look at the canonical form only, as those with handlers do, it makes no
difference that they are asked about this one: what becomes of the request is decided by the token
as it was sent. -/
theorem decidesBy_as_sent :
    (∀ token, Method.IsCanonical (Method.normalize token) ∧
      Method.normalize (Method.normalize token) = Method.normalize token) ∧
    (∀ methods token,
      Method.accepts methods (Method.normalize token) = Method.accepts methods token) ∧
    (∀ s : RouteService, (Service.route s).Canonicalises) ∧
    ∀ (c : Connection) (init : HeadInit),
      (∀ io, c.call (init.withMethod init.verb) io = c.call init io) ∧
      ((∀ m ∈ c.routes, m.covers init.path = true → m.service.Canonicalises) →
        dispatch init.path init.verb c.routes = dispatch init.path init.method c.routes ∧
        ∀ headers, Headers.ofInit? init.headers = some headers →
          c.DecidesBy init headers init.method) := by
  refine ⟨fun token => ?_, Method.accepts_normalize, Service.canonicalises_route,
    fun c init => ⟨call_withMethod_verb c init, ?_⟩⟩
  · exact ⟨Method.isCanonical_normalize token, Method.normalize_normalize token⟩
  · intro hc
    refine ⟨dispatch_normalize hc init.method, fun headers hh => ?_⟩
    have hverb := c.decidesBy_verb hh
    have hfind : c.routes.find? (·.takes init.path init.verb) =
        c.routes.find? (·.takes init.path init.method) := find?_takes_normalize hc init.method
    exact ⟨fun m hm => hverb.taken m (hfind.trans hm), fun hm => hverb.refused (hfind.trans hm)⟩

/-- A route for one method, behind a foreign one that lists another. -/
def fixBehindPost : Connection :=
  ⟨[⟨⟨"/a"⟩, .foreign ⟨"/a", ["POST"], none, none, .ready, none, .returned .undefined⟩⟩,
    ⟨⟨"/:x"⟩, .route ⟨⟨0⟩, ["FIX"], ⟨0⟩⟩⟩], ⟨0⟩, ⟨0⟩⟩

/-- A head whose method is spelled with a ligature and with padding. -/
def ligatureHead : HeadInit := ⟨" ﬁx\ufeff", "/a?q", none, .list []⟩

/-- The ligature finds the route for its canonical form. -/
theorem decidesBy_as_sent_ligature :
    (∀ m ∈ fixBehindPost.routes, m.covers ligatureHead.path = true → m.service.Canonicalises) ∧
      Headers.ofInit? ligatureHead.headers = some ⟨[]⟩ ∧
      ∃ m, fixBehindPost.routes.find? (·.takes ligatureHead.path ligatureHead.method) = some m ∧
        m.pattern.source = "/:x" ∧
        exec (fixBehindPost.call ligatureHead "c") (.initial 0 [] ∅) =
          exec (do
              (fixBehindPost.spanLogger ⟨[]⟩ (.initial 0 [] ∅)).debug "FIX /a"
                (some (.obj [("pattern", .str "/:x")]))
              m.service.call (fixBehindPost.requestFor ligatureHead ⟨[]⟩ "c" (.initial 0 [] ∅) m))
            ((World.initial 0 [] ∅).drawing 2) := by
  have hc : ∀ m ∈ fixBehindPost.routes,
      m.covers ligatureHead.path = true → m.service.Canonicalises := by
    intro m hm _
    rcases List.mem_cons.1 hm with rfl | hm
    · exact Service.canonicalises_foreign rfl
    · exact List.mem_singleton.1 hm ▸ Service.canonicalises_route _
  have hh : Headers.ofInit? ligatureHead.headers = some ⟨[]⟩ := rfl
  have hline : ligatureHead.verb ++ " " ++ ligatureHead.path = "FIX /a" := by decide +kernel
  let post : MountedService :=
    ⟨⟨"/a"⟩, .foreign ⟨"/a", ["POST"], none, none, .ready, none, .returned .undefined⟩⟩
  let fix : MountedService := ⟨⟨"/:x"⟩, .route ⟨⟨0⟩, ["FIX"], ⟨0⟩⟩⟩
  have hpost : post.takes ligatureHead.path ligatureHead.method = false := by decide +kernel
  have hfix : fix.takes ligatureHead.path ligatureHead.method = true := by decide +kernel
  have hfind : fixBehindPost.routes.find? (·.takes ligatureHead.path ligatureHead.method) =
      some fix := by
    show [post, fix].find? _ = _
    rw [List.find?_cons, hpost, List.find?_cons, hfix]
  obtain ⟨-, -, -, hdecides⟩ := decidesBy_as_sent
  obtain ⟨-, hby⟩ := (hdecides fixBehindPost ligatureHead).2 hc
  have htaken := (hby _ hh).taken fix hfind "c" (.initial 0 [] ∅)
  rw [hline] at htaken
  exact ⟨hc, hh, fix, hfind, rfl, htaken⟩

end Connection

end HttpDispatch
