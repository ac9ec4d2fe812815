import HttpDispatch.Proofs.Log.Lineage
import HttpDispatch.Proofs.Routing.Following

/-!
# Which entries mix two traces

An entry mixes two traces if it carries the id of one and a span of another.  What a log call shows
and what a call of a connection shows is stamped by descendants of one logger, so that the positions
on the way to it decide (`Trace.Decides`).  A request that a route takes is announced in
a span of its own.  A refusal is logged in the trace of the request but in no span of it, so that it
carries the span of the logger, if this is in one.

Sinks may throw here, and an entry that is not received is not shown.

Main statement: `Connection.exec_call_endsWithin`.
-/

namespace HttpDispatch

namespace Observation

/-- Whether this is an entry that reached a sink or the console. -/
def isShown : Observation → Bool
  | logged _ _ | printed _ => true
  | complained _ _ | event _ => false

/-- The entries among what is seen. -/
def shown (seen : List Observation) : List Observation := seen.filter isShown

theorem shown_append (seen more : List Observation) :
    shown (seen ++ more) = shown seen ++ shown more :=
  List.filter_append ..

theorem shown_eq_nil {seen : List Observation} (h : ∀ o ∈ seen, o.isShown = false) :
    shown seen = [] :=
  List.filter_eq_nil_iff.2 fun o ho => by rw [h o ho]; decide

theorem shown_lines (seen : List Observation) : shown (lines seen) = shown seen := by
  rw [shown, lines, List.filter_filter]
  refine List.filter_congr fun o _ => ?_
  cases o <;> rfl

end Observation

theorem Logger.shown_flatMap_shows (l : Logger) (entries : List Entry) :
    Observation.shown (entries.flatMap l.shows) = entries.flatMap l.shows := by
  refine List.filter_eq_self.2 fun o ho => ?_
  obtain ⟨e, -, ho⟩ := List.mem_flatMap.1 ho
  rw [shows] at ho
  rcases List.mem_append.1 ho with ho | ho
  · obtain ⟨s, -, rfl⟩ := Option.map_eq_some_iff.1 (Option.mem_toList.1 ho)
    rfl
  · split at ho
    · exact List.mem_singleton.1 ho ▸ rfl
    · exact absurd ho List.not_mem_nil

/-- Between two worlds, what reached a sink or the console is what a logger shows of these
entries. -/
def World.Emits (w w' : World) (l : Logger) (entries : List Entry) : Prop :=
  ∃ seen, w'.timeline = w.timeline ++ seen ∧ Observation.shown seen = entries.flatMap l.shows

namespace World

variable {w w₁ w₂ : World} {l : Logger} {entries more : List Entry} {reqs : List Request}

theorem Emits.trans (h : w.Emits w₁ l entries) (h' : w₁.Emits w₂ l more) :
    w.Emits w₂ l (entries ++ more) := by
  obtain ⟨seen, ht, hs⟩ := h
  obtain ⟨seen', ht', hs'⟩ := h'
  refine ⟨seen ++ seen', by rw [ht', ht, List.append_assoc], ?_⟩
  rw [Observation.shown_append, hs, hs', List.flatMap_append]

theorem Shows.emits (h : w.Shows w₁ l entries reqs) : w.Emits w₁ l entries := by
  obtain ⟨seen, ht, hlines, -⟩ := h
  refine ⟨seen, ht, ?_⟩
  rw [← Observation.shown_lines, hlines, Logger.shown_flatMap_shows]

theorem Emits.of_not_shown {seen : List Observation} (ht : w₁.timeline = w.timeline ++ seen)
    (h : ∀ o ∈ seen, o.isShown = false) (l : Logger) : w.Emits w₁ l [] :=
  ⟨seen, ht, Observation.shown_eq_nil h⟩

theorem Emits.of_timeline (ht : w₁.timeline = w.timeline) (l : Logger) : w.Emits w₁ l [] :=
  .of_not_shown (ht.trans (List.append_nil _).symm) (fun _ ho => absurd ho List.not_mem_nil) l

end World

open Run

/-! ### What stamps the entries -/

namespace Logger

/-- The entries of a log call that are received. -/
def received (l : Logger) (clock : Int) (level : Level) (message : String) (context : Option Json)
    (error : Option ErrorSummary) : List Entry :=
  if (l.fails? (l.entry clock level message context error)).isSome then []
  else l.made clock level message context error

theorem emits_exec_log (l : Logger) (level : Level) (message : String) (context : Option Json)
    (error : Option ErrorSummary) (w : World) :
    w.Emits (exec (l.log level message context error) w).2 l
      (l.received w.clock level message context error) := by
  rw [received]
  cases hl : l.fails? (l.entry w.clock level message context error) with
  | none =>
    rw [exec_log_of_not_fails hl, emits_eq_flatMap]
    exact (World.shows_observing rfl l _).emits
  | some v =>
    rw [exec_log_of_fails hl]
    exact .of_timeline rfl l

theorem stamps_of_mem_made {l : Logger} {clock : Int} {level : Level} {message : String}
    {context : Option Json} {error : Option ErrorSummary} {e : Entry}
    (he : e ∈ l.made clock level message context error) : l.Stamps e :=
  mem_made he ▸ l.stamps_entry clock level message context error

theorem stamps_of_mem_received {l : Logger} {clock : Int} {level : Level} {message : String}
    {context : Option Json} {error : Option ErrorSummary} {e : Entry}
    (he : e ∈ l.received clock level message context error) : l.Stamps e := by
  rw [received] at he
  split at he
  · exact absurd he List.not_mem_nil
  · exact stamps_of_mem_made he

end Logger

/-- A service shows at most one entry, and its logger stamps it. -/
theorem RouteService.exists_emits_call (s : RouteService) (req : Request) (w : World) :
    ∃ entries, w.Emits (exec (s.call req) w).2 (w.loggers.get s.logger) entries ∧
      ∀ e ∈ entries, (w.loggers.get s.logger).Stamps e := by
  generalize hlog : w.loggers.get s.logger = l
  have hhandling : w.Emits (w.afterHandling s.handler req) l [] := by
    refine .of_not_shown rfl (fun o ho => ?_) l
    obtain ⟨e, rfl⟩ := Observation.eq_event_of_isLine (World.isLine_of_mem_seenHandling ho)
    rfl
  rw [exec_call, hlog]
  cases (w.outcomeOf s.handler req).settle with
  | ok v =>
    rw [seenAfter, World.observing_nil]
    exact ⟨[], hhandling, fun _ he => absurd he List.not_mem_nil⟩
  | error v =>
    rw [seenAfter, seenReport]
    cases l.throws? (failureEntry l w.clock req v) with
    | none =>
      let e := failureEntry l w.clock req v
      refine ⟨[e], hhandling.trans ?_, fun _ he => List.mem_singleton.1 he ▸ l.stamps_entry ..⟩
      have hshows := (World.shows_observing (w := w.afterHandling s.handler req) rfl l [e]).emits
      rwa [List.flatMap_singleton] at hshows
    | some thrown =>
      refine ⟨[], hhandling.trans (.of_not_shown rfl (fun o ho => ?_) l),
        fun _ he => absurd he List.not_mem_nil⟩
      exact List.mem_singleton.1 ho ▸ rfl

namespace Connection

/-- The span in which a request is announced. -/
def spanFor (headers : Headers) (w : World) : Trace :=
  let given := headers.get? RequestHead.traceHeader
  (w.traceFor given).span (Trace.makeId w.clock (w.drawing (World.drawsFor given)).nextDraw) w.clock

section Call

variable {c : Connection} {init : HeadInit} {headers : Headers} {w : World} {l : Logger}

/-- A request that a route takes is announced in a span of its trace, and the logger of the
connection stamps what else is shown. -/
theorem exists_emits_call_taken {m : MountedService} (hc : c.LogsWith c.logger)
    (hlog : w.loggers.get c.logger = l) (hh : Headers.ofInit? init.headers = some headers)
    (hfind : c.routes.find? (·.takes init.path init.verb) = some m) (io : String) :
    ∃ announced reported, w.Emits (exec (c.call init io) w).2 l (announced ++ reported) ∧
      (∀ e ∈ announced, ((l.child (w.traceFor (headers.get? RequestHead.traceHeader))).child
        (spanFor headers w)).Stamps e) ∧ ∀ e ∈ reported, l.Stamps e := by
  subst hlog
  have hnone : ∀ l : Logger, ∀ e ∈ [], l.Stamps e := fun _ _ he => absurd he List.not_mem_nil
  cases hfails : (w.loggers.get c.logger).fails? (c.announcement init headers w m) with
  | some v =>
    rw [exec_call_unannounced hh hfind hfails]
    exact ⟨[], [], .of_timeline rfl _, hnone _, hnone _⟩
  | none =>
    let announced := (c.spanLogger headers w).made w.clock .debug (init.verb ++ " " ++ init.path)
      (some (.obj [("pattern", .str m.pattern.source)])) none
    have hannounced := (c.shows_announcing init headers w m).emits
    have hspan : ∀ e ∈ announced, (c.spanLogger headers w).Stamps e := fun _ he =>
      Logger.stamps_of_mem_made he
    rw [exec_call_announced hh hfind hfails]
    cases hservice : m.service with
    | route s =>
      let req := c.requestFor init headers io w m
      have hlogger := hc.routes m (List.mem_of_find?_eq_some hfind) s hservice
      have hget : (c.announcing init headers w m).loggers.get s.logger = w.loggers.get c.logger :=
        congrArg w.loggers.get hlogger
      obtain ⟨entries, hemits, hstamps⟩ := s.exists_emits_call req (c.announcing init headers w m)
      rw [hget] at hemits hstamps
      rw [Service.exec_call_route]
      exact ⟨announced, entries, hannounced.trans hemits, hspan, hstamps⟩
    | foreign r =>
      rw [Service.exec_call_foreign]
      refine ⟨announced, [], hannounced.trans ?_, hspan, hnone _⟩
      exact .of_not_shown rfl (fun o ho => List.mem_singleton.1 ho ▸ rfl) _

/-- Whatever is shown of a refusal is stamped by the logger in the trace of the request. -/
theorem exists_emits_call_refused (hlog : w.loggers.get c.logger = l)
    (hh : Headers.ofInit? init.headers = some headers)
    (hfind : c.routes.find? (·.takes init.path init.verb) = none) (io : String) :
    ∃ entries, w.Emits (exec (c.call init io) w).2 l entries ∧
      (∀ e ∈ entries, (l.child (w.traceFor (headers.get? RequestHead.traceHeader))).Stamps e) ∧
      (Level.passes .warn l.level = true → l.throws? (c.openingEntry init headers w) = none →
        entries ≠ []) := by
  subst hlog
  let given := headers.get? RequestHead.traceHeader
  let child := (w.loggers.get c.logger).child (w.traceFor given)
  let refusal := c.refusal init.path init.verb (w.traceIdFor given)
  let drawn := w.drawing (World.drawsFor given)
  cases hfails : child.fails?
      (warningEntry child w.clock init.path init.verb refusal.1.message) with
  | some v =>
    rw [exec_call_refused hh hfind, exec_refuse_of_fails (w := drawn) hfails]
    refine ⟨[], .of_timeline rfl _, fun _ he => absurd he List.not_mem_nil, fun _ hthrows => ?_⟩
    rw [openingEntry_of_none hfind] at hthrows
    nomatch (Logger.fails?_of_throws? (l := child) hthrows).symm.trans hfails
  | none =>
    rw [exec_call_refused hh hfind, exec_refuse_warned (w := drawn) hfails]
    have hwarned := (shows_warned child io init.path init.verb refusal.1.message
      (Response.text refusal.1 refusal.2 w.clock) drawn).emits
    have hsome : Level.passes .warn (w.loggers.get c.logger).level = true →
        child.made w.clock .warn refusal.1.message
          (some (RouteService.requestContext init.verb init.path)) none ≠ [] := by
      intro (hpasses : Level.passes .warn child.level = true)
      rw [Logger.made, if_pos hpasses]
      exact List.cons_ne_nil _ _
    cases Response.unsent? (drawn.transport io) refusal.1
        (Response.text refusal.1 refusal.2 drawn.clock) with
    | none =>
      exact ⟨_, hwarned, fun e he => Logger.stamps_of_mem_made he,
        fun hpasses _ => hsome hpasses⟩
    | some f =>
      -- Of the second warning only what its sink receives is shown.
      let sent := (drawn.observing (warning child w.clock init.path init.verb
        refusal.1.message)).afterSending io (Response.text refusal.1 refusal.2 w.clock)
      have hlate := child.emits_exec_log .warn (unsentMessage refusal.1 f)
        (some (RouteService.requestContext init.verb init.path)) none sent
      rw [exec_bind_pure_snd]
      refine ⟨_, hwarned.trans hlate, fun e he => ?_, fun hpasses _ =>
        List.append_ne_nil_of_left_ne_nil (hsome hpasses) _⟩
      rcases List.mem_append.1 he with he | he
      · exact Logger.stamps_of_mem_made he
      · exact Logger.stamps_of_mem_received he

end Call

/-! ### The positions of a call -/

section Positions

variable {made : List Trace} (headers : Headers) (w : World)

theorem made_traceFor (hmade : Trace.Made made) :
    Trace.Made (made ++ [w.traceFor (headers.get? RequestHead.traceHeader)]) :=
  hmade.start (exec_startTrace _ w)

theorem made_spanFor (hmade : Trace.Made made) :
    Trace.Made (made ++ [w.traceFor (headers.get? RequestHead.traceHeader)] ++
      [spanFor headers w]) :=
  (made_traceFor headers w hmade).span (List.mem_append_right _ (List.mem_singleton_self _))
    (exec_startSpan _ (w.drawing (World.drawsFor (headers.get? RequestHead.traceHeader))))

end Positions

/-- **Which entries mix two traces.**  A path of positions that have been made leads to a logger, to
any depth.  Whatever it logs, and in whatever world, the path decides whether the entries mix
traces.  On a connection of an application that has this logger, a trace is started for each
request.  Where a route takes the request, this is announced in a span of the trace and never mixes,
and the path decides about all other entries.  Where none does, the path together with the trace of
the request decides about all entries, and there are some if warnings pass and the sink receives the
first. -/
theorem exec_call_endsWithin {made path : List Trace} (hmade : Trace.Made made)
    (hpath : path ⊆ made) (s : Settings) :
    let l := Logger.descend s path
    (∀ level message context error (w : World), ∃ entries,
      w.Emits (exec (l.log level message context error) w).2 l entries ∧
      Trace.Decides path made entries ∧
      (level.passes s.level = true →
        l.throws? (l.entry w.clock level message context error) = none → entries ≠ [])) ∧
    ∀ (app : App) (logger : Option (Ref Logger)) (c : Connection) (w₀ w₁ : World),
      exec (app.connect logger) w₀ = (.ok c, w₁) → ∀ w : World, w.loggers.get c.logger = l →
      ∀ (init : HeadInit) (io : String),
      (Headers.ofInit? init.headers = none → w.Emits (exec (c.call init io) w).2 l []) ∧
      ∀ headers, Headers.ofInit? init.headers = some headers →
        let t := w.traceFor (headers.get? RequestHead.traceHeader)
        let span := spanFor headers w
        Trace.Made (made ++ [t] ++ [span]) ∧
        ((∃ m ∈ c.routes, m.takes init.path init.verb = true) → ∃ announced reported,
          w.Emits (exec (c.call init io) w).2 l (announced ++ reported) ∧
          (∀ e ∈ announced, e.WithinOneTrace (made ++ [t] ++ [span])) ∧
          Trace.Decides path (made ++ [t] ++ [span]) reported) ∧
        ((∀ m ∈ c.routes, m.takes init.path init.verb = false) → ∃ entries,
          w.Emits (exec (c.call init io) w).2 l entries ∧
          Trace.Decides (path ++ [t]) (made ++ [t]) entries ∧
          (Level.passes .warn s.level = true →
            l.throws? (c.openingEntry init headers w) = none → entries ≠ [])) := by
  intro l
  have hlevel : l.level = s.level := congrArg Settings.level (Logger.settings_descend s path)
  refine ⟨fun level message context error w => ?_, ?_⟩
  · refine ⟨_, l.emits_exec_log level message context error w, Logger.decides_of_stamps hmade hpath
      fun e he => Logger.stamps_of_mem_received he, fun hpasses hthrows => ?_⟩
    rw [← hlevel] at hpasses
    rw [Logger.received, Logger.fails?_of_throws? hthrows, Logger.made, if_pos hpasses]
    exact List.cons_ne_nil _ _
  intro app logger c w₀ w₁ hconnect w hlog init io
  refine ⟨fun hh => ?_, fun headers hh => ?_⟩
  · rw [exec_call_of_invalid hh]
    exact .of_timeline rfl l
  intro t span
  have hstarted : Trace.Made (made ++ [t]) := made_traceFor headers w hmade
  have hspanned : Trace.Made (made ++ [t] ++ [span]) := made_spanFor headers w hmade
  have hchild : Logger.descend s (path ++ [t]) = l.child t := Logger.descend_append s path t
  have hpath' : path ++ [t] ⊆ made ++ [t] := Trace.concat_subset_concat hpath t
  refine ⟨hspanned, fun htaken => ?_, fun hrefused => ?_⟩
  · obtain ⟨m, hfind⟩ := Option.isSome_iff_exists.1 (List.find?_isSome.2 htaken)
    have hc := LogsWith.of_forall₂ (App.forall₂_of_connect hconnect)
    obtain ⟨announced, reported, hemits, hannounced, hreported⟩ :=
      exists_emits_call_taken hc hlog hh hfind io
    refine ⟨announced, reported, hemits, fun e he => ?_, ?_⟩
    · have hstamps : (Logger.descend s (path ++ [t] ++ [span])).Stamps e := by
        rw [Logger.descend_append, hchild]
        exact hannounced e he
      exact Logger.withinOneTrace_of_endsWithin hspanned (Trace.concat_subset_concat hpath' span)
        hstamps (Trace.endsWithin_of_span _ rfl)
    · have hsub : path ⊆ made ++ [t] ++ [span] :=
        List.subset_append_of_subset_left _ (List.subset_append_of_subset_left _ hpath)
      exact Logger.decides_of_stamps hspanned hsub hreported
  · have hfind := MountedService.find?_eq_none hrefused
    obtain ⟨entries, hemits, hstamps, hsome⟩ := exists_emits_call_refused hlog hh hfind io
    rw [← hlevel]
    exact ⟨entries, hemits, Logger.decides_of_stamps hstarted hpath' (hchild ▸ hstamps), hsome⟩

end Connection

/-- A trace and a span below it. -/
def Trace.withSpan : List Trace :=
  let t := (World.initial 0 [] ∅).traceFor (some "t-1")
  [t, t.span (makeId 0 (World.initial 0 [] ∅).nextDraw) 0]

theorem Trace.made_withSpan : Made withSpan :=
  (Made.nil.start (exec_startTrace (some "t-1") (.initial 0 [] ∅))).span
    (List.mem_singleton_self _) (exec_startSpan _ (.initial 0 [] ∅))

/-- Settings by which everything from `info` on goes to a sink. -/
def Settings.toSink : Settings := ⟨.info, false, false, some (.capture "sink")⟩

/-- A world whose only logger is in that span. -/
def World.inSpan : World :=
  { World.initial 0 [] ∅ with loggers := ⟨[.descend .toSink Trace.withSpan]⟩ }

/-- A request of the same trace that no route takes is refused, and the entries do not mix. -/
theorem Connection.exec_call_endsWithin_sameTrace :
    let l := Logger.descend .toSink Trace.withSpan
    let c : Connection := ⟨[], ⟨0⟩, ⟨0⟩⟩
    let init : HeadInit := ⟨"GET", "/", none, .list [("x-trace-id", "t-1")]⟩
    let made := Trace.withSpan ++ [.root "t-1" 0]
    Trace.Made Trace.withSpan ∧
      exec (App.connect ⟨[], ⟨0⟩, ⟨0⟩⟩ none) World.inSpan = (.ok c, World.inSpan) ∧
      World.inSpan.loggers.get c.logger = l ∧
      Headers.ofInit? init.headers = some ⟨[("x-trace-id", "t-1")]⟩ ∧ Trace.EndsWithin made ∧
      ∃ entries, entries ≠ [] ∧
        World.inSpan.Emits (exec (c.call init "c") World.inSpan).2 l entries ∧
        ∀ e ∈ entries, e.WithinOneTrace made := by
  intro l c init made
  have hconnect : exec (App.connect ⟨[], ⟨0⟩, ⟨0⟩⟩ none) World.inSpan = (.ok c, World.inSpan) := rfl
  have hh : Headers.ofInit? init.headers = some ⟨[("x-trace-id", "t-1")]⟩ := by decide
  have hends : Trace.EndsWithin made := by
    intro p hp
    rw [← Option.some.inj hp]
    rfl
  obtain ⟨-, hcall⟩ :=
    exec_call_endsWithin Trace.made_withSpan (List.Subset.refl _) .toSink
  obtain ⟨-, hvalid⟩ := hcall _ none c _ _ hconnect .inSpan rfl init "c"
  obtain ⟨-, -, hrefused⟩ := hvalid _ hh
  obtain ⟨entries, hemits, hdecides, hsome⟩ := hrefused fun _ hm => absurd hm List.not_mem_nil
  exact ⟨Trace.made_withSpan, hconnect, rfl, hh, hends, entries, hsome rfl rfl, hemits,
    hdecides.within hends⟩

/-- Not every entry is within one trace: a child of a logger in a span is given another trace, and
its entries carry this trace and still the span. -/
theorem Logger.log_mixes :
    ¬ ∀ (made path : List Trace) (s : Settings) (level : Level) (message : String)
        (context : Option Json) (error : Option ErrorSummary) (w : World) (seen : List Observation),
      Trace.Made made → path ⊆ made →
      (exec ((Logger.descend s path).log level message context error) w).2.timeline =
        w.timeline ++ seen →
      ∀ sink e, .logged sink e ∈ seen → e.WithinOneTrace made := by
  intro h
  let w := World.initial 0 [] ∅
  let other := w.traceFor (some "t-2")
  let made := Trace.withSpan ++ [other]
  let l := descend .toSink made
  let e := l.entry 0 .info "m" none none
  have hmade : Trace.Made made := Trace.made_withSpan.start (exec_startTrace (some "t-2") w)
  have hlog : (exec (l.log .info "m" none none) w).2.timeline = w.timeline ++ [.logged "sink" e] :=
    rfl
  have hwithin := h made made .toSink .info "m" none none w _ hmade (List.Subset.refl _) hlog "sink"
    e (List.mem_singleton_self _)
  obtain ⟨parent, -, t, ht, ⟨w₁, w₂, hspan⟩, hparent, hid⟩ := hwithin "t-2" _ rfl rfl
  have htrace : t.traceId = "t-2" := (Trace.traceId_of_startSpan hspan).trans hparent
  rcases List.mem_append.1 ht with hold | hnew
  · have hone : ∀ p ∈ Trace.withSpan, p.traceId = "t-1" := by decide
    rw [hone t hold] at htrace
    exact absurd htrace (by decide)
  · rw [List.mem_singleton.1 hnew] at hid
    nomatch hid

end HttpDispatch
