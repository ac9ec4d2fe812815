import HttpDispatch.Proofs.Log.Fallback
import HttpDispatch.Proofs.Routing.Filtering

/-!
# What is printed under a configuration

A logger with the settings of a configuration prints the entries that pass its level, in its form,
and does nothing else (`Logger.follows_of_settings`).  So do services and connections that log with
it: the lines of a call are those of entries that pass (`RouteService.prints_call`,
`Connection.prints_call`).
-/

namespace HttpDispatch

open Run

/-- The configuration that an environment sets, or the plain one where it is not valid. -/
def Environ.config (env : Environ) : Config :=
  match Config.ofEnviron env with
  | .ok c => c
  | .error _ => ⟨.info, false⟩

theorem Settings.ofEnviron_eq (env : Environ) : Settings.ofEnviron env = env.config.settings := by
  rw [ofEnviron, Environ.config]
  cases Config.ofEnviron env <;> rfl

/-- A logger that prints what passes the level of a configuration, in its form, and does nothing
else. -/
def Logger.Follows (l : Logger) (c : Config) : Prop :=
  ∀ (level : Level) (message : String) (context : Option Json) (error : Option ErrorSummary)
    (w : World), exec (l.log level message context error) w =
      (.ok (), w.observing (if level.passes c.level then
        [.printed ((l.entry w.clock level message context error).line c.json)] else []))

/-- The lines among what was seen are those of entries that pass the level of a configuration, in
its form. -/
def Config.Prints (c : Config) (seen : List Observation) : Prop :=
  ∃ entries : List Entry, (∀ e ∈ entries, e.level.passes c.level = true) ∧
    Observation.lines seen = entries.map fun e => .printed (e.line c.json)

/-- Between two worlds, the lines that were seen are such. -/
def World.Prints (w w' : World) (c : Config) : Prop :=
  ∃ seen, w'.timeline = w.timeline ++ seen ∧ c.Prints seen

namespace World.Prints

variable {w w₁ w₂ : World} {c : Config}

/-- Events are no lines. -/
theorem of_events {seen : List Observation} (ht : w₁.timeline = w.timeline ++ seen)
    (h : ∀ o ∈ seen, o.isLine = false) : w.Prints w₁ c :=
  ⟨seen, ht, [], fun _ he => absurd he List.not_mem_nil, Observation.lines_eq_nil h⟩

theorem of_timeline (ht : w₁.timeline = w.timeline) : w.Prints w₁ c :=
  of_events (ht.trans (List.append_nil _).symm) fun _ ho => absurd ho List.not_mem_nil

theorem trans (h : w.Prints w₁ c) (h' : w₁.Prints w₂ c) : w.Prints w₂ c := by
  obtain ⟨seen, ht, entries, hpass, hlines⟩ := h
  obtain ⟨seen', ht', entries', hpass', hlines'⟩ := h'
  refine ⟨seen ++ seen', by rw [ht', ht, List.append_assoc], entries ++ entries', ?_, ?_⟩
  · intro e he
    exact (List.mem_append.1 he).elim (hpass e) (hpass' e)
  · rw [Observation.lines_append, hlines, hlines', List.map_append]

end World.Prints

namespace Logger

variable {l : Logger} {c : Config}

theorem neverThrows_of_settings (h : l.settings = c.settings) : l.NeverThrows := by
  intro e
  rw [throws?, h]
  rfl

theorem shows_of_settings (h : l.settings = c.settings) (e : Entry) :
    l.shows e = [.printed (e.line c.json)] := by
  rw [shows, h]
  rfl

theorem level_of_settings (h : l.settings = c.settings) : l.level = c.level :=
  congrArg Settings.level h

theorem follows_of_settings (h : l.settings = c.settings) : l.Follows c := by
  intro level message context error w
  rw [exec_log (neverThrows_of_settings h _), emits, level_of_settings h, shows_of_settings h]

/-- What a logger with these settings shows of entries that pass. -/
theorem prints_of_logs (h : l.settings = c.settings) {w w' : World} {entries : List Entry}
    (hlogs : w.Logs w' l entries) (hpass : ∀ e ∈ entries, e.level.passes l.level = true) :
    w.Prints w' c := by
  obtain ⟨seen, ht, hlines⟩ := hlogs
  rw [level_of_settings h] at hpass
  refine ⟨seen, ht, entries, hpass, hlines.trans ?_⟩
  rw [List.map_eq_flatMap]
  exact congrArg (List.flatMap · entries) (funext (shows_of_settings h))

theorem passes_of_mem_made {clock : Int} {level : Level} {message : String} {context : Option Json}
    {error : Option ErrorSummary} {e : Entry}
    (h : e ∈ l.made clock level message context error) : e.level.passes l.level = true := by
  rw [made_eq_filter] at h
  exact (List.mem_filter.1 h).2

end Logger

/-- Between two worlds, a logger was made that follows the configuration of an environment, and all
that was seen is one warning if this is not valid. -/
structure World.Configures (env : Environ) (w w' : World) (r : Ref Logger) : Prop where
  follows : (w'.loggers.get r).Follows env.config
  seen : ∃ seen, w'.timeline = w.timeline ++ seen ∧
    seen.length = (if env.isValid then 0 else 1) ∧
    Observation.fallbacks seen = if env.isValid then 0 else 1

/-- Making a logger from an environment never fails. -/
theorem Run.exists_configures (env : Environ) (w : World) :
    ∃ r w', exec (configuredLogger env) w = (.ok r, w') ∧ World.Configures env w w' r := by
  refine ⟨_, _, exec_configuredLogger env w, ?_, seenConfiguring w.clock env, rfl, ?_,
    fallbacks_seenConfiguring w.clock env⟩
  · refine Logger.follows_of_settings (Eq.trans ?_ (Settings.ofEnviron_eq env))
    exact congrArg Logger.settings (Store.get_push_next w.loggers (.ofSettings _))
  · rw [seenConfiguring, Environ.isValid]
    cases Config.ofEnviron env <;> rfl

/-- A service prints what its configuration has it print. -/
theorem RouteService.prints_call {s : RouteService} {w : World} {c : Config}
    (h : (w.loggers.get s.logger).settings = c.settings) (req : Request) :
    w.Prints (exec (s.call req) w).2 c := by
  have hshows := s.shows_exec_call req w (Logger.neverThrows_of_settings h)
  refine Logger.prints_of_logs h hshows.logs fun e he => ?_
  rw [failureEntries_eq_filter] at he
  exact (List.mem_filter.1 he).2

namespace Connection

/-- A connection whose routes all log with this logger, as it does itself. -/
structure LogsWith (c : Connection) (r : Ref Logger) : Prop where
  logger : c.logger = r
  routes : ∀ m ∈ c.routes, ∀ s, m.service = .route s → s.logger = r

/-- Activating the routes of an application gives all of them the logger of the connection. -/
theorem LogsWith.of_forall₂ {c : Connection} {ms : List MountedFactory}
    (h : List.Forall₂ (fun m a => MountedService.Of m c.logger a) ms c.routes) :
    c.LogsWith c.logger := by
  refine ⟨rfl, fun a ha s hs => ?_⟩
  obtain ⟨m, -, hof⟩ := exists_of_forall₂ h ha
  cases hfactory : m.factory with
  | route f =>
    obtain ⟨s', hs', -, hlogger⟩ := hof.route f hfactory
    obtain rfl := Service.route.inj (hs.symm.trans hs')
    exact hlogger
  | foreign r => nomatch hs.symm.trans (hof.foreign r hfactory)

/-- A connection prints what its configuration has it print. -/
theorem prints_call {c : Connection} {w : World} {r : Ref Logger} {config : Config}
    (hc : c.LogsWith r) (h : (w.loggers.get r).settings = config.settings) (init : HeadInit)
    (io : String) : w.Prints (exec (c.call init io) w).2 config := by
  obtain rfl := hc.logger
  have hl := Logger.neverThrows_of_settings h
  cases hh : Headers.ofInit? init.headers with
  | none =>
    rw [exec_call_of_invalid hh]
    exact .of_timeline rfl
  | some headers =>
    cases hfind : c.routes.find? (·.takes init.path init.verb) with
    | some m =>
      let announced := c.announcing init headers w m
      have hannounced : w.Prints announced config :=
        Logger.prints_of_logs h (c.shows_announcing init headers w m).logs fun e he =>
          Logger.passes_of_mem_made (l := c.spanLogger headers w) he
      rw [exec_call_taken hh hfind (hl _)]
      refine hannounced.trans ?_
      cases hservice : m.service with
      | route s =>
        have hlogger := hc.routes m (List.mem_of_find?_eq_some hfind) s hservice
        have hsettings : (announced.loggers.get s.logger).settings = config.settings := hlogger ▸ h
        rw [Service.exec_call_route]
        exact s.prints_call hsettings _
      | foreign r =>
        rw [Service.exec_call_foreign]
        exact .of_events rfl fun o ho => List.mem_singleton.1 ho ▸ rfl
    | none =>
      rw [exec_call_refusing hh hfind hl]
      refine Logger.prints_of_logs h (shows_refusing _ io _ _ _ _).logs fun e he => ?_
      rw [refusalEntries_eq_filter] at he
      exact (List.mem_filter.1 he).2

end Connection

end HttpDispatch
