import HttpDispatch.Proofs.Routing.Following
import HttpDispatch.Proofs.Session.Asking
import HttpDispatch.Proofs.Session.Isolation

/-!
# One shared logger for a session

The shared logger of a session is made when it is first asked for, from the environment as it is
then (`Session.foundingEnviron?`), and stays what it is, whatever becomes of the environment
(`Session.shares_after`).  This is the only time that default logging is warned of
(`Session.fallbacks_seen`).  What was given no logger is an orphan (`Session.Orphan`), and all
orphans log with the shared logger (`Session.Orphan.logsWith`).

Main statement: `Session.shares_one`.
-/

namespace HttpDispatch

namespace Session

open Run

variable {s : Session} {c : Command} {r : Ref Logger} {env : Environ}

/-! ### What a step does to the shared logger -/

theorem keepsLoggers_opened (s : Session) : s.world.KeepsLoggers s.opened.world := ⟨rfl, .refl _⟩

theorem keepsLoggers_of_not_asks (h : s.asks c = false) :
    s.world.KeepsLoggers (s.step c).2.world := by
  refine (keepsLoggers_opened s).trans ?_
  cases hlogs : c.logs with
  | false => exact (abides_of_not_asks hlogs h).toKeepsLoggers
  | true => exact keepsLoggers_of_logs hlogs s.opened

/-- A step keeps the shared logger that is there. -/
theorem keepsLoggers_step (hr : s.world.shared = some r) (c : Command) :
    s.world.KeepsLoggers (s.step c).2.world := by
  cases hasks : s.asks c with
  | false => exact keepsLoggers_of_not_asks hasks
  | true => exact (keepsLoggers_opened s).trans ((asks_of_asks hasks).abides hr).toKeepsLoggers

/-- A step that leaves the shared logger alone does not warn of default logging. -/
theorem fallbacks_of_abides (h : s.opened.world.Abides (s.step c).2.world) :
    Observation.fallbacks (s.step c).1.timeline = 0 := by
  obtain ⟨seen, ht, hs⟩ := h.seen
  have hseen : (s.step c).1.timeline = seen := ht
  rw [hseen, Observation.fallbacks_eq_zero hs]

theorem fallbacks_of_asks (hs : s.world.shared = none) (hasks : s.asks c = true) :
    Observation.fallbacks (s.step c).1.timeline =
      if Environ.isValid s.world.environ then 0 else 1 := by
  obtain ⟨-, seen, ht, hcount⟩ := (asks_of_asks hasks).exists_shares hs
  have hseen : (s.step c).1.timeline = seen := ht
  rw [hseen, hcount]
  rfl

/-! ### What runs do to the shared logger -/

/-- The environment in which a command is first carried out for which this holds. -/
def firstEnviron? (p : Session → Command → Bool) (s : Session) : List Command → Option Environ
  | [] => none
  | c :: rest => if p s c then some s.world.environ else (s.step c).2.firstEnviron? p rest

/-- The environment in which the shared logger is first asked for. -/
def foundingEnviron? (s : Session) (cs : List Command) : Option Environ := s.firstEnviron? asks cs

/-- What is seen while commands are carried out. -/
def seen (s : Session) (cs : List Command) : List Observation := (s.steps cs).1.flatMap (·.timeline)

theorem seen_cons (s : Session) (c : Command) (cs : List Command) :
    s.seen (c :: cs) = (s.step c).1.timeline ++ (s.step c).2.seen cs := rfl

theorem foundingEnviron?_cons_of_asks (h : s.asks c = true) (cs : List Command) :
    s.foundingEnviron? (c :: cs) = some s.world.environ := if_pos h

theorem foundingEnviron?_cons_of_not_asks (h : s.asks c = false) (cs : List Command) :
    s.foundingEnviron? (c :: cs) = (s.step c).2.foundingEnviron? cs :=
  if_neg (by rw [h]; decide)

/-- The shared logger that is there stays, with its settings. -/
theorem shares_of_shares (h : s.world.Shares r env) (cs : List Command) :
    (s.after cs).world.Shares r env := by
  induction cs generalizing s with
  | nil => exact h
  | cons c rest ih => exact ih (h.keeps (keepsLoggers_step h.shared c))

/-- The shared logger is made from the environment in which it is first asked for. -/
theorem shares_after (hs : s.world.shared = none) {cs : List Command}
    (h : s.foundingEnviron? cs = some env) : ∃ r, (s.after cs).world.Shares r env := by
  induction cs generalizing s with
  | nil => nomatch h
  | cons c rest ih =>
    cases hasks : s.asks c with
    | true =>
      rw [foundingEnviron?_cons_of_asks hasks] at h
      obtain rfl := Option.some.inj h
      obtain ⟨⟨r, hr⟩, -⟩ := (asks_of_asks hasks).exists_shares hs
      exact ⟨r, shares_of_shares hr rest⟩
    | false =>
      rw [foundingEnviron?_cons_of_not_asks hasks] at h
      exact ih ((keepsLoggers_of_not_asks hasks).shared.trans hs) h

/-- Before it is asked for, there is no shared logger. -/
theorem shared_after_of_none (hs : s.world.shared = none) {cs : List Command}
    (h : s.foundingEnviron? cs = none) : (s.after cs).world.shared = none := by
  induction cs generalizing s with
  | nil => exact hs
  | cons c rest ih =>
    cases hasks : s.asks c with
    | true =>
      rw [foundingEnviron?_cons_of_asks hasks] at h
      nomatch h
    | false =>
      rw [foundingEnviron?_cons_of_not_asks hasks] at h
      exact ih ((keepsLoggers_of_not_asks hasks).shared.trans hs) h

/-- Where there is a shared logger, default logging is not warned of. -/
theorem fallbacks_seen_of_shared (hr : s.world.shared = some r) {cs : List Command}
    (hcs : ∀ c ∈ cs, c.logs = false) : Observation.fallbacks (s.seen cs) = 0 := by
  induction cs generalizing s with
  | nil => rfl
  | cons c rest ih =>
    have hstep : s.opened.world.Abides (s.step c).2.world := by
      cases hasks : s.asks c with
      | true => exact (asks_of_asks hasks).abides hr
      | false => exact abides_of_not_asks (hcs c List.mem_cons_self) hasks
    have hrest := ih (hstep.shared.trans hr) fun d hd => hcs d (List.mem_cons_of_mem _ hd)
    rw [seen_cons, Observation.fallbacks_append, fallbacks_of_abides hstep, hrest]

/-- Default logging is warned of once, if the shared logger is asked for in an environment that is
not valid. -/
theorem fallbacks_seen (hs : s.world.shared = none) {cs : List Command}
    (hcs : ∀ c ∈ cs, c.logs = false) :
    Observation.fallbacks (s.seen cs) =
      match s.foundingEnviron? cs with
      | some env => if env.isValid then 0 else 1
      | none => 0 := by
  induction cs generalizing s with
  | nil => rfl
  | cons c rest ih =>
    have hrest : ∀ d ∈ rest, d.logs = false := fun d hd => hcs d (List.mem_cons_of_mem _ hd)
    rw [seen_cons, Observation.fallbacks_append]
    cases hasks : s.asks c with
    | true =>
      obtain ⟨⟨r, hr⟩, -⟩ := (asks_of_asks hasks).exists_shares hs
      rw [foundingEnviron?_cons_of_asks hasks, fallbacks_of_asks hs hasks,
        fallbacks_seen_of_shared hr.shared hrest, Nat.add_zero]
    | false =>
      have hstep := abides_of_not_asks (hcs c List.mem_cons_self) hasks
      rw [foundingEnviron?_cons_of_not_asks hasks, fallbacks_of_abides hstep,
        ih (hstep.shared.trans hs) hrest, Nat.zero_add]

/-! ### Those that were given no logger -/

/-- A slot holds what it held. -/
def Estate.SameAt (e e' : Estate) : Slot → Prop
  | .handler name => e'.handlers.get? name = e.handlers.get? name
  | .route name => e'.routes.get? name = e.routes.get? name
  | .factory name => e'.factories.get? name = e.factories.get? name
  | .service name => e'.services.get? name = e.services.get? name
  | .app name => e'.apps.get? name = e.apps.get? name
  | .connection name => e'.connections.get? name = e.connections.get? name

/-- What is in a slot logs with this logger. -/
def Estate.LogsWith (e : Estate) (r : Ref Logger) : Slot → Prop
  | .service name => ∃ sv, e.services.get? name = some sv ∧ sv.logger = r
  | .app name => ∃ a, e.apps.get? name = some a ∧ a.logger = r
  | .connection name => ∃ c, e.connections.get? name = some c ∧ c.LogsWith r
  | _ => False

/-- After some commands, what is in a slot was given no logger. -/
inductive Orphan (s : Session) : List Command → Slot → Prop
  | app {past : List Command} {name : String} {state : AppState} {sources : List RouteSource} :
      Orphan s (past ++ [.makeApp name state none sources]) (.app name)
  | mount {past : List Command} {name : String} {source : RouteSource} :
      Orphan s past (.app name) → Orphan s (past ++ [.mount name source]) (.app name)
  | service {past : List Command} {factory name : String} :
      ((s.after past).step (.activateFactory factory name none)).1.result.isOk →
      Orphan s (past ++ [.activateFactory factory name none]) (.service name)
  /-- A connection without a logger has that of its application. -/
  | connection {past : List Command} {app name : String} :
      Orphan s past (.app app) →
      ((s.after past).step (.connect app name none)).1.result.isOk →
      Orphan s (past ++ [.connect app name none]) (.connection name)
  /-- Whatever happens elsewhere. -/
  | keep {past : List Command} {c : Command} {slot : Slot} :
      Orphan s past slot →
      (s.after past).estate.SameAt ((s.after past).step c).2.estate slot →
      Orphan s (past ++ [c]) slot

theorem Estate.LogsWith.sameAt {e e' : Estate} {slot : Slot} (h : e.LogsWith r slot)
    (hsame : e.SameAt e' slot) : e'.LogsWith r slot := by
  cases slot with
  | service name | app name | connection name =>
    obtain ⟨x, hx, hlogs⟩ := h
    exact ⟨x, hsame.trans hx, hlogs⟩
  | handler name | route name | factory name => exact h.elim

/-- What is in a slot stays what it is while a command writes another one. -/
theorem Orphan.keep_of_slot {past : List Command} {slot : Slot} (h : s.Orphan past slot)
    (hslot : c.slot ≠ some slot) : s.Orphan (past ++ [c]) slot := by
  have hsame := sameBut_step (s.after past) c
  refine h.keep ?_
  cases slot with
  | handler name => exact hsame.handlers hslot
  | route name => exact hsame.routes hslot
  | factory name => exact hsame.factories hslot
  | service name => exact hsame.services hslot
  | app name => exact hsame.apps hslot
  | connection name => exact hsame.connections hslot

/-- Mounting a route does not change the logger of an application. -/
theorem logsWith_mountOn {name : String} (h : s.estate.LogsWith r (.app name))
    (source : RouteSource) : (exec (mountOn name source) s).2.estate.LogsWith r (.app name) := by
  obtain ⟨a, ha, hlogger⟩ := h
  have hfound : exec (find Session.apps name) s = (.ok a, s) := exec_find_eq_ok.2 ⟨ha, rfl⟩
  have hrests := resting_mountable source s
  rw [mountOn, exec_bind_ok hfound, exec_bind]
  cases hm : exec (mountable source) s with
  | mk result s₁ =>
    rw [hm] at hrests
    have happs : s₁.apps = s.apps := congrArg Estate.apps hrests.estate
    have ha₁ : s₁.apps.get? name = some a := happs ▸ ha
    cases result with
    | error stop => exact ⟨a, ha₁, hlogger⟩
    | ok m =>
      simp only
      rw [exec_bind, exec_run]
      cases hmount : Run.exec (a.mount m) s₁.world with
      | mk result w =>
        cases result with
        | error v => exact ⟨a, ha₁, hlogger⟩
        | ok app' =>
          obtain ⟨factory, -, rfl⟩ := mount_eq_ok.1 hmount
          exact ⟨_, Dict.get?_set_self _ _ _, hlogger⟩

theorem logsWith_mountAll {name : String} (h : s.estate.LogsWith r (.app name))
    (sources : List RouteSource) :
    (exec (sources.forM (mountOn name)) s).2.estate.LogsWith r (.app name) := by
  induction sources generalizing s with
  | nil => exact h
  | cons source rest ih =>
    have hfirst := logsWith_mountOn h source
    show (exec (mountOn name source >>= fun _ => rest.forM (mountOn name)) s).2.estate.LogsWith _ _
    rw [exec_bind]
    cases hm : exec (mountOn name source) s with
    | mk result s₁ =>
      rw [hm] at hfirst
      cases result with
      | error stop => exact hfirst
      | ok u => exact ih hfirst

/-- An application that is made without a logger has the shared one. -/
theorem logsWith_makeApp (name : String) (state : AppState) (sources : List RouteSource)
    (s : Session) :
    ∃ r, (s.step (.makeApp name state none sources)).2.world.shared = some r ∧
      (s.step (.makeApp name state none sources)).2.estate.LogsWith r (.app name) := by
  obtain ⟨app, w, hnew⟩ := exists_exec_new state s.opened.world
  have hshared : w.shared = some app.logger := by
    obtain ⟨r, w₁, hr, hmade⟩ := Run.exec_bind_eq_ok.1 hnew
    obtain ⟨happ, rfl⟩ := Prod.mk.inj hmade
    obtain rfl := Except.ok.inj happ
    exact (shared_of_exec hr : w₁.shared = some r)
  let named : Session := { s.opened.inWorld w with apps := s.opened.apps.set name app }
  have hmount : exec (perform (.makeApp name state none sources)) s.opened =
      exec (sources.forM (mountOn name) >>= fun _ => do
        return .paths (← find Session.apps name).paths) named := by
    have hgiven : exec (findOptional Session.loggers none) s.opened = (.ok none, s.opened) := rfl
    rw [perform, exec_bind_ok hgiven, exec_bind_ok (exec_run_eq_ok.2 ⟨w, hnew, rfl⟩)]
    exact exec_bind_ok rfl
  refine ⟨app.logger, ?_, ?_⟩
  · have hrest : Abiding (sources.forM (mountOn name) >>= fun _ => do
        return Reply.paths (← find Session.apps name).paths) :=
      (Abiding.forM (.mountOn name) sources).bind fun _ => (Abiding.find _ name).bind fun _ =>
        .pure _
    rw [step_snd, hmount]
    exact (hrest named).shared.trans hshared
  · rw [step_snd, hmount, exec_bind_snd]
    · have hnamed : named.apps.get? name = some app := Dict.get?_set_self _ _ _
      exact logsWith_mountAll (s := named) ⟨app, hnamed, rfl⟩ sources
    · intro _ s'
      rw [exec_bind_snd fun _ _ => rfl, exec_find]

/-- A service that is made without a logger has the shared one. -/
theorem logsWith_activateFactory {factory name : String}
    (h : (s.step (.activateFactory factory name none)).1.result.isOk) :
    ∃ r, (s.step (.activateFactory factory name none)).2.world.shared = some r ∧
      (s.step (.activateFactory factory name none)).2.estate.LogsWith r (.service name) := by
  obtain ⟨reply, hexec⟩ := exists_exec_of_isOk h
  obtain ⟨f, sv, w, -, hw, hstep⟩ := exec_activateFactory_eq_ok hexec
  obtain ⟨handler, w₁, l, -, hl, rfl⟩ := RouteFactory.activate_eq_ok.1 hw
  rw [hstep]
  exact ⟨l, shared_of_exec hl, _, Dict.get?_set_self _ _ _, rfl⟩

/-- A connection that is made without a logger has that of its application. -/
theorem logsWith_connect {app name : String} (happ : s.estate.LogsWith r (.app app))
    (h : (s.step (.connect app name none)).1.result.isOk) :
    (s.step (.connect app name none)).2.estate.LogsWith r (.connection name) := by
  obtain ⟨a, ha, rfl⟩ := happ
  obtain ⟨a', c, ha', hc, hlogger, hroutes⟩ := connect_snapshot h
  obtain rfl := Option.some.inj (ha'.symm.trans ha)
  have hlogger : c.logger = a'.logger := hlogger
  exact ⟨c, hc, hlogger ▸ Connection.LogsWith.of_forall₂ hroutes⟩

/-- Those that were given no logger log with the shared one. -/
theorem Orphan.logsWith {past : List Command} {slot : Slot} (h : s.Orphan past slot) :
    ∃ r, (s.after past).world.shared = some r ∧ (s.after past).estate.LogsWith r slot := by
  induction h with
  | app =>
    rw [after_append]
    exact logsWith_makeApp ..
  | service hresult =>
    rw [after_append]
    exact logsWith_activateFactory hresult
  | mount _ ih =>
    obtain ⟨r, hr, hlogs⟩ := ih
    rw [after_append, after_cons, after_nil]
    refine ⟨r, (keepsLoggers_step hr _).shared.trans hr, ?_⟩
    rw [step_snd, exec_mount_snd]
    exact logsWith_mountOn (s := (s.after _).opened) hlogs _
  | connection _ hresult ih =>
    obtain ⟨r, hr, hlogs⟩ := ih
    rw [after_append, after_cons, after_nil]
    exact ⟨r, (keepsLoggers_step hr _).shared.trans hr, logsWith_connect hlogs hresult⟩
  | keep _ hsame ih =>
    obtain ⟨r, hr, hlogs⟩ := ih
    rw [after_append, after_cons, after_nil]
    exact ⟨r, (keepsLoggers_step hr _).shared.trans hr, hlogs.sameAt hsame⟩

/-! ### Requests -/

/-- Making a request writes nothing to the log. -/
theorem exec_request_log (init : RequestInit) (w : World) :
    (Run.exec (request init) w).2.timeline = w.timeline ∧
      (Run.exec (request init) w).2.loggers = w.loggers := by
  rw [request]
  cases RequestHead.ofInit? init.head with
  | none => exact ⟨rfl, rfl⟩
  | some head =>
    cases hid : init.traceId <|> head.traceId? with
    | none | some id =>
      simp only [hid]
      exact ⟨rfl, rfl⟩

end Session

/-- The slot of what a command hands a request to. -/
def Command.recipient : Command → Option Session.Slot
  | callService name _ => some (.service name)
  | call name _ _ => some (.connection name)
  | _ => none

namespace Session

open Run

variable {s : Session} {c : Command} {r : Ref Logger} {config : Config}

theorem prints_perform {slot : Slot} (hlogs : s.estate.LogsWith r slot)
    (hr : (s.world.loggers.get r).settings = config.settings) (hc : c.recipient = some slot) :
    s.world.Prints (exec (perform c) s).2.world config := by
  cases c with
  | call name init io =>
    obtain rfl := Option.some.inj hc
    obtain ⟨connection, hconnection, hwith⟩ := hlogs
    rw [exec_call_snd hconnection]
    exact Connection.prints_call hwith hr init io
  | callService name init =>
    obtain rfl := Option.some.inj hc
    obtain ⟨sv, hsv, rfl⟩ := hlogs
    obtain ⟨htimeline, hloggers⟩ := exec_request_log init s.world
    rw [perform, exec_bind_ok (exec_find_eq_ok.2 ⟨hsv, rfl⟩), exec_bind, exec_run]
    cases hrequest : Run.exec (request init) s.world with
    | mk result w =>
      rw [hrequest] at htimeline hloggers
      cases result with
      | error v => exact .of_timeline htimeline
      | ok req =>
        have hsettings : (w.loggers.get sv.logger).settings = config.settings := hloggers ▸ hr
        simp only
        rw [exec_bind_snd fun _ _ => rfl, exec_run]
        exact (World.Prints.of_timeline htimeline).trans (sv.prints_call hsettings req)
  | _ => cases hc

/-- What takes a request prints what the configuration of its logger has it print. -/
theorem prints_step {slot : Slot} (hlogs : s.estate.LogsWith r slot)
    (hr : (s.world.loggers.get r).settings = config.settings) (hc : c.recipient = some slot) :
    config.Prints (s.step c).1.timeline := by
  obtain ⟨seen, ht, hprints⟩ := prints_perform (s := s.opened) hlogs hr hc
  have htimeline : (s.step c).1.timeline = seen := ht
  rwa [htimeline]

/-! ### One shared logger -/

/-- After these commands, the shared logger is this one and follows a configuration, and so do all
that were given no logger. -/
structure Follows (s : Session) (past : List Command) (r : Ref Logger) (config : Config) :
    Prop where
  shared : (s.after past).world.shared = some r
  logger : ((s.after past).world.loggers.get r).Follows config
  orphans : ∀ slot, s.Orphan past slot → (s.after past).estate.LogsWith r slot
  requests : ∀ slot c, s.Orphan past slot → c.recipient = some slot →
    config.Prints ((s.after past).step c).1.timeline

/-- After these commands there is one shared logger, or there is none yet. -/
structure SharesOne (s : Session) (past : List Command) : Prop where
  unasked : s.foundingEnviron? past = none → (s.after past).world.shared = none
  /-- It is the same ever after, and follows the environment in which it was first asked for. -/
  asked : ∀ env, s.foundingEnviron? past = some env →
    ∃ r, ∀ more, s.Follows (past ++ more) r env.config
  /-- Whatever was given no logger was made since. -/
  orphans : ∀ slot, s.Orphan past slot → (s.foundingEnviron? past).isSome
  /-- Default logging was warned of once, if that environment is not valid. -/
  fallbacks : (∀ c ∈ past, c.logs = false) →
    Observation.fallbacks (s.seen past) =
      match s.foundingEnviron? past with
      | some env => if env.isValid then 0 else 1
      | none => 0

theorem sharesOne_of_none (hs : s.world.shared = none) (past : List Command) :
    s.SharesOne past where
  unasked := shared_after_of_none hs
  asked env henv := by
    obtain ⟨r, hr⟩ := shares_after hs henv
    refine ⟨r, fun more => ?_⟩
    have hmore : (s.after (past ++ more)).world.Shares r env := by
      rw [after_append]
      exact shares_of_shares hr more
    have hsettings := hmore.settings.trans (Settings.ofEnviron_eq env)
    have horphans : ∀ slot, s.Orphan (past ++ more) slot →
        (s.after (past ++ more)).estate.LogsWith r slot := by
      intro slot horphan
      obtain ⟨q, hq, hlogs⟩ := horphan.logsWith
      obtain rfl := Option.some.inj (hq.symm.trans hmore.shared)
      exact hlogs
    exact ⟨hmore.shared, Logger.follows_of_settings hsettings, horphans,
      fun slot c horphan => prints_step (horphans slot horphan) hsettings⟩
  orphans slot horphan := by
    obtain ⟨r, hr, -⟩ := horphan.logsWith
    cases henv : s.foundingEnviron? past with
    | some env => rfl
    | none => nomatch hr.symm.trans (shared_after_of_none hs henv)
  fallbacks := fallbacks_seen hs

/-- A logger can always be made from an environment, and a session makes one that is shared by all
that are given none, the first time that it is asked for. -/
theorem shares_one :
    (∀ env w, ∃ r w', Run.exec (configuredLogger env) w = (.ok r, w') ∧
      World.Configures env w w' r) ∧
    ∀ clock draws environ past, (start clock draws environ).SharesOne past :=
  ⟨exists_configures, fun _ _ _ past => sharesOne_of_none rfl past⟩

/-- An environment that is not valid. -/
def loud : Environ := Dict.set ∅ "LOG_LEVEL" "loud"

/-- An application is made in such an environment.  Then a file adds to it, and the application is
connected. -/
def persisting : List Command :=
  [.makeApp "a" ⟨none⟩ none [], .writeFile ".env" "LOG_JSON=true", .loadEnvFile "",
    .connect "a" "c" none]

/-- The connection keeps to plain logging, of which was warned once. -/
theorem shares_one_loud :
    (∃ r, (start 0 [] loud).Follows persisting r ⟨.info, false⟩) ∧
      (start 0 [] loud).Orphan persisting (.connection "c") ∧
      Observation.fallbacks ((start 0 [] loud).seen persisting) = 1 := by
  have hshares := shares_one.2 0 [] loud persisting
  have hfounding : (start 0 [] loud).foundingEnviron? persisting = some loud :=
    foundingEnviron?_cons_of_asks rfl _
  refine ⟨?_, ?_, ?_⟩
  · obtain ⟨r, hr⟩ := hshares.asked loud hfounding
    have hplain : loud.config = ⟨.info, false⟩ := by decide +kernel
    exact ⟨r, hplain ▸ hr []⟩
  · have hmade : (start 0 [] loud).Orphan [.makeApp "a" ⟨none⟩ none []] (.app "a") :=
      @Orphan.app _ [] _ _ _
    have hwritten := hmade.keep_of_slot (c := .writeFile ".env" "LOG_JSON=true") nofun
    have hloaded := hwritten.keep_of_slot (c := .loadEnvFile "") nofun
    exact hloaded.connection (by decide +kernel)
  · have hinvalid : loud.isValid = false := by decide +kernel
    rw [hshares.fallbacks (by decide), hfounding]
    simp only [hinvalid]
    rfl

/-! ### An activation that fails -/

/-- A handler of which only one clone can be made. -/
def stubborn : Script := ⟨"copy", some .copy, 0, some (.undefined, 2), [], []⟩

/-- A factory is activated without a logger, which fails.  Then a file sets the level, and an
application is made. -/
def belated : List Command :=
  [.declareRoute "r" ⟨"/", true, none, [], [], .given stubborn⟩, .createFactory "r" "f",
    .activateFactory "f" "s" none, .writeFile ".env" "LOG_LEVEL=error", .loadEnvFile "",
    .makeApp "a" ⟨none⟩ none []]

/-- The shared logger need not have the settings of the environment in which a factory is first
activated without a logger, or an application is first made: the activation may fail before it asks
for the logger. -/
theorem exists_settings_ne :
    ¬ ∀ cs env r, (start 0 [] ∅).firstEnviron? (fun _ c => c.mayAsk) cs = some env →
      ((start 0 [] ∅).after cs).world.shared = some r →
      (((start 0 [] ∅).after cs).world.loggers.get r).settings = .ofEnviron env := by
  intro h
  have hfirst : ((start 0 [] ∅).firstEnviron? (fun _ c => c.mayAsk) belated).map
      (fun env => (Settings.ofEnviron env).level) = some .info := by decide +kernel
  have hshared : ((start 0 [] ∅).after belated).world.shared = some ⟨0⟩ := by decide +kernel
  have hlevel : (((start 0 [] ∅).after belated).world.loggers.get ⟨0⟩).settings.level = .error := by
    decide +kernel
  obtain ⟨env, henv, hinfo⟩ := Option.map_eq_some_iff.1 hfirst
  rw [h belated env ⟨0⟩ henv hshared, hinfo] at hlevel
  nomatch hlevel

end Session

end HttpDispatch
