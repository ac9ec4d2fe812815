import HttpDispatch.Log.Logger
import HttpDispatch.Proofs.World.Frame

/-!
# What has become of loggers

Three things are done to loggers: one is made, a child of one is made, and one is moved to a trace
or out of any.  What a logger puts on its entries is decided by the last thing that was done to the
logger itself (`LoggerAct.stampOf`), where a child begins with what its parent had at that moment;
and its settings are those of the root of its tree (`LoggerAct.settingsOf`).  Both are said here of
a history and nothing else, and a store of loggers in which all of it has been done tells the same
(`LoggerAct.Reflects.applyTo`).
-/

namespace HttpDispatch

/-- What a logger puts on its entries. -/
structure Stamp where
  traceId : Option String
  spanId : Option String
deriving DecidableEq, Repr

namespace Stamp

/-- The stamp of a position in a trace, or of none. -/
def ofTrace (t : Option Trace) : Stamp := ⟨t.map Trace.traceId, t.bind Trace.spanId⟩

/-- The stamp where a position says something, and otherwise the inherited one. -/
def overriding (inherited : Stamp) (t : Trace) : Stamp :=
  ⟨some t.traceId, t.spanId <|> inherited.spanId⟩

/-- The entry that is made of a message under this stamp. -/
def entry (stamp : Stamp) (clock : Int) (level : Level) (message : String) (context : Option Json)
    (error : Option ErrorSummary) : Entry :=
  { level, message, context, error
    timestamp := Timestamp.text clock
    traceId := stamp.traceId
    spanId := stamp.spanId }

theorem ofTrace_child (l : Logger) (t : Trace) :
    ofTrace (l.child t).trace = (ofTrace l.trace).overriding t := by
  rw [Logger.child]
  cases l.trace with
  | none => cases ht : t.spanId <;> simp [ofTrace, overriding, Trace.inheriting, ht]
  | some p => rfl

end Stamp

/-- Something that is done to a logger. -/
inductive LoggerAct
  /-- It is made, outside any trace. -/
  | made (r : Ref Logger) (settings : Settings)
  /-- It is made as a child of another one, with a position in a trace. -/
  | child (r parent : Ref Logger) (t : Trace)
  /-- It is moved to a position in a trace, or out of any. -/
  | moved (r : Ref Logger) (t : Option Trace)

namespace LoggerAct

/-- The logger that it is done to. -/
def target : LoggerAct → Ref Logger
  | made r _ | child r _ _ | moved r _ => r

/-- What a logger puts on its entries after a history, which is told from its end. -/
def stampOf : List LoggerAct → Ref Logger → Stamp
  | [], _ => .ofTrace none
  | made q _ :: earlier, r => if q = r then .ofTrace none else stampOf earlier r
  | child q parent t :: earlier, r =>
    if q = r then (stampOf earlier parent).overriding t else stampOf earlier r
  | moved q t :: earlier, r => if q = r then .ofTrace t else stampOf earlier r

/-- The settings that the root of the tree was made with in which a logger stands after a
history. -/
def settingsOf : List LoggerAct → Ref Logger → Settings
  | [], _ => .default
  | made q settings :: earlier, r => if q = r then settings else settingsOf earlier r
  | child q parent _ :: earlier, r =>
    if q = r then settingsOf earlier parent else settingsOf earlier r
  | moved _ _ :: earlier, r => settingsOf earlier r

/-- The loggers after it. -/
def applyTo (a : LoggerAct) (s : Store Logger) : Store Logger :=
  match a with
  | made _ settings => s.push (.ofSettings settings)
  | child _ parent t => s.push ((s.get parent).child t)
  | moved r t => s.modify r (·.withTrace t)

/-- Whether it can be done: a new logger takes the next place, and one that is moved is there. -/
def Fits (a : LoggerAct) (s : Store Logger) : Prop :=
  match a with
  | made r _ | child r _ _ => r = s.next
  | moved r _ => s.Holds r

variable {a : LoggerAct} {s : Store Logger} {r : Ref Logger}

/-- It leaves the other loggers alone. -/
theorem get_applyTo_of_ne (hfits : a.Fits s) (h : a.target ≠ r) : (a.applyTo s).get r = s.get r := by
  cases a with
  | made q settings =>
    obtain rfl : q = s.next := hfits
    exact Store.get_push_of_ne h.symm _
  | child q parent t =>
    obtain rfl : q = s.next := hfits
    exact Store.get_push_of_ne h.symm _
  | moved q t => exact Store.get_modify_ne h.symm _

theorem holds_applyTo (a : LoggerAct) (h : s.Holds r) : (a.applyTo s).Holds r := by
  cases a with
  | made q settings => exact Store.holds_push h _
  | child q parent t => exact Store.holds_push h _
  | moved q t => exact (Store.holds_modify s q r _).2 h

variable {history : List LoggerAct}

theorem stampOf_cons_of_ne (h : a.target ≠ r) : stampOf (a :: history) r = stampOf history r := by
  cases a <;> exact if_neg h

theorem settingsOf_cons_of_ne (h : a.target ≠ r) :
    settingsOf (a :: history) r = settingsOf history r := by
  cases a with
  | made q settings => exact if_neg h
  | child q parent t => exact if_neg h
  | moved q t => rfl

/-- What is done to other loggers changes nothing about what a logger puts on its entries. -/
theorem stampOf_append_of_ne {later : List LoggerAct} (h : ∀ a ∈ later, a.target ≠ r) :
    stampOf (later ++ history) r = stampOf history r := by
  induction later with
  | nil => rfl
  | cons a later ih =>
    rw [List.cons_append, stampOf_cons_of_ne (h a List.mem_cons_self)]
    exact ih fun b hb => h b (List.mem_cons_of_mem a hb)

theorem settingsOf_append_of_ne {later : List LoggerAct} (h : ∀ a ∈ later, a.target ≠ r) :
    settingsOf (later ++ history) r = settingsOf history r := by
  induction later with
  | nil => rfl
  | cons a later ih =>
    rw [List.cons_append, settingsOf_cons_of_ne (h a List.mem_cons_self)]
    exact ih fun b hb => h b (List.mem_cons_of_mem a hb)

/-- The loggers are as a history tells. -/
def Reflects (s : Store Logger) (history : List LoggerAct) : Prop :=
  ∀ r, Stamp.ofTrace (s.get r).trace = stampOf history r ∧
    (s.get r).settings = settingsOf history r

theorem reflects_empty : Reflects .empty [] := fun _ => ⟨rfl, rfl⟩

/-- What is done is told next. -/
theorem Reflects.applyTo (h : Reflects s history) (hfits : a.Fits s) :
    Reflects (a.applyTo s) (a :: history) := by
  intro r
  by_cases hr : a.target = r
  · subst hr
    cases a with
    | made q settings =>
      obtain rfl : q = s.next := hfits
      simp [LoggerAct.applyTo, target, stampOf, settingsOf, Logger.ofSettings]
    | child q parent t =>
      obtain rfl : q = s.next := hfits
      simp [LoggerAct.applyTo, target, stampOf, settingsOf, Stamp.ofTrace_child, h parent]
    | moved q t =>
      have hq : s.Holds q := hfits
      simp [LoggerAct.applyTo, target, stampOf, settingsOf, Store.get_modify_self hq, h q,
        Logger.withTrace]
  · rw [get_applyTo_of_ne hfits hr, stampOf_cons_of_ne hr, settingsOf_cons_of_ne hr]
    exact h r

end LoggerAct

end HttpDispatch
