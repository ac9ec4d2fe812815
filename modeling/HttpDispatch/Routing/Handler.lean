import HttpDispatch.Http.Request
import HttpDispatch.Failure.Value

/-!
# Handlers

A handler answers a request by doing something to its transport and to the state of the
application, and by an outcome.  An outcome may come at once or later, as a promise or as an
object that promises to call back; `settle` says which outcomes are failures, and with what.

Handlers count the requests they handle, and their behaviour is given by that count.  A handler
is either a plain function, of which there is only one, or can be cloned: into a copy that goes on
counting from where the handler stands, into a fresh one, or into itself.  The clones of one
handler are its family, and cloning may be made to fail from some clone of the family on.
-/

namespace HttpDispatch

/-- What an object that is not a promise does when it is asked for its outcome; what it may throw or
fail with is of the type `ε`. -/
inductive Deferred (ε : Type)
  /-- Calls back with a success. -/
  | resolves (v : Value)
  /-- Calls back with a failure. -/
  | rejects (e : ε)
  /-- Throws without having called back. -/
  | raises (e : ε)
  /-- Calls back with a success of no value, and then throws. -/
  | resolvesThenRaises (e : ε)
  /-- Cannot even be asked. -/
  | unreadable (e : ε)
  /-- Has nothing to ask. -/
  | inert
deriving Inhabited

/-- How a handler leaves a request. -/
inductive Outcome (ε : Type)
  /-- Returns something that is no promise. -/
  | returned (v : Value)
  /-- Throws at once. -/
  | raised (e : ε)
  /-- Returns a promise that is fulfilled. -/
  | fulfilled (v : Value)
  /-- Returns a promise that is rejected. -/
  | rejected (e : ε)
  /-- Returns an object that is asked for its outcome. -/
  | deferred (d : Deferred ε)
deriving Inhabited

/-- The same object with its failures told in another way. -/
def Deferred.map {ε ε' : Type} (f : ε → ε') : Deferred ε → Deferred ε'
  | resolves v => .resolves v
  | rejects e => .rejects (f e)
  | raises e => .raises (f e)
  | resolvesThenRaises e => .resolvesThenRaises (f e)
  | unreadable e => .unreadable (f e)
  | inert => .inert

namespace Outcome

variable {ε ε' : Type}

/-- The outcome of a handler that has nothing to say. -/
def silent : Outcome ε := .returned .undefined

/-- The same outcome with its failures told in another way. -/
def map (f : ε → ε') : Outcome ε → Outcome ε'
  | returned v => .returned v
  | raised e => .raised (f e)
  | fulfilled v => .fulfilled v
  | rejected e => .rejected (f e)
  | deferred d => .deferred (d.map f)

/-- What an outcome comes to: success or failure, either with a value.  Only the first answer of
an object that is asked counts, and one that has nothing to ask is a value itself. -/
def settle : Outcome ε → Except ε Value
  | returned v | fulfilled v | deferred (.resolves v) => .ok v
  | deferred (.resolvesThenRaises _) => .ok .undefined
  | deferred .inert => .ok .inert
  | raised e | rejected e => .error e
  | deferred (.rejects e) | deferred (.raises e) | deferred (.unreadable e) => .error e

/-- Throwing and rejecting come to the same. -/
theorem settle_raised (e : ε) : settle (.raised e) = settle (.rejected e) := rfl

theorem settle_map (f : ε → ε') (o : Outcome ε) : (o.map f).settle = o.settle.mapError f := by
  cases o with
  | deferred d => cases d <;> rfl
  | _ => rfl

end Outcome

/-- What a handler does to a request, beside its outcome. -/
inductive Action
  /-- Writes a text to the transport. -/
  | write (text : String)
  /-- Writes a text to the transport and ends it. -/
  | finish (text : String)
  /-- Destroys the transport. -/
  | destroy
  /-- Adds one to a member of the state. -/
  | bump (key : String)
deriving DecidableEq, Repr

/-- What the clone of a handler counts from. -/
inductive Cloning
  /-- From where the handler stands. -/
  | copy
  /-- From the start. -/
  | fresh
  /-- The clone is the handler itself. -/
  | same
deriving DecidableEq, Repr

/-- The behaviour of a handler. -/
structure Script where
  name : String
  /-- How it is cloned, if it is no plain function. -/
  cloning : Option Cloning
  /-- The count at which it starts. -/
  start : Int
  /-- What cloning throws, and from which clone of the family on. -/
  cloneFailure : Option (Value × Nat)
  actions : List Action
  outcomes : List (Outcome Value)

namespace Script

/-- The outcome of the handling that brings the count to `n`: the outcomes in order, and the
last one from then on.  Up to zero there is none. -/
def outcome (s : Script) (n : Int) : Outcome Value :=
  match min n.toNat s.outcomes.length with
  | 0 => .silent
  | k + 1 => (s.outcomes[k]?).getD .silent

end Script

/-- A handler as it stands. -/
structure Handler where
  script : Script
  /-- The requests it has handled, counted from the start of its script. -/
  count : Int
  /-- The handler that it descends from, if it is a clone. -/
  origin : Option (Ref Handler)
  /-- The clones that were asked of it and its descendants, if it is no clone itself. -/
  clones : Nat

instance : Inhabited Script := ⟨⟨"", none, 0, none, [], []⟩⟩

instance : Inhabited Handler := ⟨⟨default, 0, none, 0⟩⟩

namespace Handler

/-- A handler at the start of its script. -/
def ofScript (s : Script) : Handler := ⟨s, s.start, none, 0⟩

/-- The handler at the head of the family. -/
def family (h : Handler) (self : Ref Handler) : Ref Handler := h.origin.getD self

end Handler

end HttpDispatch
