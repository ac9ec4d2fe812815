import HttpDispatch.Dict

/-!
# Transports

A transport takes text until it is ended or destroyed, and nothing that is written to a closed
transport shows.  What a transport does of its own accord it does when whoever writes has
finished: then it settles.

A direct transport passes a text on at once, and is destroyed by settling after its ending.  A
slow one passes on one text at a time: the texts written meanwhile wait until it settles, and are
lost if it is destroyed before.  The others fail, at every write or at the ending.  A failed write
destroys the transport when it settles, and is never seen if the transport is destroyed before; a
failed ending destroys the transport at once, so that it is always seen.
-/

namespace HttpDispatch

/-- How a transport goes about its work, and the message with which it fails. -/
inductive Transport.Kind
  | direct
  | slow
  | failsWrite (message : String)
  | failsEnd (message : String)
deriving DecidableEq, Repr

/-- A transport: the text it has passed on, and how it stands. -/
structure Transport where
  kind : Transport.Kind
  output : String
  /-- What waits behind the text that is being passed on, if one is. -/
  waiting : Option String
  ended : Bool
  destroyed : Bool
  /-- The message of a failure that is not seen yet. -/
  failure : Option String
deriving DecidableEq, Repr

namespace Transport

/-- A transport on which nothing has happened. -/
def fresh (kind : Kind) : Transport := ⟨kind, "", none, false, false, none⟩

instance : Inhabited Transport := ⟨fresh .direct⟩

/-- Whether the transport takes no more text. -/
def closed (t : Transport) : Bool := t.destroyed || t.ended

/-- Whether something that is done to the transport has an effect. -/
def responsive (t : Transport) : Bool := !t.closed && t.failure.isNone

/-- Writes a text. -/
def write (t : Transport) (text : String) : Transport :=
  if t.responsive then
    match t.kind, t.waiting with
    | .failsWrite message, _ => { t with failure := some message }
    | _, some behind => { t with waiting := some (behind ++ text) }
    | .slow, none => { t with output := t.output ++ text, waiting := some "" }
    | _, none => { t with output := t.output ++ text }
  else t

/-- Ends the transport for writing. -/
def finish (t : Transport) : Transport :=
  if t.responsive then
    match t.kind with
    | .failsEnd message => { t with ended := true, destroyed := true, failure := some message }
    | _ => { t with ended := true }
  else t

/-- Destroys the transport, unless it is destroyed already. -/
def destroy (t : Transport) : Transport :=
  if t.destroyed then t else { t with destroyed := true, waiting := none, failure := none }

/-- Whether the transport is destroyed by settling. -/
def collapses (t : Transport) : Bool :=
  t.failure.isSome || (t.kind == .direct && t.ended)

/-- Passes on what waits, and lets a failure be seen. -/
def settle (t : Transport) : Transport :=
  { t with
    output := t.output ++ t.waiting.getD ""
    waiting := none
    destroyed := t.destroyed || t.collapses
    failure := none }

end Transport

end HttpDispatch
