import HttpDispatch.Dict
import HttpDispatch.FileTree
import HttpDispatch.Log.Logger
import HttpDispatch.Transport
import HttpDispatch.World.Observation

/-!
# The world of a program

All that a program of handlers, loggers and connections changes or observes: the clock, the
random draws, the environment and the files, the objects that are shared, the transports, and the
timeline of what can be seen from outside.
-/

namespace HttpDispatch

/-- All that a program changes or observes. -/
structure World where
  clock : Int
  /-- The random draws, numbers below 2^16, that come round again. -/
  draws : List Nat
  drawn : Nat
  environ : Dict String
  files : FileTree
  loggers : Store Logger
  /-- The logger of those that are given none, once it has been needed. -/
  shared : Option (Ref Logger)
  handlers : Store Handler
  states : Store AppState
  transports : Dict Transport
  timeline : List Observation

namespace World

/-- The world before anything has happened. -/
def initial (clock : Int) (draws : List Nat) (environ : Dict String) : World :=
  { clock, draws, environ
    drawn := 0
    files := .empty
    loggers := .empty
    shared := none
    handlers := .empty
    states := .empty
    transports := ∅
    timeline := [] }

/-- The next random draw. -/
def nextDraw (w : World) : Nat :=
  w.draws.getD (w.drawn % w.draws.length) 0

/-- A transport; one that is not there yet is direct and fresh. -/
def transport (w : World) (io : String) : Transport :=
  (w.transports.get? io).getD default

end World

end HttpDispatch
