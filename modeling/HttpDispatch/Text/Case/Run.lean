/-!
# Runs of case pairs

Case pairs of Unicode come in runs: a stretch of characters, taken one by one or every second
one, each of which has its partner at the same distance.  A mapping is a list of such runs.
-/

namespace HttpDispatch.Text

/-- `count` characters, `step` apart from `source` on, whose partners are as far apart from
`target` on. -/
structure CaseRun where
  source : Nat
  target : Nat
  count : Nat
  step : Nat
deriving DecidableEq, Repr

namespace CaseRun

/-- Whether the run pairs this code point. -/
def covers (r : CaseRun) (n : Nat) : Bool :=
  r.source ≤ n && n ≤ r.source + (r.count - 1) * r.step && (n - r.source) % r.step == 0

/-- The partner of a code point of the run. -/
def image (r : CaseRun) (n : Nat) : Nat :=
  r.target + (n - r.source)

end CaseRun

/-- The mapping given by runs and, before them, by characters that become several.  A code point
in neither is its own image. -/
def mapCodePoint (runs : List CaseRun) (expansions : List (Nat × List Nat)) (n : Nat) : List Nat :=
  match expansions.lookup n with
  | some image => image
  | none =>
    match runs.find? (·.covers n) with
    | some r => [r.image n]
    | none => [n]

end HttpDispatch.Text
