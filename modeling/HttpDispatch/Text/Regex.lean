/-!
# Regular expressions

Expressions with an order of preference.  A choice prefers its left side, a greedy repetition
prefers to go on, a reluctant one to stop, and a match is the first one in that order that lets
the rest of the expression match: matching hands what comes after as a continuation and tries the
alternatives until it succeeds.  Groups record what they matched, and a back reference matches
the same text again.

A repetition goes on only while it consumes something, so the length of the text bounds it.
-/

namespace HttpDispatch.Text

/-- A regular expression over characters. -/
inductive Regex
  /-- A character of a class. -/
  | one (accepts : Char → Bool)
  /-- The start of a line. -/
  | lineStart
  /-- The end of a line. -/
  | lineEnd
  /-- Nothing. -/
  | empty
  | seq (first second : Regex)
  | alt (preferred other : Regex)
  /-- Any number of times, as often as possible if greedy. -/
  | star (greedy : Bool) (body : Regex)
  /-- Records what the body matches under a number. -/
  | group (index : Nat) (body : Regex)
  /-- What the group of a number matched. -/
  | same (index : Nat)

namespace Regex

/-- Where a match stands: the character before, the text after, and the groups recorded. -/
structure Position where
  before : Option Char
  rest : List Char
  groups : List (Nat × List Char)

/-- The characters that end a line. -/
def isLineBreak (c : Char) : Bool :=
  c = '\n' || c = '\r' || c = '\u2028' || c = '\u2029'

/-- What a group matched; nothing, if it did not take part. -/
def Position.group (p : Position) (index : Nat) : List Char :=
  (p.groups.lookup index).getD []

/-- Takes a text off the front. -/
def take? (text : List Char) (p : Position) : Option Position :=
  match text, p.rest with
  | [], _ => some p
  | c :: text, d :: rest =>
    if c = d then take? text { p with before := some d, rest } else none
  | _ :: _, [] => none

/-- Repeats a step that is given its own continuation, as often as the bound allows, and only
while text is consumed. -/
def repeatStep {α : Type} (greedy : Bool)
    (step : Position → (Position → Option α) → Option α) (after : Position → Option α) :
    Nat → Position → Option α
  | 0, p => after p
  | bound + 1, p =>
    let again := fun (_ : Unit) => step p fun q =>
      if q.rest.length < p.rest.length then repeatStep greedy step after bound q else none
    if greedy then (again ()).orElse fun _ => after p
    else (after p).orElse again

/-- Matches an expression at a position and goes on from where it ends. -/
def run {α : Type} : Regex → Position → (Position → Option α) → Option α
  | .one accepts, p, after =>
    match p.rest with
    | c :: rest => if accepts c then after { p with before := some c, rest } else none
    | [] => none
  | .lineStart, p, after => if p.before.all isLineBreak then after p else none
  | .lineEnd, p, after => if p.rest.head?.all isLineBreak then after p else none
  | .empty, p, after => after p
  | .seq r s, p, after => run r p fun q => run s q after
  | .alt r s, p, after => (run r p after).orElse fun _ => run s p after
  | .star greedy body, p, after => repeatStep greedy (run body) after p.rest.length p
  | .group index body, p, after =>
    run body p fun q =>
      let matched := p.rest.take (p.rest.length - q.rest.length)
      after { q with groups := (index, matched) :: q.groups }
  | .same index, p, after => (take? (p.group index) p).bind after

/-- The end of the preferred match that starts at a position. -/
def matchAt? (r : Regex) (before : Option Char) (text : List Char) : Option Position :=
  run r ⟨before, text, []⟩ some

/-- What a text consists of, seen by an expression: characters outside all matches, and matches.
Matches do not overlap and are found from left to right; a match of nothing is passed over. -/
inductive Piece
  | skipped (c : Char)
  | found (p : Position)

/-- The pieces of a text, from a position on. -/
def piecesFrom (r : Regex) : Nat → Option Char → List Char → List Piece
  | 0, _, _ => []
  | _ + 1, _, [] => []
  | bound + 1, before, c :: rest =>
    match matchAt? r before (c :: rest) with
    | some p =>
      if p.rest.length < rest.length + 1 then .found p :: piecesFrom r bound p.before p.rest
      else .skipped c :: piecesFrom r bound (some c) rest
    | none => .skipped c :: piecesFrom r bound (some c) rest

/-- The pieces of a text. -/
def pieces (r : Regex) (text : List Char) : List Piece :=
  piecesFrom r text.length none text

/-- Where the matches in a text end, with the groups that they record. -/
def findAll (r : Regex) (text : List Char) : List Position :=
  (pieces r text).filterMap fun
    | .found p => some p
    | .skipped _ => none

/-- The text with every match replaced. -/
def replace (r : Regex) (replacement : Position → List Char) (text : List Char) : List Char :=
  (pieces r text).flatMap fun
    | .found p => replacement p
    | .skipped c => [c]

/-- One or more times. -/
def plus (greedy : Bool) (r : Regex) : Regex := .seq r (.star greedy r)

/-- Once if possible. -/
def optional (r : Regex) : Regex := .alt r .empty

/-- A given character. -/
def char (c : Char) : Regex := .one (· == c)

/-- A given text. -/
def literal (s : String) : Regex := s.toList.foldr (fun c r => .seq (char c) r) .empty

/-- One after the other. -/
def concat (rs : List Regex) : Regex := rs.foldr .seq .empty

end Regex

end HttpDispatch.Text
