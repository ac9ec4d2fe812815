import HttpDispatch.Http.Params
import HttpDispatch.Text.Percent
import HttpDispatch.Text.Split

/-!
# Path patterns

A pattern is a path some of whose segments, those that begin with a colon, capture whatever
stands in their place.  Slashes only separate: empty segments count neither in a pattern nor in
a path.  A path fits if it has as many segments as the pattern and agrees with it on the literal
ones, character for character.  A capture yields the decoded segment, or the segment as it
stands where it is no proper percent encoding.
-/

namespace HttpDispatch

/-- One segment of a path pattern. -/
inductive Segment
  | literal (text : String)
  | capture (name : String)
deriving DecidableEq, Repr

namespace Segment

/-- A colon marks a capture, and the text after it is its name. -/
def ofString (text : String) : Segment :=
  match text.toList with
  | ':' :: name => .capture (String.ofList name)
  | _ => .literal text

/-- Whether a segment of a path may stand in this place. -/
def admits : Segment → String → Bool
  | .literal text, segment => text == segment
  | .capture _, _ => true

end Segment

/-- The non-empty segments of a path or a pattern. -/
def pathSegments (path : String) : List String :=
  (Text.piecesBetween '/' path.toList).map String.ofList

/-- A segment as a parameter: decoded, if it is a percent encoding. -/
def decodeSegment (segment : String) : String :=
  (Percent.decode? segment).getD segment

/-- A path pattern, given by its text. -/
structure Pattern where
  source : String
deriving DecidableEq, Repr

namespace Pattern

/-- The segments of the pattern. -/
def segments (p : Pattern) : List Segment :=
  (pathSegments p.source).map Segment.ofString

/-- Adds to `params` what the segments capture, if they admit the segments of a path. -/
def captures? : List Segment → List String → Params → Option Params
  | [], [], params => some params
  | s :: ss, t :: ts, params =>
    match s with
    | .literal text => if text = t then captures? ss ts params else none
    | .capture name => captures? ss ts (params.assign name (decodeSegment t))
  | _, _, _ => none

/-- The parameters that the pattern captures from a path, if the path fits it. -/
def params? (p : Pattern) (path : String) : Option Params :=
  captures? p.segments (pathSegments path) ∅

end Pattern

end HttpDispatch
