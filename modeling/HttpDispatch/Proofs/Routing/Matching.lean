import HttpDispatch.Proofs.Text.Decoding
import Mathlib.Data.List.Forall2
import Mathlib.Logic.Relation

/-!
# Which paths a pattern fits

A pattern and a path are compared segment by segment, where their segments are what stands between
slashes and is not empty.

* `Pattern.captures?_isSome_iff`: the path fits exactly if each of its segments is admitted by the
  one in its place.
* `Pattern.get?_captures?_of_last`, `Pattern.contains_captures?_iff`: what the captures assign.
* `SameButSlashes.pathSegments_eq`: further slashes separate nothing.
* `Pattern.params?_exact`: **all of this together**.
-/

namespace HttpDispatch

/-! ### Segments -/

namespace Text

theorem splitAtEach_eq_splitOn (separator : Char) (cs : List Char) :
    splitAtEach separator cs = cs.splitOn separator := by
  induction cs with
  | nil => rfl
  | cons c rest ih =>
    rw [splitAtEach, List.splitOn_cons_eq_if_modifyHead, ih]
    by_cases hc : c = separator
    · rw [if_pos hc, if_pos (beq_iff_eq.2 hc)]
    · rw [if_neg hc, if_neg (mt beq_iff_eq.1 hc)]
      cases hs : rest.splitOn separator with
      | nil => exact absurd hs (List.splitOn_ne_nil _ _)
      | cons piece pieces => rfl

/-- A separator has on either side the pieces of what stands there. -/
theorem piecesBetween_append (separator : Char) (before after : List Char) :
    piecesBetween separator (before ++ separator :: after) =
      piecesBetween separator before ++ piecesBetween separator after := by
  simp only [piecesBetween, splitAtEach_eq_splitOn]
  rw [List.splitOn_append_cons_self, List.filter_append]

end Text

/-- The pieces of a text between slashes that are not empty. -/
def slashPieces (s : String) : List String :=
  ((s.toList.splitOn '/').filter fun piece => !piece.isEmpty).map String.ofList

theorem pathSegments_eq_slashPieces (s : String) : pathSegments s = slashPieces s := by
  rw [pathSegments, Text.piecesBetween, Text.splitAtEach_eq_splitOn, slashPieces]

/-- One text comes from another by a further slash, at an end or next to a slash. -/
inductive AddsSlash : String → String → Prop
  | atStart (b : String) : AddsSlash b ("/" ++ b)
  | atEnd (a : String) : AddsSlash a (a ++ "/")
  | nextToSlash (a b : String) : AddsSlash (a ++ "/" ++ b) (a ++ "//" ++ b)

/-- Two texts differ in slashes that separate nothing: such were added and removed. -/
def SameButSlashes : String → String → Prop := Relation.EqvGen AddsSlash

theorem pathSegments_append (a b : String) :
    pathSegments (a ++ "/" ++ b) = pathSegments a ++ pathSegments b := by
  have hlist : (a ++ "/" ++ b).toList = a.toList ++ '/' :: b.toList := by
    rw [String.toList_append, String.toList_append, List.append_assoc]
    rfl
  rw [pathSegments, hlist, Text.piecesBetween_append, List.map_append]
  rfl

theorem AddsSlash.pathSegments_eq {s t : String} (h : AddsSlash s t) :
    pathSegments s = pathSegments t := by
  have hempty : pathSegments "" = [] := by decide
  cases h with
  | atStart =>
    have hb := pathSegments_append "" s
    rw [String.empty_append, hempty, List.nil_append] at hb
    exact hb.symm
  | atEnd =>
    have ha := pathSegments_append s ""
    rw [String.append_empty, hempty, List.append_nil] at ha
    exact ha.symm
  | nextToSlash a b =>
    have htwo : a ++ "//" ++ b = (a ++ "/" ++ "") ++ "/" ++ b := by
      simp only [String.append_assoc]
      rfl
    rw [htwo, pathSegments_append, pathSegments_append, pathSegments_append, hempty,
      List.append_nil]

/-- A text has the same segments after slashes were added and removed that separate nothing. -/
theorem SameButSlashes.pathSegments_eq {s t : String} (h : SameButSlashes s t) :
    pathSegments s = pathSegments t := by
  induction h with
  | rel s t h => exact h.pathSegments_eq
  | refl s => rfl
  | symm s t _ ih => exact ih.symm
  | trans s t u _ _ ih ih' => exact ih.trans ih'

namespace Segment

theorem ofString_eq_capture_iff {s name : String} :
    ofString s = .capture name ↔ s = ":" ++ name := by
  have hlist : (":" ++ name).toList = ':' :: name.toList := String.toList_append
  rw [ofString]
  split
  · next text htext =>
    rw [capture.injEq, ← String.toList_inj, ← String.toList_inj, hlist, htext,
      String.toList_ofList, List.cons.injEq]
    simp
  · next hnot =>
    constructor
    · nofun
    · rintro rfl
      exact absurd hlist (hnot _)

/-- In the place of a segment that begins with a colon, any other one may stand, and else only the
same one. -/
theorem admits_ofString {s t : String} :
    (ofString s).admits t = true ↔ (∃ name, s = ":" ++ name) ∨ s = t := by
  cases hs : ofString s with
  | capture name =>
    have hname := ofString_eq_capture_iff.1 hs
    exact iff_of_true rfl (.inl ⟨name, hname⟩)
  | literal text =>
    have hnot : ¬ ∃ name, s = ":" ++ name := by
      rintro ⟨name, hname⟩
      rw [ofString_eq_capture_iff.2 hname] at hs
      nomatch hs
    have htext : text = s := by
      rw [ofString] at hs
      split at hs
      · nomatch hs
      · exact (literal.inj hs).symm
    rw [admits, beq_iff_eq, htext]
    exact (or_iff_right hnot).symm

/-- What a segment adds to the parameters when another one stands in its place. -/
def noting : Segment → String → Params → Params
  | literal _, _, params => params
  | capture name, t, params => params.assign name (decodeSegment t)

theorem get?_noting (s : Segment) (t : String) (params : Params) (key : String) :
    (s.noting t params).get? key =
      if s = capture key ∧ key ≠ Params.reserved then some (decodeSegment t)
      else params.get? key := by
  cases s with
  | literal text => simp [noting]
  | capture name =>
    rw [noting, Params.get?_assign]
    by_cases hname : key = name
    · subst hname
      simp
    · rw [if_neg (fun h => hname h.1), if_neg (fun h => hname (capture.inj h.1).symm)]

end Segment

namespace Pattern

/-! ### What is captured -/

/-- Capturing goes segment by segment. -/
theorem captures?_cons_cons (s : Segment) (ss : List Segment) (t : String) (ts : List String)
    (params : Params) :
    captures? (s :: ss) (t :: ts) params =
      if s.admits t = true then captures? ss ts (s.noting t params) else none := by
  cases s with
  | literal text => simp [captures?, Segment.admits, Segment.noting]
  | capture name => rfl

theorem captures?_cons_eq_some {s : Segment} {ss : List Segment} {ts : List String}
    {params found : Params} (h : captures? (s :: ss) ts params = some found) :
    ∃ t rest, ts = t :: rest ∧ captures? ss rest (s.noting t params) = some found := by
  cases ts with
  | nil => nomatch h
  | cons t rest =>
    rw [captures?_cons_cons] at h
    split at h
    · exact ⟨t, rest, rfl, h⟩
    · nomatch h

/-- Segments fit exactly if there are as many on either side and each is admitted by the one in its
place. -/
theorem captures?_isSome_iff {ss : List Segment} {ts : List String} {params : Params} :
    (captures? ss ts params).isSome ↔ List.Forall₂ (fun s t => s.admits t = true) ss ts := by
  induction ss generalizing ts params with
  | nil =>
    cases ts with
    | nil => exact iff_of_true rfl .nil
    | cons t ts => exact iff_of_false Bool.false_ne_true nofun
  | cons s ss ih =>
    cases ts with
    | nil => exact iff_of_false Bool.false_ne_true nofun
    | cons t ts =>
      rw [captures?_cons_cons, List.forall₂_cons]
      by_cases hadmits : s.admits t = true
      · rw [if_pos hadmits, ih, and_iff_right hadmits]
      · rw [if_neg hadmits]
        exact iff_of_false Bool.false_ne_true fun h => hadmits h.1

/-- The keys are those from before and the names of the captures, but for the reserved one. -/
theorem contains_captures?_iff {ss : List Segment} {ts : List String} {params found : Params}
    (h : captures? ss ts params = some found) (key : String) :
    (found.get? key).isSome ↔
      key ≠ Params.reserved ∧ Segment.capture key ∈ ss ∨ (params.get? key).isSome := by
  induction ss generalizing ts params with
  | nil =>
    cases ts with
    | nil =>
      cases h
      simp
    | cons t ts => nomatch h
  | cons s ss ih =>
    obtain ⟨t, rest, rfl, hrest⟩ := captures?_cons_eq_some h
    rw [ih hrest, Segment.get?_noting, List.mem_cons, eq_comm (a := Segment.capture key)]
    by_cases hs : s = Segment.capture key ∧ key ≠ Params.reserved
    · rw [if_pos hs]
      exact iff_of_true (.inr rfl) (.inl ⟨hs.2, .inl hs.1⟩)
    · rw [if_neg hs]
      tauto

/-- A value from before is kept if no capture has its name. -/
theorem get?_captures?_of_notMem {ss : List Segment} {ts : List String} {params found : Params}
    (h : captures? ss ts params = some found) {key : String} (hkey : Segment.capture key ∉ ss) :
    found.get? key = params.get? key := by
  induction ss generalizing ts params with
  | nil =>
    cases ts with
    | nil =>
      cases h
      rfl
    | cons t ts => nomatch h
  | cons s ss ih =>
    obtain ⟨t, rest, rfl, hrest⟩ := captures?_cons_eq_some h
    obtain ⟨hs, hss⟩ := not_or.1 (mt List.mem_cons.2 hkey)
    rw [ih hrest hss, Segment.get?_noting, if_neg fun e => hs e.1.symm]

/-- Of several captures with one name the last one has the say. -/
theorem get?_captures?_of_last {ss : List Segment} {ts : List String} {params found : Params}
    (h : captures? ss ts params = some found) {key : String} (hkey : key ≠ Params.reserved)
    {i : Nat} (hi : ss[i]? = some (.capture key))
    (hlast : ∀ j, i < j → ss[j]? ≠ some (.capture key)) :
    ∃ t, ts[i]? = some t ∧ found.get? key = some (decodeSegment t) := by
  induction ss generalizing ts params i with
  | nil => nomatch hi
  | cons s ss ih =>
    obtain ⟨t, rest, rfl, hrest⟩ := captures?_cons_eq_some h
    cases i with
    | zero =>
      have hs : s = .capture key := Option.some.inj hi
      have hss : Segment.capture key ∉ ss := by
        intro hmem
        obtain ⟨j, hj⟩ := List.getElem?_of_mem hmem
        exact hlast (j + 1) (Nat.succ_pos j) hj
      refine ⟨t, rfl, ?_⟩
      rw [get?_captures?_of_notMem hrest hss, Segment.get?_noting, if_pos ⟨hs, hkey⟩]
    | succ i => exact ih hrest hi fun j hj => hlast (j + 1) (Nat.succ_lt_succ hj)

/-! ### The whole -/

/-- The parameters that the segments `ps` of a pattern capture from the segments `qs` of a path: the
keys are the texts after the colons, but for the reserved one, and each has the value of the segment
in the last of its places. -/
structure Captured (ps qs : List String) (params : Params) : Prop where
  keys : ∀ key, params.contains key ↔ key ≠ "__proto__" ∧ ":" ++ key ∈ ps
  value : ∀ (key : String) (i : Nat) (segment : String), key ≠ "__proto__" →
    ps[i]? = some (":" ++ key) → (∀ j, i < j → ps[j]? ≠ some (":" ++ key)) →
      qs[i]? = some segment → ∃ t, params.get? key = some t ∧ SegmentValue segment t

variable (p : Pattern)

theorem segments_eq : p.segments = (slashPieces p.source).map Segment.ofString := by
  rw [segments, pathSegments_eq_slashPieces]

theorem getElem?_segments_eq_capture_iff {i : Nat} {key : String} :
    p.segments[i]? = some (.capture key) ↔ (slashPieces p.source)[i]? = some (":" ++ key) := by
  rw [segments_eq, List.getElem?_map, Option.map_eq_some_iff]
  constructor
  · rintro ⟨s, hs, hcapture⟩
    rw [hs, Segment.ofString_eq_capture_iff.1 hcapture]
  · intro h
    exact ⟨_, h, Segment.ofString_eq_capture_iff.2 rfl⟩

theorem capture_mem_segments_iff {key : String} :
    .capture key ∈ p.segments ↔ ":" ++ key ∈ slashPieces p.source := by
  simp only [List.mem_iff_getElem?, getElem?_segments_eq_capture_iff]

theorem params?_isSome_iff (path : String) :
    (p.params? path).isSome ↔
      (slashPieces p.source).length = (slashPieces path).length ∧
        ∀ (i : Nat) (s t : String), (slashPieces p.source)[i]? = some s →
          (slashPieces path)[i]? = some t → (∃ name, s = ":" ++ name) ∨ s = t := by
  rw [params?, captures?_isSome_iff, segments_eq, pathSegments_eq_slashPieces,
    List.forall₂_map_left_iff, List.forall₂_iff_get]
  refine and_congr_right fun hlength => ?_
  constructor
  · intro h i s t hs ht
    obtain ⟨hi, rfl⟩ := List.getElem?_eq_some_iff.1 hs
    obtain ⟨hi', rfl⟩ := List.getElem?_eq_some_iff.1 ht
    exact Segment.admits_ofString.1 (h i hi hi')
  · intro h i hi hi'
    exact Segment.admits_ofString.2
      (h i _ _ (List.getElem?_eq_getElem hi) (List.getElem?_eq_getElem hi'))

theorem captured_of_params? {path : String} {params : Params} (h : p.params? path = some params) :
    Captured (slashPieces p.source) (slashPieces path) params := by
  rw [params?, pathSegments_eq_slashPieces] at h
  constructor
  · intro key
    rw [Dict.contains, contains_captures?_iff h, capture_mem_segments_iff]
    exact or_iff_left Bool.false_ne_true
  · intro key i segment hkey hi hlast hsegment
    obtain ⟨t, ht, hvalue⟩ := get?_captures?_of_last h hkey
      (p.getElem?_segments_eq_capture_iff.2 hi)
      fun j hj => mt p.getElem?_segments_eq_capture_iff.1 (hlast j hj)
    rw [ht] at hsegment
    cases hsegment
    exact ⟨_, hvalue, decodeSegment_eq_iff.1 rfl⟩

theorem params?_of_sameButSlashes {source path path' : String}
    (hsource : SameButSlashes p.source source) (hpath : SameButSlashes path path') :
    (Pattern.mk source).params? path' = p.params? path := by
  simp only [params?, segments, hsource.pathSegments_eq, hpath.pathSegments_eq]

/-- **Which paths a pattern fits, and what it captures.**  With the segments of the pattern and of
the path, that is, what stands between slashes and is not empty: the path fits exactly if there are
as many on either side, and each of the pattern begins with a colon or is the one of the path in its
place, character for character.  Then each text after a colon has the value of the segment of the
path in the last place of this text: what the segment is the percent encoding of, if it is one, and
else the segment itself.  Slashes that are added or taken away at an end or next to a slash, in the
pattern or in the path, change nothing. -/
theorem params?_exact (path : String) :
    ((p.params? path).isSome ↔
      (slashPieces p.source).length = (slashPieces path).length ∧
        ∀ (i : Nat) (s t : String), (slashPieces p.source)[i]? = some s →
          (slashPieces path)[i]? = some t → (∃ name, s = ":" ++ name) ∨ s = t) ∧
    (∀ params, p.params? path = some params →
      Captured (slashPieces p.source) (slashPieces path) params) ∧
    ∀ source path', SameButSlashes p.source source → SameButSlashes path path' →
      (Pattern.mk source).params? path' = p.params? path :=
  ⟨p.params?_isSome_iff path, fun _ => p.captured_of_params?,
    fun _ _ => p.params?_of_sameButSlashes⟩

example : (Pattern.mk "/a/:x/:x").params? "a//%41/%zz/" = some (Dict.ofList [("x", "%zz")]) := by
  rfl

end Pattern

end HttpDispatch
