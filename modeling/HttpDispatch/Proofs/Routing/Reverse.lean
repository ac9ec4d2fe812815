import HttpDispatch.Http.Target
import HttpDispatch.Proofs.Text.Pieces
import HttpDispatch.Routing.Pattern

/-!
# Writing the target of a route

A pattern can be read backwards: with a value for each of its names it writes a path, and with a
form behind a question mark this is a target.  What is put in is percent-encoded, and encoded text
has no separator in it, so the target is taken apart again where it was put together.

* `Pattern.params?_path`: the pattern captures the values from the path that it wrote.
* `formPairs_formText`: a form that was written of pairs is read as these pairs.
* `Pattern.params?_target`: **both at once, for a whole target**.
-/

namespace HttpDispatch

namespace Percent

theorem isUnreserved_hexDigitUpper : ∀ n, n < 16 → isUnreserved (Text.hexDigitUpper n) = true := by
  decide

theorem toList_encode (s : String) : (encode s).toList = s.toList.flatMap encodeChar :=
  String.toList_ofList

theorem isUnreserved_of_mem_escape {o : UInt8} {c : Char} (h : c ∈ escape o) (hc : c ≠ '%') :
    isUnreserved c = true := by
  have hlt := o.toNat_lt
  rw [escape, List.mem_cons, List.mem_cons, List.mem_singleton] at h
  rcases h with h | h | h
  · exact absurd h hc
  · rw [h]
    exact isUnreserved_hexDigitUpper _ (by omega)
  · rw [h]
    exact isUnreserved_hexDigitUpper _ (by omega)

/-- Encoded text has no other character than those that stand for themselves, and the percent
sign. -/
theorem isUnreserved_of_mem_encode {s : String} {c : Char} (h : c ∈ (encode s).toList)
    (hc : c ≠ '%') : isUnreserved c = true := by
  rw [toList_encode] at h
  obtain ⟨d, -, h⟩ := List.mem_flatMap.1 h
  rw [encodeChar] at h
  split at h
  · next hd =>
    rw [List.mem_singleton.1 h]
    exact hd
  · obtain ⟨o, -, ho⟩ := List.mem_flatMap.1 h
    exact isUnreserved_of_mem_escape ho hc

theorem notMem_encode {separator : Char} (hreserved : isUnreserved separator = false)
    (hpercent : separator ≠ '%') (s : String) : separator ∉ (encode s).toList := by
  intro h
  rw [isUnreserved_of_mem_encode h hpercent] at hreserved
  nomatch hreserved

theorem encode_injective {s t : String} (h : encode s = encode t) : s = t := by
  have hs := decode?_encode s
  rw [h, decode?_encode] at hs
  exact (Option.some.inj hs).symm

theorem toList_encode_ne_nil {s : String} (h : s ≠ "") : (encode s).toList ≠ [] := by
  intro hnil
  apply h
  apply encode_injective
  exact String.toList_eq_nil_iff.1 hnil

theorem decodeForm_toList_encode (s : String) : decodeForm (encode s).toList = s := by
  rw [toList_encode, decodeForm_encode, String.ofList_toList]

end Percent

/-! ### Forms -/

/-- A pair as it is written in a form. -/
def pairText (pair : String × String) : String :=
  Percent.encode pair.1 ++ "=" ++ Percent.encode pair.2

/-- The form of a list of pairs. -/
def formText (pairs : List (String × String)) : String := "&".intercalate (pairs.map pairText)

theorem toList_pairText (pair : String × String) :
    (pairText pair).toList =
      (Percent.encode pair.1).toList ++ '=' :: (Percent.encode pair.2).toList := by
  rw [pairText, String.toList_append, String.toList_append, List.append_assoc]
  rfl

theorem splitFirst_pairText (pair : String × String) :
    Text.splitFirst '=' (pairText pair).toList =
      ((Percent.encode pair.1).toList, (Percent.encode pair.2).toList) := by
  rw [toList_pairText, Text.splitFirst_append (Percent.notMem_encode (by decide) (by decide) _)]

theorem notMem_pairText {separator : Char} (hreserved : Percent.isUnreserved separator = false)
    (hpercent : separator ≠ '%') (hequals : separator ≠ '=') (pair : String × String) :
    separator ∉ (pairText pair).toList := by
  rw [toList_pairText, List.mem_append, List.mem_cons]
  rintro (h | h | h)
  · exact Percent.notMem_encode hreserved hpercent _ h
  · exact hequals h
  · exact Percent.notMem_encode hreserved hpercent _ h

theorem toList_pairText_ne_nil (pair : String × String) : (pairText pair).toList ≠ [] := by
  rw [toList_pairText]
  simp

/-- Joined pieces begin as the first of them. -/
theorem intercalate_ne_cons {separator c : Char} {ls : List (List Char)} (h : ∀ l ∈ ls, c ∉ l)
    (hne : ∀ l ∈ ls, l ≠ []) (rest : List Char) : [separator].intercalate ls ≠ c :: rest := by
  cases ls with
  | nil => exact List.cons_ne_nil c rest |>.symm
  | cons l ls =>
    have hl := h l List.mem_cons_self
    cases l with
    | nil => exact absurd rfl (hne [] List.mem_cons_self)
    | cons d l =>
      rw [List.intercalate_cons_cons_left]
      intro heq
      exact hl ((List.cons.inj heq).1 ▸ List.mem_cons_self)

theorem formPairs_formText (pairs : List (String × String)) :
    formPairs (formText pairs).toList = pairs := by
  let pieces := pairs.map fun pair => (pairText pair).toList
  have hform : (formText pairs).toList = ['&'].intercalate pieces := by
    rw [formText, String.toList_intercalate, List.map_map]
    rfl
  have hpieces : ∀ {separator : Char}, Percent.isUnreserved separator = false →
      separator ≠ '%' → separator ≠ '=' → ∀ l ∈ pieces, separator ∉ l := by
    intro separator hreserved hpercent hequals l hl
    obtain ⟨pair, -, rfl⟩ := List.mem_map.1 hl
    exact notMem_pairText hreserved hpercent hequals pair
  have hne : ∀ l ∈ pieces, l ≠ [] := by
    intro l hl
    obtain ⟨pair, -, rfl⟩ := List.mem_map.1 hl
    exact toList_pairText_ne_nil pair
  have hquestion : ∀ rest, ['&'].intercalate pieces ≠ '?' :: rest :=
    intercalate_ne_cons (hpieces (by decide) (by decide) (by decide)) hne
  rw [hform, formPairs, Text.piecesBetween_intercalate
    (hpieces (by decide) (by decide) (by decide)) hne, List.map_map]
  · refine (List.map_congr_left fun pair _ => ?_).trans (List.map_id pairs)
    simp only [Function.comp_apply, splitFirst_pairText, Percent.decodeForm_toList_encode, id_eq]
  · exact hquestion

/-! ### Paths -/

namespace Segment

/-- The name of a capture. -/
def name? : Segment → Option String
  | literal _ => none
  | capture name => some name

/-- A segment of a path, with these values for the captures. -/
def fill (values : String → String) : Segment → String
  | literal text => text
  | capture name => Percent.encode (values name)

theorem eq_of_ofString_eq_literal {s text : String} (h : ofString s = literal text) :
    text = s := by
  rw [ofString] at h
  split at h
  · nomatch h
  · exact (literal.inj h).symm

end Segment

theorem mem_pathSegments {path s : String} (h : s ∈ pathSegments path) :
    '/' ∉ s.toList ∧ s.toList ≠ [] := by
  obtain ⟨piece, hpiece, rfl⟩ := List.mem_map.1 h
  obtain ⟨hmem, hne⟩ := List.mem_filter.1 hpiece
  rw [String.toList_ofList]
  refine ⟨Text.notMem_of_mem_splitAtEach hmem, ?_⟩
  rintro rfl
  exact absurd hne (by decide)

namespace Pattern

/-- The names of the captures of a pattern, in order. -/
def names (p : Pattern) : List String := p.segments.filterMap Segment.name?

/-- The path that a pattern writes with these values. -/
def path (p : Pattern) (values : String → String) : String :=
  match p.segments with
  | [] => "/"
  | ss => String.join (ss.map fun s => "/" ++ s.fill values)

/-- The target that a pattern writes with these values and these pairs. -/
def target (p : Pattern) (values : String → String) (pairs : List (String × String)) : String :=
  p.path values ++ "?" ++ formText pairs

variable {p : Pattern} {values : String → String}

theorem mem_names {name : String} : name ∈ p.names ↔ .capture name ∈ p.segments := by
  rw [names, List.mem_filterMap]
  constructor
  · rintro ⟨s, hs, hname⟩
    cases s with
    | literal text => nomatch hname
    | capture other => exact Option.some.inj hname ▸ hs
  · intro h
    exact ⟨_, h, rfl⟩

theorem mem_segments_literal {text : String} (h : .literal text ∈ p.segments) :
    '/' ∉ text.toList ∧ text.toList ≠ [] := by
  obtain ⟨s, hs, hliteral⟩ := List.mem_map.1 h
  rw [Segment.eq_of_ofString_eq_literal hliteral]
  exact mem_pathSegments hs

theorem notMem_fill (hvalues : ∀ name ∈ p.names, values name ≠ "") {s : Segment}
    (hs : s ∈ p.segments) : '/' ∉ (s.fill values).toList ∧ (s.fill values).toList ≠ [] := by
  cases s with
  | literal text => exact mem_segments_literal hs
  | capture name =>
    constructor
    · exact Percent.notMem_encode (by decide) (by decide) _
    · exact Percent.toList_encode_ne_nil (hvalues name (mem_names.2 hs))

theorem path_of_nil (h : p.segments = []) (values : String → String) : p.path values = "/" := by
  rw [path, h]

theorem toList_path (h : p.segments ≠ []) (values : String → String) :
    (p.path values).toList =
      (p.segments.map fun s => (s.fill values).toList).flatMap ('/' :: ·) := by
  have hslash : ∀ s : Segment, ("/" ++ s.fill values).toList = '/' :: (s.fill values).toList :=
    fun _ => String.toList_append
  rw [path]
  split
  · next hnil => exact absurd hnil h
  · simp only [String.toList_join, List.flatMap_map, hslash]

theorem pathSegments_path (hvalues : ∀ name ∈ p.names, values name ≠ "") :
    pathSegments (p.path values) = p.segments.map (Segment.fill values) := by
  by_cases hnil : p.segments = []
  · rw [path_of_nil hnil, hnil, List.map_nil]
    decide
  · have hfill : ∀ l ∈ p.segments.map fun s => (s.fill values).toList, '/' ∉ l ∧ l ≠ [] := by
      intro l hl
      obtain ⟨s, hs, rfl⟩ := List.mem_map.1 hl
      exact notMem_fill hvalues hs
    rw [pathSegments, toList_path hnil, Text.piecesBetween_flatMap (fun l hl => (hfill l hl).1)
      (fun l hl => (hfill l hl).2), List.map_map]
    apply List.map_congr_left
    intro s hs
    exact String.ofList_toList

theorem captures?_fill (values : String → String) (ss : List Segment) (params : Params) :
    captures? ss (ss.map (Segment.fill values)) params =
      some (((ss.filterMap Segment.name?).map fun name => (name, values name)).foldl
        (fun p a => p.assign a.1 a.2) params) := by
  induction ss generalizing params with
  | nil => rfl
  | cons s ss ih =>
    cases s with
    | literal text =>
      rw [List.map_cons, captures?]
      simp only [Segment.fill, if_pos]
      exact ih params
    | capture name =>
      have hdecode : decodeSegment (Percent.encode (values name)) = values name := by
        rw [decodeSegment, Percent.decode?_encode]
        rfl
      rw [List.map_cons, captures?]
      simp only [Segment.fill, hdecode]
      exact ih _

theorem params?_path (hvalues : ∀ name ∈ p.names, values name ≠ "") :
    p.params? (p.path values) =
      some (Params.ofList (p.names.map fun name => (name, values name))) := by
  rw [params?, pathSegments_path hvalues, captures?_fill]
  rfl

theorem lookup_map_self (values : String → String) (names : List String) (key : String) :
    (names.map fun name => (name, values name)).lookup key =
      if key ∈ names then some (values key) else none := by
  induction names with
  | nil => rfl
  | cons name names ih =>
    by_cases h : key = name
    · subst h
      simp
    · have hb : (key == name) = false := beq_eq_false_iff_ne.2 h
      rw [List.map_cons, List.lookup_cons, hb, ih]
      simp [h]

/-- No question mark comes before that of the form. -/
theorem notMem_path (hliteral : ∀ text, .literal text ∈ p.segments → '?' ∉ text.toList) :
    '?' ∉ (p.path values).toList := by
  by_cases hnil : p.segments = []
  · rw [path_of_nil hnil]
    decide
  · rw [toList_path hnil]
    intro h
    obtain ⟨l, hl, h⟩ := List.mem_flatMap.1 h
    obtain ⟨s, hs, rfl⟩ := List.mem_map.1 hl
    rcases List.mem_cons.1 h with h | h
    · exact absurd h (by decide)
    · cases s with
      | literal text => exact hliteral text hs h
      | capture name => exact Percent.notMem_encode (by decide) (by decide) _ h

/-- **What a pattern writes, it reads.**  Let a pattern write a target with any values for its
captures that are not empty and with any pairs.  Then the pattern captures these values from the
path of the target, and nothing else, and the query has for each key the last value that was written
under it.  Only the reserved key is left out of both. -/
theorem params?_target (p : Pattern) (values : String → String) (pairs : List (String × String))
    (hliteral : ∀ text, .literal text ∈ p.segments → '?' ∉ text.toList)
    (hvalues : ∀ name ∈ p.names, values name ≠ "") :
    (∃ params, p.params? (Target.ofString (p.target values pairs)).path = some params ∧
      ∀ key, params.get? key =
        if key ∈ p.names ∧ key ≠ Params.reserved then some (values key) else none) ∧
    ∀ key, (Target.ofString (p.target values pairs)).query.get? key =
      if key = Params.reserved then none else pairs.reverse.lookup key := by
  have hsplit : Text.splitFirst '?' (p.target values pairs).toList =
      ((p.path values).toList, (formText pairs).toList) := by
    rw [target, String.toList_append, String.toList_append, List.append_assoc]
    exact Text.splitFirst_append (notMem_path hliteral) _
  have htarget : Target.ofString (p.target values pairs) =
      ⟨p.path values, Params.ofList pairs⟩ := by
    simp only [Target.ofString, hsplit, formPairs_formText, String.ofList_toList]
  rw [htarget]
  refine ⟨⟨_, params?_path hvalues, fun key => ?_⟩, fun key => ?_⟩
  · by_cases hkey : key = Params.reserved
    · rw [hkey, Params.get?_ofList_reserved, if_neg fun h => h.2 rfl]
    · rw [Params.get?_ofList _ hkey, ← List.map_reverse, lookup_map_self]
      simp [hkey]
  · by_cases hkey : key = Params.reserved
    · rw [hkey, Params.get?_ofList_reserved, if_pos rfl]
    · rw [Params.get?_ofList _ hkey, if_neg hkey]

/-- Separators and encoded text among the values make no difference. -/
theorem params?_target_separators :
    let p : Pattern := ⟨"/users/:id"⟩
    let values : String → String := fun _ => "a/b?%41é"
    let pairs := [("q", "1"), ("__proto__", "x"), ("", "&=+ "), ("q", "")]
    (∀ text, .literal text ∈ p.segments → '?' ∉ text.toList) ∧
      (∀ name ∈ p.names, values name ≠ "") ∧
      p.target values pairs =
        "/users/a%2Fb%3F%2541%C3%A9?q=1&__proto__=x&=%26%3D%2B%20&q=" ∧
      (∃ params, p.params? (Target.ofString (p.target values pairs)).path = some params ∧
        params.get? "id" = some "a/b?%41é" ∧ params.get? "q" = none) ∧
      (Target.ofString (p.target values pairs)).query.get? "q" = some "" ∧
      (Target.ofString (p.target values pairs)).query.get? "" = some "&=+ " ∧
      (Target.ofString (p.target values pairs)).query.get? "__proto__" = none := by
  intro p values pairs
  have hsegments : p.segments = [.literal "users", .capture "id"] := by decide
  have hnames : p.names = ["id"] := by rw [names, hsegments]; rfl
  have hliteral : ∀ text, .literal text ∈ p.segments → '?' ∉ text.toList := by
    intro text h
    rw [hsegments, List.mem_cons, List.mem_singleton] at h
    obtain rfl : text = "users" := by simpa using h
    decide
  have hvalues : ∀ name ∈ p.names, values name ≠ "" := fun _ _ => by decide
  obtain ⟨⟨params, hparams, hget⟩, hquery⟩ := params?_target p values pairs hliteral hvalues
  refine ⟨hliteral, hvalues, by decide, ⟨params, hparams, ?_, ?_⟩, ?_, ?_, ?_⟩
  · rw [hget, hnames]
    rfl
  · rw [hget, hnames]
    rfl
  · rw [hquery]
    rfl
  · rw [hquery]
    rfl
  · rw [hquery]
    rfl

end Pattern

end HttpDispatch
