import HttpDispatch.Http.Target
import HttpDispatch.Proofs.Text.Decoding
import HttpDispatch.Proofs.Text.Pieces
import Mathlib.Data.List.Forall2

/-!
# What a form says

A part of a form, which is a key or a value, is read with plus signs for spaces.  An escape in it is
one octet, every other character stands for the octets of its own encoding (`Percent.Octets`), and
what these octets are not a text of is replaced.  This holds of every part that is regular
(`Percent.reads_decodeForm`): only where escapes are mixed with characters beyond ASCII in a part
that is no proper encoding, those characters do not stand for themselves.

A form is read piece by piece (`FormReads`), and all that stands behind the first question mark of a
target is its form.  Question marks in the form are like other characters, but for one that it
begins with, which is lost (`Target.ofString_carries`).
-/

namespace HttpDispatch

namespace Percent

/-! ### Octets -/

/-- A text begins with an escape. -/
def BeginsEscape (cs : List Char) : Prop :=
  ∃ a b x y rest, cs = '%' :: a :: b :: rest ∧
    Text.hexValue? a = some x ∧ Text.hexValue? b = some y

/-- Characters stand for octets: an escape for the one that it names, and every other character,
also a percent sign that begins no escape, for those of its own encoding. -/
inductive Octets : List Char → List UInt8 → Prop
  | nil : Octets [] []
  | escape {a b : Char} {x y : Nat} {rest : List Char} {octets : List UInt8} :
      Text.hexValue? a = some x → Text.hexValue? b = some y → Octets rest octets →
        Octets ('%' :: a :: b :: rest) (.ofNat (x * 16 + y) :: octets)
  | plain {c : Char} {rest : List Char} {octets : List UInt8} :
      ¬ BeginsEscape (c :: rest) → Octets rest octets →
        Octets (c :: rest) (Utf8.encodeChar c ++ octets)

variable {cs : List Char}

theorem not_beginsEscape_of_ne {c : Char} (hc : c ≠ '%') (rest : List Char) :
    ¬ BeginsEscape (c :: rest) := by
  rintro ⟨a, b, x, y, rest', h, -, -⟩
  exact hc (List.cons.inj h).1

/-- What is read strictly is read in the same way. -/
theorem Names.toOctets {octets : List UInt8} (h : Names cs octets) : Octets cs octets := by
  induction h with
  | nil => exact .nil
  | escape ha hb _ ih => exact .escape ha hb ih
  | plain hc _ ih => exact .plain (not_beginsEscape_of_ne hc _) ih

theorem Octets.unique {octets octets' : List UInt8} (h : Octets cs octets)
    (h' : Octets cs octets') : octets = octets' := by
  induction h generalizing octets' with
  | nil =>
    cases h'
    rfl
  | escape ha hb _ ih =>
    cases h' with
    | escape ha' hb' h' =>
      obtain rfl := Option.some.inj (ha.symm.trans ha')
      obtain rfl := Option.some.inj (hb.symm.trans hb')
      rw [ih h']
    | plain hnot _ => exact absurd ⟨_, _, _, _, _, rfl, ha, hb⟩ hnot
  | plain hnot _ ih =>
    cases h' with
    | escape ha' hb' _ => exact absurd ⟨_, _, _, _, _, rfl, ha', hb'⟩ hnot
    | plain _ h' => rw [ih h']

theorem lowOctets_of_lt {c : Char} (h : c.toNat < 0x80) : lowOctets c = Utf8.encodeChar c := by
  simp only [lowOctets, Utf8.encodeChar]
  rw [if_pos (by omega), if_pos h, Nat.mod_eq_of_lt (by omega)]

/-- Characters of ASCII are the same octets in either reading. -/
theorem octets_looseOctets (h : ∀ c ∈ cs, c.toNat < 0x80) : Octets cs (looseOctets cs) := by
  fun_induction looseOctets cs with
  | case1 => exact .nil
  | case2 a b rest o ho ih =>
    obtain ⟨x, y, ha, hb, rfl⟩ := octet?_eq_some_iff.1 ho
    refine .escape ha hb (ih fun c hc => h c ?_)
    exact List.mem_cons_of_mem _ (List.mem_cons_of_mem _ (List.mem_cons_of_mem _ hc))
  | case3 a b rest ho ih =>
    refine .plain ?_ (ih fun c hc => h c (List.mem_cons_of_mem _ hc))
    rintro ⟨a', b', x, y, rest', heq, ha, hb⟩
    cases heq
    rw [octet?_eq_some_iff.2 ⟨x, y, ha, hb, rfl⟩] at ho
    nomatch ho
  | case4 c rest hshort ih =>
    rw [lowOctets_of_lt (h c List.mem_cons_self)]
    refine .plain ?_ (ih fun d hd => h d (List.mem_cons_of_mem _ hd))
    rintro ⟨a, b, x, y, rest', heq, -, -⟩
    exact hshort a b rest' (List.cons.inj heq).1 (List.cons.inj heq).2

/-! ### Parts of a form -/

/-- A text with spaces for its plus signs. -/
def spaced (cs : List Char) : List Char := cs.map fun c => if c = '+' then ' ' else c

theorem spaced_plus (cs : List Char) : spaced ('+' :: cs) = ' ' :: spaced cs := rfl

theorem spaced_cons_of_ne {c : Char} (h : c ≠ '+') (cs : List Char) :
    spaced (c :: cs) = c :: spaced cs := by
  rw [spaced, List.map_cons, if_neg h, spaced]

theorem filter_plus_cons_of_ne {c : Char} (h : c ≠ '+') (cs : List Char) :
    (c :: cs).filter (· != '+') = c :: cs.filter (· != '+') := by
  simp [h]

/-- A part of a form is read as this text. -/
def Reads (cs : List Char) (s : String) : Prop :=
  ∃ octets, Octets (spaced cs) octets ∧ s = String.ofList (Utf8.decodeLossy octets)

theorem Reads.unique {s t : String} (h : Reads cs s) (h' : Reads cs t) : s = t := by
  obtain ⟨octets, hoctets, rfl⟩ := h
  obtain ⟨octets', hoctets', rfl⟩ := h'
  rw [hoctets.unique hoctets']

/-- A part of a form in which escapes are not mixed with characters beyond ASCII, unless it is a
proper encoding.  Whether there are escapes is seen with the plus signs left out. -/
inductive Regular (cs : List Char) : Prop
  | ascii : (∀ c ∈ cs, c.toNat < 0x80) → Regular cs
  | bare : hasEscape (cs.filter (· != '+')) = false → Regular cs
  | encoded {t : List Char} : Names (spaced cs) (Utf8.encode t) → Regular cs

theorem hasEscape_cons_eq_false {c : Char} (h : hasEscape (c :: cs) = false) :
    hasEscape cs = false := by
  rw [hasEscape.eq_def] at h
  split at h
  · next a b rest heq =>
    cases heq
    exact (Bool.or_eq_false_iff.1 h).2
  · next heq =>
    cases heq
    exact h
  · next heq => nomatch heq

theorem hexValue?_space : Text.hexValue? ' ' = none := by decide

/-- A digit is no plus sign that was replaced. -/
theorem exists_of_spaced_eq_cons {a : Char} {x : Nat} {rest : List Char}
    (h : spaced cs = a :: rest) (ha : Text.hexValue? a = some x) :
    ∃ more, cs = a :: more ∧ a ≠ '+' ∧ spaced more = rest := by
  cases cs with
  | nil => nomatch h
  | cons c more =>
    by_cases hplus : c = '+'
    · rw [hplus, spaced_plus] at h
      rw [← (List.cons.inj h).1, hexValue?_space] at ha
      nomatch ha
    · rw [spaced_cons_of_ne hplus] at h
      obtain ⟨rfl, hmore⟩ := List.cons.inj h
      exact ⟨more, rfl, hplus, hmore⟩

/-- Without escapes every character stands for itself, and every plus sign for a space. -/
theorem octets_encode_spaced (h : hasEscape (cs.filter (· != '+')) = false) :
    Octets (spaced cs) (Utf8.encode (spaced cs)) := by
  induction cs with
  | nil => exact .nil
  | cons c cs ih =>
    by_cases hplus : c = '+'
    · subst hplus
      rw [spaced_plus]
      exact .plain (not_beginsEscape_of_ne (by decide) _) (ih h)
    · rw [filter_plus_cons_of_ne hplus] at h
      rw [spaced_cons_of_ne hplus]
      refine .plain ?_ (ih (hasEscape_cons_eq_false h))
      rintro ⟨a, b, x, y, rest, heq, ha, hb⟩
      obtain ⟨rfl, hrest⟩ := List.cons.inj heq
      obtain ⟨more, rfl, hane, hmore⟩ := exists_of_spaced_eq_cons hrest ha
      obtain ⟨more, rfl, hbne, -⟩ := exists_of_spaced_eq_cons hmore hb
      rw [filter_plus_cons_of_ne hane, filter_plus_cons_of_ne hbne, hasEscape,
        octet?_eq_some_iff.2 ⟨x, y, ha, hb, rfl⟩] at h
      cases h

theorem reads_decodeForm (h : Regular cs) : Reads cs (decodeForm cs) := by
  have hspaced : decodeForm cs = String.ofList
      (if hasEscape (cs.filter (· != '+')) then decodeSpaced (spaced cs) else spaced cs) := rfl
  rw [hspaced]
  cases hescape : hasEscape (cs.filter (· != '+')) with
  | false =>
    refine ⟨_, octets_encode_spaced hescape, ?_⟩
    rw [Utf8.decodeLossy_encode]
    rfl
  | true =>
    rw [if_pos rfl, decodeSpaced]
    cases hread : (octets? (spaced cs)).bind Utf8.decode? with
    | some t =>
      obtain ⟨octets, hoctets, ht⟩ := Option.bind_eq_some_iff.1 hread
      obtain rfl := Utf8.decode?_eq_some_iff.1 ht
      refine ⟨_, (names_of_octets? hoctets).toOctets, ?_⟩
      rw [Utf8.decodeLossy_encode]
      rfl
    | none =>
      refine ⟨looseOctets (spaced cs), octets_looseOctets fun c hc => ?_, rfl⟩
      cases h with
      | ascii hascii =>
        obtain ⟨d, hd, rfl⟩ := List.mem_map.1 hc
        split
        · decide
        · exact hascii d hd
      | bare hbare => cases hescape.symm.trans hbare
      | encoded hnames =>
        rw [octets?_of_names hnames, Option.bind_some, Utf8.decode?_encode] at hread
        cases hread

/-- Not every part is read so: behind an escape that is half a character, the next character does
not stand for itself. -/
theorem not_reads_decodeForm : ¬ ∀ cs, Reads cs (decodeForm cs) := by
  intro h
  have hread : Reads ['%', 'C', '3', 'é'] "\uFFFDé" :=
    ⟨_, .escape rfl rfl (.plain (not_beginsEscape_of_ne (by decide) _) .nil),
      by decide +kernel⟩
  exact absurd ((h _).unique hread) (by decide +kernel)

end Percent

/-! ### Pieces -/

/-- A piece of a form has its key before the first equals sign and its value behind it.  Without an
equals sign it is a key alone. -/
inductive FormPiece : List Char → List Char → List Char → Prop
  | bare {key : List Char} : '=' ∉ key → FormPiece key key []
  | pair {key value : List Char} : '=' ∉ key → FormPiece (key ++ '=' :: value) key value

namespace FormPiece

variable {piece key value : List Char} {c : Char}

theorem splitFirst_eq (h : FormPiece piece key value) :
    Text.splitFirst '=' piece = (key, value) := by
  cases h with
  | bare hkey => exact Text.splitFirst_of_notMem hkey
  | pair hkey => exact Text.splitFirst_append hkey value

theorem of_splitFirst (piece : List Char) :
    FormPiece piece (Text.splitFirst '=' piece).1 (Text.splitFirst '=' piece).2 := by
  by_cases h : '=' ∈ piece
  · obtain ⟨key, value, rfl, hkey⟩ := List.eq_append_cons_of_mem h
    rw [Text.splitFirst_append hkey]
    exact .pair hkey
  · rw [Text.splitFirst_of_notMem h]
    exact .bare h

theorem mem_of_mem (h : FormPiece piece key value) (hc : c ∈ key ∨ c ∈ value) : c ∈ piece := by
  cases h with
  | bare _ => exact hc.resolve_right List.not_mem_nil
  | pair _ => exact List.mem_append.2 (hc.imp_right (List.mem_cons_of_mem _))

end FormPiece

/-! ### Forms -/

/-- A piece of a form is read as this pair. -/
def PieceReads (piece : List Char) (pair : String × String) : Prop :=
  ∃ key value, FormPiece piece key value ∧ Percent.Reads key pair.1 ∧ Percent.Reads value pair.2

/-- A form is read as these pairs: its pieces are what stands between ampersands, and those that are
not empty are the pairs. -/
def FormReads (form : List Char) (pairs : List (String × String)) : Prop :=
  ∃ pieces, pieces ≠ [] ∧ (∀ piece ∈ pieces, '&' ∉ piece) ∧ ['&'].intercalate pieces = form ∧
    List.Forall₂ PieceReads (pieces.filter fun piece => !piece.isEmpty) pairs

/-- A form all of whose keys and values are regular. -/
def FormRegular (form : List Char) : Prop :=
  ∀ piece ∈ Text.splitAtEach '&' form, ∀ key value, FormPiece piece key value →
    Percent.Regular key ∧ Percent.Regular value

variable {form : List Char}

theorem PieceReads.unique {piece : List Char} {pair pair' : String × String}
    (h : PieceReads piece pair) (h' : PieceReads piece pair') : pair = pair' := by
  obtain ⟨key, value, hpiece, hkey, hvalue⟩ := h
  obtain ⟨key', value', hpiece', hkey', hvalue'⟩ := h'
  obtain ⟨rfl, rfl⟩ := Prod.mk.inj (hpiece.splitFirst_eq.symm.trans hpiece'.splitFirst_eq)
  exact Prod.ext (hkey.unique hkey') (hvalue.unique hvalue')

/-- No form is read in two ways. -/
theorem FormReads.unique {pairs pairs' : List (String × String)} (h : FormReads form pairs)
    (h' : FormReads form pairs') : pairs = pairs' := by
  obtain ⟨pieces, hne, hpieces, rfl, hpairs⟩ := h
  obtain ⟨pieces', hne', hpieces', hform, hpairs'⟩ := h'
  have hsame : pieces' = pieces := by
    rw [← Text.splitAtEach_intercalate hne hpieces, ← hform,
      Text.splitAtEach_intercalate hne' hpieces']
  rw [hsame] at hpairs'
  have hunique : Relator.RightUnique PieceReads := fun _ _ _ hpair hpair' => hpair.unique hpair'
  exact List.right_unique_forall₂' hunique hpairs hpairs'

/-- A form of characters of ASCII is regular. -/
theorem formRegular_of_ascii (h : ∀ c ∈ form, c.toNat < 0x80) : FormRegular form := by
  intro piece hpiece key value hpair
  have hmem : ∀ c, c ∈ key ∨ c ∈ value → c.toNat < 0x80 :=
    fun c hc => h c (Text.mem_of_mem_splitAtEach hpiece (hpair.mem_of_mem hc))
  exact ⟨.ascii fun c hc => hmem c (.inl hc), .ascii fun c hc => hmem c (.inr hc)⟩

/-- The pairs of the pieces of a form. -/
def piecePairs (form : List Char) : List (String × String) :=
  (Text.piecesBetween '&' form).map fun piece =>
    (Percent.decodeForm (Text.splitFirst '=' piece).1,
      Percent.decodeForm (Text.splitFirst '=' piece).2)

theorem formReads_piecePairs (h : FormRegular form) : FormReads form (piecePairs form) := by
  refine ⟨Text.splitAtEach '&' form, Text.splitAtEach_ne_nil '&' form,
    fun _ => Text.notMem_of_mem_splitAtEach, Text.intercalate_splitAtEach '&' form, ?_⟩
  rw [piecePairs, Text.piecesBetween, List.forall₂_map_right_iff, List.forall₂_same]
  intro piece hpiece
  have hpair := FormPiece.of_splitFirst piece
  obtain ⟨hkey, hvalue⟩ := h piece (List.mem_of_mem_filter hpiece) _ _ hpair
  exact ⟨_, _, hpair, Percent.reads_decodeForm hkey, Percent.reads_decodeForm hvalue⟩

theorem formPairs_mark (form : List Char) : formPairs ('?' :: form) = piecePairs form := rfl

theorem formPairs_of_head?_ne (h : form.head? ≠ some '?') : formPairs form = piecePairs form := by
  rw [formPairs]
  · rfl
  · rintro rest rfl
    exact h rfl

/-! ### Targets -/

namespace Target

/-- A target has this path, and as its query what this form is read as: for each key the last of its
values, but none for the reserved key. -/
structure Carries (t : Target) (path form : String) : Prop where
  path : t.path = path
  query : ∃ pairs, FormReads form.toList pairs ∧ ∀ key value,
    t.query.get? key = some value ↔ key ≠ Params.reserved ∧ Params.Last pairs key value

variable {p : String}

theorem ofString_append (hp : '?' ∉ p.toList) (form : String) :
    ofString (p ++ "?" ++ form) = ⟨p, Params.ofList (formPairs form.toList)⟩ := by
  have hsplit : Text.splitFirst '?' (p ++ "?" ++ form).toList = (p.toList, form.toList) := by
    rw [String.toList_append, String.toList_append, List.append_assoc]
    exact Text.splitFirst_append hp _
  simp only [ofString, hsplit, String.ofList_toList]

theorem ofString_of_notMem (hp : '?' ∉ p.toList) : ofString p = ⟨p, ∅⟩ := by
  simp only [ofString, Text.splitFirst_of_notMem hp, String.ofList_toList]
  rfl

theorem carries_ofList {pairs : List (String × String)} {form : String}
    (h : FormReads form.toList pairs) (p : String) :
    Carries ⟨p, Params.ofList pairs⟩ p form :=
  ⟨rfl, pairs, h, fun _ _ => Params.get?_ofList_eq_some_iff⟩

/-- **A target is split at its first question mark.**  All before it is the path, as it is, and a
target without one is a path alone.  All behind it is the form, if that does not begin with another
question mark: then its pieces, keys and values are what is read, and a question mark in it is like
any other character.  A second question mark right behind the first one is lost, and the rest is the
form.  Either holds of forms whose keys and values are regular. -/
theorem ofString_carries (hp : '?' ∉ p.toList) (form : String) :
    (ofString (p ++ "?" ++ form)).path = p ∧
      (FormRegular form.toList →
        (form.toList.head? ≠ some '?' → (ofString (p ++ "?" ++ form)).Carries p form) ∧
        (ofString (p ++ "??" ++ form)).Carries p form) ∧
      (ofString p).path = p ∧ ∀ key, (ofString p).query.get? key = none := by
  refine ⟨?_, fun hform => ⟨fun hhead => ?_, ?_⟩, ?_⟩
  · rw [ofString_append hp]
  · rw [ofString_append hp, formPairs_of_head?_ne hhead]
    exact carries_ofList (formReads_piecePairs hform) p
  · have hmarks : p ++ "??" ++ form = p ++ "?" ++ ("?" ++ form) := by
      have htwo : "??" = "?" ++ "?" := rfl
      simp only [htwo, String.append_assoc]
    have hmark : ("?" ++ form).toList = '?' :: form.toList := String.toList_append
    rw [hmarks, ofString_append hp, hmark, formPairs_mark]
    exact carries_ofList (formReads_piecePairs hform) p
  · rw [ofString_of_notMem hp]
    exact ⟨rfl, fun _ => rfl⟩

/-- Question marks in a value, an escape that is no text, and a key with two values. -/
theorem ofString_carries_marks :
    let form := "next=/b?c=d&x=%C3&&x=a+b?&__proto__=y"
    '?' ∉ "/a".toList ∧ FormRegular form.toList ∧ form.toList.head? ≠ some '?' ∧
      (ofString ("/a" ++ "?" ++ form)).Carries "/a" form ∧
      (ofString ("/a" ++ "?" ++ form)).query.get? "next" = some "/b?c=d" ∧
      (ofString ("/a" ++ "?" ++ form)).query.get? "x" = some "a b?" ∧
      (ofString ("/a" ++ "?" ++ form)).query.get? "__proto__" = none := by
  intro form
  have hp : '?' ∉ "/a".toList := by decide
  have hform : FormRegular form.toList := formRegular_of_ascii (by simp [form])
  have hhead : form.toList.head? ≠ some '?' := by decide
  obtain ⟨-, hcarries, -⟩ := ofString_carries hp form
  exact ⟨hp, hform, hhead, (hcarries hform).1 hhead, by decide, by decide, by decide⟩

/-- Two question marks side by side: the second one should be the first character of a key. -/
theorem ofString_not_carries :
    ¬ ∀ p form : String, '?' ∉ p.toList → (ofString (p ++ "?" ++ form)).Carries p form := by
  intro h
  obtain ⟨pairs, hpairs, hquery⟩ := (h "/a" "?x=1" (by decide)).query
  have hread : FormReads "?x=1".toList [("?x", "1")] :=
    formReads_piecePairs (formRegular_of_ascii (by simp))
  rw [hpairs.unique hread] at hquery
  have hlast : Params.Last [("?x", "1")] "?x" "1" := ⟨[], [], rfl, by simp⟩
  exact absurd ((hquery "?x" "1").2 ⟨by decide, hlast⟩) (by decide)

end Target

end HttpDispatch
