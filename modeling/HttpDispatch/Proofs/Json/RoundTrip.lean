import HttpDispatch.Json.Printer
import HttpDispatch.Json.Reader

/-!
# Written JSON reads back

Main statement: what is written of a value reads back as that value (`read?_render`).  For texts
this holds of every text there is (`textFrom_quoted`): an escape is read as the character that it
was written for, and no other character of a text ends it or begins an escape.  For numbers it is
shown of those that are written with their digits alone, such as the status of a response.

Every lemma about reading is stated with more input behind what was written.
-/

namespace HttpDispatch

theorem Number.ofDecimal_zero (n : Nat) : Number.ofDecimal false n 0 = Number.ofNat n := by
  rw [ofDecimal, ofNat]
  by_cases hn : n = 0
  · rw [if_pos hn, ofRatio, if_pos (.inl hn)]
  · rw [if_neg hn, if_neg (by decide), if_neg (by omega)]
    show ofRatio false (n * 1) 1 = _
    rw [Nat.mul_one]

namespace Json

open Text (hexDigitLower hexValue? hexValue?_hexDigitLower)

/-! ### Texts -/

theorem hexUnit?_control {n : Nat} (h : n < 0x20) :
    hexUnit? '0' '0' (hexDigitLower (n / 16)) (hexDigitLower (n % 16)) = some n := by
  have hhigh := hexValue?_hexDigitLower (n / 16) (by omega)
  have hlow := hexValue?_hexDigitLower (n % 16) (by omega)
  have hzero : hexValue? '0' = some 0 := by decide
  rw [hexUnit?, hzero, hhigh, hlow]
  exact congrArg some (by omega)

/-- A control character is no half of a pair. -/
theorem pairChar?_of_lt {x : Nat} (h : x < 0x20) (y : Nat) : pairChar? x y = none := by
  rw [pairChar?, if_neg]
  omega

theorem textFrom_number {a b c d : Char} {x : Nat} (hx : hexUnit? a b c d = some x)
    (hlt : x < 0x20) (t : List Char) :
    textFrom ('\\' :: 'u' :: a :: b :: c :: d :: t) = prepend (.ofNat x) (textFrom t) := by
  have hunit : unitChar x = .ofNat x := by
    rw [unitChar, if_neg]
    omega
  rw [textFrom, hx]
  simp only
  split
  · rename_i e f g h more
    have hpair : (hexUnit? e f g h).bind (pairChar? x) = none := by
      cases hexUnit? e f g h with
      | none => rfl
      | some y => exact pairChar?_of_lt hlt y
    rw [hpair]
    simp only [hunit]
  · rw [hunit]

theorem textFrom_letter {c e : Char} (hu : c ≠ 'u') (he : letterEscape? c = some e)
    (t : List Char) : textFrom ('\\' :: c :: t) = prepend e (textFrom t) := by
  rw [textFrom, he]
  intro _ _ _ _ _ h
  exact absurd h hu

theorem textFrom_plain {c : Char} (hq : c ≠ '"') (hb : c ≠ '\\') (hc : 0x20 ≤ c.toNat)
    (t : List Char) : textFrom (c :: t) = prepend c (textFrom t) := by
  rw [textFrom, if_neg (Nat.not_lt.2 hc)]
  · intro h
    exact absurd h hq
  · intro _ _ _ _ _ h
    exact absurd h hb
  · intro _ _ h
    exact absurd h hb

/-- The escape of a character is read as the character. -/
theorem textFrom_escape (c : Char) (t : List Char) :
    textFrom (escape c ++ t) = prepend c (textFrom t) := by
  have hof : ∀ n, c.toNat = n → c = .ofNat n := by
    rintro n rfl
    exact (Char.ofNat_toNat c).symm
  have hletter : ∀ l : Char, l ≠ 'u' → letterEscape? l = some c →
      textFrom (['\\', l] ++ t) = prepend c (textFrom t) :=
    fun l hu he => textFrom_letter hu he t
  -- The cases are those of `escape`: a letter, the character itself, and a number.
  rw [escape]
  split
  · next h =>
    subst h
    exact hletter _ (by decide) rfl
  split
  · next h =>
    subst h
    exact hletter _ (by decide) rfl
  split
  · next hq hb hc => exact textFrom_plain hq hb hc t
  split
  · next h => exact hletter _ (by decide) (hof _ h ▸ rfl)
  split
  · next h => exact hletter _ (by decide) (hof _ h ▸ rfl)
  split
  · next h => exact hletter _ (by decide) (hof _ h ▸ rfl)
  split
  · next h => exact hletter _ (by decide) (hof _ h ▸ rfl)
  split
  · next h => exact hletter _ (by decide) (hof _ h ▸ rfl)
  · next hc _ _ _ _ _ =>
    have hlt : c.toNat < 0x20 := Nat.not_le.1 hc
    have hread := textFrom_number (hexUnit?_control hlt) hlt t
    rwa [Char.ofNat_toNat] at hread

theorem textFrom_quoted (cs rest : List Char) :
    textFrom (cs.flatMap escape ++ '"' :: rest) = some (cs, rest) := by
  induction cs with
  | nil => rfl
  | cons c cs ih =>
    rw [List.flatMap_cons, List.append_assoc, textFrom_escape, ih]
    rfl

/-! ### Numbers -/

/-- Whether a number is written with its digits alone, and is the number they make. -/
def isPlain (x : Number) : Bool :=
  (numberChars x).all Char.isDigit && !(numberChars x).isEmpty &&
    !(decide (1 < (numberChars x).length) && (numberChars x).head? == some '0') &&
    Number.ofNat (decimalValue 0 (numberChars x)) == x

/-- What may follow a value: nothing, or the mark behind an item or a member. -/
def Ends (rest : List Char) : Prop := ∀ c ∈ rest.head?, c = ',' ∨ c = ']' ∨ c = '}'

theorem Ends.cons {c : Char} {rest : List Char} (h : Ends (c :: rest)) :
    c = ',' ∨ c = ']' ∨ c = '}' := h c rfl

theorem digits?_append {ds rest : List Char} (hd : ∀ d ∈ ds, d.isDigit = true) (hne : ds ≠ [])
    (hr : Ends rest) : digits? (ds ++ rest) = some (ds, rest) := by
  have hstop : rest.takeWhile Char.isDigit = [] ∧ rest.dropWhile Char.isDigit = rest := by
    cases rest with
    | nil => exact ⟨rfl, rfl⟩
    | cons c rest => rcases hr.cons with rfl | rfl | rfl <;> exact ⟨rfl, rfl⟩
  rw [digits?, List.takeWhile_append_of_pos hd, List.dropWhile_append_of_pos hd, hstop.1, hstop.2,
    List.append_nil]
  cases ds with
  | nil => exact absurd rfl hne
  | cons d ds => rfl

theorem fraction?_of_ends {rest : List Char} (hr : Ends rest) : fraction? rest = some ([], rest) := by
  cases rest with
  | nil => rfl
  | cons c rest => rcases hr.cons with rfl | rfl | rfl <;> rfl

theorem exponent?_of_ends {rest : List Char} (hr : Ends rest) : exponent? rest = some (0, rest) := by
  cases rest with
  | nil => rfl
  | cons c rest => rcases hr.cons with rfl | rfl | rfl <;> rfl

theorem magnitude?_plain {x : Number} (hx : isPlain x = true) {rest : List Char} (hr : Ends rest) :
    magnitude? false (numberChars x ++ rest) = some (.num x, rest) := by
  simp only [isPlain, Bool.and_eq_true, Bool.not_eq_true', Bool.and_eq_false_iff,
    List.isEmpty_eq_false_iff, List.all_eq_true, decide_eq_false_iff_not, beq_iff_eq,
    beq_eq_false_iff_ne] at hx
  obtain ⟨⟨⟨hd, hne⟩, hzero⟩, hval⟩ := hx
  have hlead : ¬ (1 < (numberChars x).length ∧ (numberChars x).head? = some '0') := by
    rintro ⟨hlen, hhead⟩
    exact hzero.elim (fun h => h hlen) (fun h => h hhead)
  rw [magnitude?, digits?_append hd hne hr]
  simp only [Option.bind_eq_bind, Option.bind_some]
  rw [if_neg hlead, fraction?_of_ends hr]
  simp only [Option.bind_some]
  rw [exponent?_of_ends hr]
  show some (Json.num (.ofDecimal false (decimalValue 0 (numberChars x)) 0), rest) = _
  rw [Number.ofDecimal_zero, hval]

/-! ### Values -/

mutual

/-- Whether all numbers in a value are plain. -/
def isReadable : Json → Bool
  | .num x => isPlain x
  | .arr items => itemsReadable items
  | .obj members => membersReadable members
  | _ => true

def itemsReadable : List Json → Bool
  | [] => true
  | v :: rest => isReadable v && itemsReadable rest

def membersReadable : List (String × Json) → Bool
  | [] => true
  | (_, v) :: rest => isReadable v && membersReadable rest

end

theorem numberChars_head {x : Number} (hx : isPlain x = true) :
    ∃ d ds, numberChars x = d :: ds ∧ d.isDigit = true := by
  simp only [isPlain, Bool.and_eq_true] at hx
  obtain ⟨⟨⟨hd, hne⟩, -⟩, -⟩ := hx
  cases hn : numberChars x with
  | nil => simp [hn] at hne
  | cons d ds =>
    rw [hn] at hd
    exact ⟨d, ds, rfl, List.all_eq_true.1 hd d List.mem_cons_self⟩

theorem skipBlanks_digit {d : Char} (hd : d.isDigit = true) (t : List Char) :
    skipBlanks (d :: t) = d :: t := by
  rw [skipBlanks, List.dropWhile_cons_of_neg]
  simp only [Bool.or_eq_true, decide_eq_true_eq]
  rintro (((rfl | rfl) | rfl) | rfl) <;> exact absurd hd (by decide)

theorem value?_digit {d : Char} (hd : d.isDigit = true) (bound : Nat) (t : List Char) :
    value? (bound + 1) (d :: t) = magnitude? false (d :: t) := by
  have hne : ∀ c : Char, c.isDigit = false → d ≠ c := by
    rintro c hc rfl
    exact absurd hd (by rw [hc]; decide)
  have hnumber : number? (d :: t) = magnitude? false (d :: t) := by
    rw [number?.eq_def]
    split
    · next h => exact absurd (List.cons.inj h).1 (hne _ (by decide))
    · rfl
  rw [value?, skipBlanks_digit hd]
  split
  · next h => exact absurd (List.cons.inj h).1 (hne _ (by decide))
  · next h => exact absurd (List.cons.inj h).1 (hne _ (by decide))
  · next h => exact absurd (List.cons.inj h).1 (hne _ (by decide))
  · next h => exact absurd (List.cons.inj h).1 (hne _ (by decide))
  · next h => exact absurd (List.cons.inj h).1 (hne _ (by decide))
  · next h => exact absurd (List.cons.inj h).1 (hne _ (by decide))
  · exact hnumber

/-- A value begins with no blank and with no bracket that closes. -/
theorem chars_head {v : Json} (hv : v.isReadable = true) :
    ∃ c cs, chars v = c :: cs ∧ c ≠ ']' ∧ ∀ t, skipBlanks (c :: t) = c :: t := by
  cases v with
  | null => exact ⟨_, _, rfl, by decide, fun _ => rfl⟩
  | bool b => cases b <;> exact ⟨_, _, rfl, by decide, fun _ => rfl⟩
  | num x =>
    obtain ⟨d, ds, hn, hd⟩ := numberChars_head hv
    refine ⟨d, ds, hn, ?_, skipBlanks_digit hd⟩
    rintro rfl
    exact absurd hd (by decide)
  | str s => exact ⟨_, _, rfl, by decide, fun _ => rfl⟩
  | arr items => cases items <;> exact ⟨_, _, rfl, by decide, fun _ => rfl⟩
  | obj members => cases members <;> exact ⟨_, _, rfl, by decide, fun _ => rfl⟩

theorem length_chars_pos {v : Json} (hv : v.isReadable = true) : 0 < (chars v).length := by
  obtain ⟨c, cs, hc, -, -⟩ := chars_head hv
  rw [hc]
  exact Nat.succ_pos _

/-- An array that does not end at once is read item by item. -/
theorem value?_arr {v : Json} (hv : v.isReadable = true) (bound : Nat) (t : List Char) :
    value? (bound + 1) ('[' :: (chars v ++ t)) =
      (do
        let (v, r) ← value? bound (chars v ++ t)
        let (vs, r) ← items? bound r
        some (.arr (v :: vs), r)) := by
  obtain ⟨c, cs, hc, hne, hskip⟩ := chars_head hv
  have hblanks : skipBlanks ('[' :: (chars v ++ t)) = '[' :: (chars v ++ t) := rfl
  have hfirst : skipBlanks (chars v ++ t) = c :: (cs ++ t) := by
    rw [hc]
    exact hskip _
  rw [value?, hblanks]
  simp only [hfirst]
  split
  · next h => exact absurd (List.cons.inj h).1 hne
  · rfl

theorem name?_quote (k : String) (t : List Char) :
    name? (quote k ++ ':' :: t) = some (k, t) := by
  have htext : textFrom (k.toList.flatMap escape ++ '"' :: ':' :: t) = some (k.toList, ':' :: t) :=
    textFrom_quoted _ _
  have hquote : word? ['"'] (skipBlanks (quote k ++ ':' :: t)) =
      some (k.toList.flatMap escape ++ '"' :: ':' :: t) := by
    rw [quote, List.append_assoc]
    rfl
  have hcolon : word? [':'] (skipBlanks (':' :: t)) = some t := rfl
  simp only [name?, Option.bind_eq_bind, hquote, htext, hcolon, Option.bind_some,
    String.ofList_toList]

theorem ends_itemChars (items : List Json) (t : List Char) : Ends (itemChars items ++ t) := by
  cases items with
  | nil =>
    rintro c ⟨⟩
    exact .inr (.inl rfl)
  | cons v rest =>
    rintro c ⟨⟩
    exact .inl rfl

theorem ends_memberChars (members : List (String × Json)) (t : List Char) :
    Ends (memberChars members ++ t) := by
  cases members with
  | nil =>
    rintro c ⟨⟩
    exact .inr (.inr rfl)
  | cons m rest =>
    rintro c ⟨⟩
    exact .inl rfl

theorem bind_item {β : Type} {bound : Nat} {v : Json} {rest : List Json} {t : List Char}
    (hfirst : value? bound (chars v ++ (itemChars rest ++ t)) = some (v, itemChars rest ++ t))
    (hmore : items? bound (itemChars rest ++ t) = some (rest, t)) (f : Json → List Json → β) :
    (do
      let (v, r) ← value? bound (chars v ++ (itemChars rest ++ t))
      let (vs, r) ← items? bound r
      some (f v vs, r)) = some (f v rest, t) := by
  simp only [hfirst, hmore, Option.bind_eq_bind, Option.bind_some]

theorem bind_member {β : Type} {bound : Nat} {k : String} {v : Json} {rest : List (String × Json)}
    {t : List Char}
    (hfirst : value? bound (chars v ++ (memberChars rest ++ t)) = some (v, memberChars rest ++ t))
    (hmore : members? bound (memberChars rest ++ t) = some (rest, t))
    (f : String × Json → List (String × Json) → β) :
    (do
      let (k, r) ← name? (quote k ++ ':' :: (chars v ++ (memberChars rest ++ t)))
      let (v, r) ← value? bound r
      let (ms, r) ← members? bound r
      some (f (k, v) ms, r)) = some (f (k, v) rest, t) := by
  simp only [name?_quote, hfirst, hmore, Option.bind_eq_bind, Option.bind_some]

-- By recursion on the value.  The bound lasts because reading an item or a member uses up one of
-- it and at least one character.
mutual

/-- What is written of a value is read back, and what follows is left. -/
theorem value?_chars : ∀ (v : Json) (bound : Nat) (t : List Char), v.isReadable = true → Ends t →
    (chars v).length ≤ bound → value? bound (chars v ++ t) = some (v, t)
  | v, 0, _, hv, _, hlen => absurd (length_chars_pos hv) (Nat.not_lt.2 hlen)
  | .null, bound + 1, t, _, _, _ => rfl
  | .bool true, bound + 1, t, _, _, _ => rfl
  | .bool false, bound + 1, t, _, _, _ => rfl
  | .num x, bound + 1, t, hv, ht, _ => by
    obtain ⟨d, ds, hn, hd⟩ := numberChars_head hv
    have hread := magnitude?_plain hv ht
    rw [chars]
    rw [hn] at hread ⊢
    exact (value?_digit hd bound _).trans hread
  | .str s, bound + 1, t, _, _, _ => by
    have htext := textFrom_quoted s.toList t
    rw [chars, quote, List.append_assoc]
    show (textFrom (s.toList.flatMap escape ++ '"' :: t)).map _ = _
    rw [htext]
    show some (Json.str (String.ofList s.toList), t) = _
    rw [String.ofList_toList]
  | .arr [], bound + 1, t, _, _, _ => rfl
  | .arr (v :: rest), bound + 1, t, hv, _, hlen => by
    obtain ⟨hv, hrest⟩ := Bool.and_eq_true_iff.1 hv
    simp only [chars, List.length_cons, List.length_append] at hlen
    have hfirst := value?_chars v bound (itemChars rest ++ t) hv (ends_itemChars rest t) (by omega)
    have hmore := items?_itemChars rest bound t hrest (by omega)
    rw [chars, List.cons_append, List.cons_append, List.append_assoc, value?_arr hv]
    exact bind_item hfirst hmore fun v vs => Json.arr (v :: vs)
  | .obj [], bound + 1, t, _, _, _ => rfl
  | .obj ((k, v) :: rest), bound + 1, t, hv, _, hlen => by
    obtain ⟨hv, hrest⟩ := Bool.and_eq_true_iff.1 hv
    simp only [chars, List.length_cons, List.length_append] at hlen
    have hfirst := value?_chars v bound (memberChars rest ++ t) hv (ends_memberChars rest t)
      (by omega)
    have hmore := members?_memberChars rest bound t hrest (by omega)
    simp only [chars, List.append_assoc, List.cons_append]
    exact bind_member (k := k) hfirst hmore fun m ms => Json.obj (m :: ms)

theorem items?_itemChars : ∀ (items : List Json) (bound : Nat) (t : List Char),
    itemsReadable items = true → (itemChars items).length ≤ bound →
    items? bound (itemChars items ++ t) = some (items, t)
  | [], 0, t, _, hlen => absurd hlen (by simp [itemChars])
  | _ :: _, 0, t, _, hlen => absurd hlen (by simp [itemChars])
  | [], bound + 1, t, _, _ => rfl
  | v :: rest, bound + 1, t, hv, hlen => by
    obtain ⟨hv, hrest⟩ := Bool.and_eq_true_iff.1 hv
    simp only [itemChars, List.length_cons, List.length_append] at hlen
    have hfirst := value?_chars v bound (itemChars rest ++ t) hv (ends_itemChars rest t) (by omega)
    have hmore := items?_itemChars rest bound t hrest (by omega)
    rw [itemChars, List.cons_append, List.cons_append, List.append_assoc]
    exact bind_item hfirst hmore fun v vs => v :: vs

theorem members?_memberChars : ∀ (members : List (String × Json)) (bound : Nat) (t : List Char),
    membersReadable members = true → (memberChars members).length ≤ bound →
    members? bound (memberChars members ++ t) = some (members, t)
  | [], 0, t, _, hlen => absurd hlen (by simp [memberChars])
  | _ :: _, 0, t, _, hlen => absurd hlen (by simp [memberChars])
  | [], bound + 1, t, _, _ => rfl
  | (k, v) :: rest, bound + 1, t, hv, hlen => by
    obtain ⟨hv, hrest⟩ := Bool.and_eq_true_iff.1 hv
    simp only [memberChars, List.length_cons, List.length_append] at hlen
    have hfirst := value?_chars v bound (memberChars rest ++ t) hv (ends_memberChars rest t)
      (by omega)
    have hmore := members?_memberChars rest bound t hrest (by omega)
    simp only [memberChars, List.append_assoc, List.cons_append]
    exact bind_member (k := k) hfirst hmore fun m ms => m :: ms

end

/-- A text that was written of a value writes that value. -/
theorem read?_render {v : Json} (hv : v.isReadable = true) : read? (render v) = some v := by
  have hends : Ends [] := by
    rintro c ⟨⟩
  have hread := value?_chars v ((chars v).length + 1) [] hv hends (Nat.le_succ _)
  rw [List.append_nil] at hread
  have hlen : (render v).length = (chars v).length := String.length_ofList
  have hlist : (render v).toList = chars v := String.toList_ofList
  rw [read?, hlen, hlist, hread]
  rfl

theorem isReadable_texts (items : List String) : (texts items).isReadable = true := by
  rw [texts, isReadable]
  induction items with
  | nil => rfl
  | cons s rest ih => exact ih

/-- Members that are texts and lists of texts are readable. -/
theorem isReadable_members {members : List (String × Json)}
    (h : ∀ m ∈ members, (∃ s, m.2 = .str s) ∨ ∃ items, m.2 = .texts items) :
    (obj members).isReadable = true := by
  rw [isReadable]
  induction members with
  | nil => rfl
  | cons m rest ih =>
    have hrest := ih fun m hm => h m (List.mem_cons_of_mem _ hm)
    obtain ⟨name, v⟩ := m
    rw [membersReadable, hrest, Bool.and_true]
    obtain ⟨s, hs⟩ | ⟨items, hitems⟩ := h (name, v) List.mem_cons_self
    · rw [show v = .str s from hs]
      rfl
    · rw [show v = .texts items from hitems]
      exact isReadable_texts items

theorem membersReadable_append (ms ns : List (String × Json)) :
    membersReadable (ms ++ ns) = (membersReadable ms && membersReadable ns) := by
  induction ms with
  | nil => rfl
  | cons m ms ih => rw [List.cons_append, membersReadable, membersReadable, ih, Bool.and_assoc]

theorem membersReadable_optional {name : String} {value : Option Json}
    (h : ∀ v, value = some v → v.isReadable = true) :
    membersReadable (optional name value) = true := by
  cases value with
  | none => rfl
  | some v => rw [optional, membersReadable, h v rfl]; rfl

theorem membersReadable_optionalText (name : String) (text : Option String) :
    membersReadable (optionalText name text) = true := by
  apply membersReadable_optional
  intro v hv
  obtain ⟨s, -, rfl⟩ := Option.map_eq_some_iff.1 hv
  rfl

end Json

end HttpDispatch
