import HttpDispatch.Failure.Value

/-!
# How a value is reported

The text of a value by rules of their own: what it converts to (`Value.Converts`), when the
conversion fails (`Value.Fails`), and what is reported (`Value.Displays`).  Conversion follows the
rules of the platform: an object asks its own conversions one after the other until one yields a
primitive, and a list joins the texts of its items, where one that is nothing has an empty text.

The rules are complete: a value that is no symbol converts or fails (`Value.converts_or_fails`).
Conversion as it is computed gives the texts of the rules and no others (`Value.text?_eq_some_iff`).

Main statement: `Value.display_iff`.
-/

namespace HttpDispatch

namespace Conversion

/-- The conversion throws, or it yields a symbol, which is no text. -/
inductive Breaks : Conversion Value → Prop
  | throws (v : Value) : Breaks (.throws v)
  | symbol (description : Option String) : Breaks (.yields (.symbol description))

/-- The conversion yields an object, so that the next one is asked. -/
inductive YieldsObject : Conversion Value → Prop
  | intro {v : Value} : v.isPrimitive = false → YieldsObject (.yields v)

end Conversion

namespace Value

/-- A value that has an empty text as an item of a list. -/
inductive IsNothing : Value → Prop
  | undefined : IsNothing .undefined
  | null : IsNothing .null

/-- The value converts to this text as a part of another text. -/
inductive Converts : Value → String → Prop
  | undefined : Converts .undefined "undefined"
  | null : Converts .null "null"
  | yes : Converts (.bool true) "true"
  | no : Converts (.bool false) "false"
  | text (s : String) : Converts (.text s) s
  | number (x : Number) : Converts (.number x) x.text
  | bigint (n : Int) : Converts (.bigint n) (toString n)
  /-- These are the items, each with its text. -/
  | array {items : List (Value × String)} :
      (∀ item ∈ items, item.1.IsNothing → item.2 = "") →
      (∀ item ∈ items, ¬ item.1.IsNothing → Converts item.1 item.2) →
      Converts (.array (items.map (·.1))) (String.intercalate "," (items.map (·.2)))
  | object (tag : Option String) : Converts (.object tag) (tagged (tag.getD "Object"))
  | common (toPrimitive : Option (Conversion Value)) (tag : Option String) :
      Converts (.selfConverting none toPrimitive tag) (tagged (tag.getD "Object"))
  | first {v : Value} {s : String} (toPrimitive : Option (Conversion Value)) (tag : Option String) :
      v.isPrimitive = true → Converts v s →
      Converts (.selfConverting (some (.yields v)) toPrimitive tag) s
  | second {o v : Value} {s : String} (tag : Option String) :
      o.isPrimitive = false → v.isPrimitive = true → Converts v s →
      Converts (.selfConverting (some (.yields o)) (some (.yields v)) tag) s
  | inert : Converts .inert (tagged "Object")
  | error (ownName : Option String) (message : String) (stack : Option String) :
      Converts (.error ownName message stack)
        (Report.headline (ownName.getD commonErrorName) message)
  | platformError (name : String) : Converts (.platformError name) name
  | fault (r : Report) (cause : Value) :
      Converts (.fault r cause) (Report.headline Report.errorName r.message)

/-- The value does not convert: it has no conversions, those of its own break or yield only objects,
or it is a list and has an item that is a symbol or does not convert. -/
inductive Fails : Value → Prop
  | bare (tag : Option String) : Fails (.bare tag)
  | breaks {own : Conversion Value} (toPrimitive : Option (Conversion Value))
      (tag : Option String) : own.Breaks → Fails (.selfConverting (some own) toPrimitive tag)
  | onlyObjects {own : Conversion Value} {toPrimitive : Option (Conversion Value)}
      (tag : Option String) : own.YieldsObject →
      (∀ next, toPrimitive = some next → next.Breaks ∨ next.YieldsObject) →
      Fails (.selfConverting (some own) toPrimitive tag)
  | symbolItem {items : List Value} {description : Option String} :
      .symbol description ∈ items → Fails (.array items)
  | item {items : List Value} {v : Value} : v ∈ items → Fails v → Fails (.array items)

/-- The value converts to this text where it stands alone. -/
inductive StringOf : Value → String → Prop
  | symbol (description : Option String) :
      StringOf (.symbol description) ("Symbol(" ++ description.getD "" ++ ")")
  | converts {v : Value} {s : String} : Converts v s → StringOf v s

/-- The message of an error. -/
def message? : Value → Option String
  | error _ message _ => some message
  | platformError _ => some ""
  | fault r _ => some r.message
  | _ => none

/-- The value is reported by this text: an error by its message, a text as it is, any other value as
what it converts to, or by its tag if it does not convert. -/
inductive Displays : Value → String → Prop
  | error {v : Value} {message : String} : v.message? = some message → Displays v message
  | text (s : String) : Displays (.text s) s
  | converted {v : Value} {s : String} : v.message? = none → StringOf v s → Displays v s
  | failed {v : Value} : Fails v → Displays v (tagged v.tag)

/-! ### The rules -/

/-- A primitive that is no symbol converts. -/
theorem converts_of_isPrimitive {v : Value} (h : v.isPrimitive = true) :
    (∃ s, Converts v s) ∨ ∃ description, v = .symbol description := by
  cases v
  case undefined => exact .inl ⟨_, .undefined⟩
  case null => exact .inl ⟨_, .null⟩
  case bool b =>
    cases b with
    | true => exact .inl ⟨_, .yes⟩
    | false => exact .inl ⟨_, .no⟩
  case text s => exact .inl ⟨_, .text s⟩
  case number x => exact .inl ⟨_, .number x⟩
  case bigint n => exact .inl ⟨_, .bigint n⟩
  case symbol description => exact .inr ⟨_, rfl⟩
  all_goals nomatch h

/-- An object that has a conversion to text of its own converts, or it fails. -/
theorem converts_or_fails_selfConverting (own : Conversion Value)
    (toPrimitive : Option (Conversion Value)) (tag : Option String) :
    (∃ s, Converts (.selfConverting (some own) toPrimitive tag) s) ∨
      Fails (.selfConverting (some own) toPrimitive tag) := by
  cases own with
  | throws x => exact .inr (.breaks _ _ (.throws x))
  | yields v =>
    cases hv : v.isPrimitive with
    | true =>
      rcases converts_of_isPrimitive hv with ⟨s, hs⟩ | ⟨description, rfl⟩
      · exact .inl ⟨s, .first _ _ hv hs⟩
      · exact .inr (.breaks _ _ (.symbol description))
    | false =>
      -- The first conversion yields an object, so the second decides.
      cases toPrimitive with
      | none => exact .inr (.onlyObjects _ (.intro hv) nofun)
      | some next =>
        have hfails (h : next.Breaks ∨ next.YieldsObject) :
            Fails (.selfConverting (some (.yields v)) (some next) tag) :=
          .onlyObjects tag (.intro hv) fun _ hnext => Option.some.inj hnext ▸ h
        cases next with
        | throws x => exact .inr (hfails (.inl (.throws x)))
        | yields u =>
          cases hu : u.isPrimitive with
          | false => exact .inr (hfails (.inr (.intro hu)))
          | true =>
            rcases converts_of_isPrimitive hu with ⟨s, hs⟩ | ⟨description, rfl⟩
            · exact .inl ⟨s, .second _ hv hu hs⟩
            · exact .inr (hfails (.inl (.symbol description)))

mutual

/-- A value that is no symbol converts, or it fails. -/
theorem converts_or_fails : (v : Value) →
    (∃ s, Converts v s) ∨ (∃ description, v = .symbol description) ∨ Fails v
  | .undefined | .null | .bool _ | .text _ | .number _ | .bigint _ | .symbol _ =>
    (converts_of_isPrimitive rfl).imp_right .inl
  | .array items => by
    rcases convert_or_fail items with ⟨items, rfl, hnothing, hconverts⟩ | hfails
    · exact .inl ⟨_, .array hnothing hconverts⟩
    · obtain ⟨v, hv, ⟨description, rfl⟩ | hv'⟩ := hfails
      · exact .inr (.inr (.symbolItem hv))
      · exact .inr (.inr (.item hv hv'))
  | .object tag => .inl ⟨_, .object tag⟩
  | .bare tag => .inr (.inr (.bare tag))
  | .selfConverting none toPrimitive tag => .inl ⟨_, .common toPrimitive tag⟩
  | .selfConverting (some own) toPrimitive tag =>
    (converts_or_fails_selfConverting own toPrimitive tag).imp_right .inr
  | .inert => .inl ⟨_, .inert⟩
  | .error ownName message stack => .inl ⟨_, .error ownName message stack⟩
  | .platformError name => .inl ⟨_, .platformError name⟩
  | .fault r cause => .inl ⟨_, .fault r cause⟩

/-- The items of a list all have a text, or one of them is a symbol or fails. -/
theorem convert_or_fail : (items : List Value) →
    (∃ texts : List (Value × String), items = texts.map (·.1) ∧
      (∀ item ∈ texts, item.1.IsNothing → item.2 = "") ∧
      ∀ item ∈ texts, ¬ item.1.IsNothing → Converts item.1 item.2) ∨
    ∃ v ∈ items, (∃ description, v = .symbol description) ∨ Fails v
  | [] => .inl ⟨[], rfl, nofun, nofun⟩
  | v :: rest => by
    rcases convert_or_fail rest with ⟨texts, rfl, hnothing, hconverts⟩ | ⟨u, hu, hfails⟩
    · have hcons (s : String) (hn : v.IsNothing → s = "") (hc : ¬ v.IsNothing → Converts v s) :
          ∃ more : List (Value × String), v :: texts.map (·.1) = more.map (·.1) ∧
            (∀ item ∈ more, item.1.IsNothing → item.2 = "") ∧
            ∀ item ∈ more, ¬ item.1.IsNothing → Converts item.1 item.2 :=
        ⟨(v, s) :: texts, rfl, List.forall_mem_cons.2 ⟨hn, hnothing⟩,
          List.forall_mem_cons.2 ⟨hc, hconverts⟩⟩
      by_cases hv : v.IsNothing
      · exact .inl (hcons "" (fun _ => rfl) (absurd hv))
      · rcases converts_or_fails v with ⟨s, hs⟩ | hfails
        · exact .inl (hcons s (fun h => absurd h hv) fun _ => hs)
        · exact .inr ⟨v, List.mem_cons_self, hfails⟩
    · exact .inr ⟨u, List.mem_cons_of_mem v hu, hfails⟩

end

/-! ### The conversion follows the rules -/

theorem itemTexts?_nothing {v : Value} (h : v.IsNothing) (rest : List Value) :
    itemTexts? (v :: rest) = (itemTexts? rest).map ("" :: ·) := by
  cases h <;> rfl

theorem itemTexts?_cons {v : Value} (h : ¬ v.IsNothing) (rest : List Value) :
    itemTexts? (v :: rest) = (text? v).bind fun s => (itemTexts? rest).map (s :: ·) := by
  have hundefined : v ≠ .undefined := fun hv => h (hv ▸ .undefined)
  have hnull : v ≠ .null := fun hv => h (hv ▸ .null)
  rw [itemTexts?]
  · cases text? v <;> rfl
  · exact hundefined
  · exact hnull

/-- If the items have these texts, the list has them. -/
theorem itemTexts?_map {items : List (Value × String)}
    (hnothing : ∀ item ∈ items, item.1.IsNothing → item.2 = "")
    (htexts : ∀ item ∈ items, ¬ item.1.IsNothing → text? item.1 = some item.2) :
    itemTexts? (items.map (·.1)) = some (items.map (·.2)) := by
  induction items with
  | nil => rfl
  | cons item rest ih =>
    obtain ⟨hnothing, hrest⟩ := List.forall_mem_cons.1 hnothing
    obtain ⟨htext, htexts⟩ := List.forall_mem_cons.1 htexts
    rw [List.map_cons, List.map_cons]
    by_cases hitem : item.1.IsNothing
    · rw [itemTexts?_nothing hitem, ih hrest htexts, hnothing hitem]
      rfl
    · rw [itemTexts?_cons hitem, ih hrest htexts, htext hitem]
      rfl

/-- If an item has no text, the list has none. -/
theorem itemTexts?_of_mem {items : List Value} {v : Value} (hv : v ∈ items)
    (hnothing : ¬ v.IsNothing) (htext : text? v = none) : itemTexts? items = none := by
  induction items with
  | nil => exact absurd hv List.not_mem_nil
  | cons u rest ih =>
    rcases List.mem_cons.1 hv with rfl | hv
    · rw [itemTexts?_cons hnothing, htext]
      rfl
    · by_cases hu : u.IsNothing
      · rw [itemTexts?_nothing hu, ih hv]
        rfl
      · rw [itemTexts?_cons hu, ih hv]
        cases text? u <;> rfl

theorem text?_of_isPrimitive {v : Value} (h : v.isPrimitive = true) :
    text? v = primitiveText? v := by
  cases v
  case array | object | bare | selfConverting | inert | error | platformError | fault => nomatch h
  all_goals rfl

theorem primitiveText?_of_object {v : Value} (h : v.isPrimitive = false) :
    primitiveText? v = none := by
  cases v
  case undefined | null | bool | text | number | bigint | symbol => nomatch h
  all_goals rfl

theorem ownText?_of_isPrimitive {v : Value} (h : v.isPrimitive = true)
    (toPrimitive : Option (Conversion Value)) : ownText? (.yields v) toPrimitive = text? v := by
  rw [ownText?, text?_of_isPrimitive h]
  exact if_pos h

theorem ownText?_of_yieldsObject {own : Conversion Value} (h : own.YieldsObject)
    (toPrimitive : Option (Conversion Value)) :
    ownText? own toPrimitive = toPrimitive.bind yieldedText? := by
  obtain ⟨ho⟩ := h
  rw [ownText?, ho]
  rfl

theorem Converts.text?_eq {v : Value} {s : String} (h : Converts v s) : text? v = some s := by
  induction h with
  | array hnothing _ ih => rw [text?, itemTexts?_map hnothing ih]; rfl
  | first toPrimitive tag hv _ ih => exact (ownText?_of_isPrimitive hv toPrimitive).trans ih
  | second tag ho hv _ ih =>
    rw [text?, ownText?_of_yieldsObject ⟨ho⟩, ← ih, text?_of_isPrimitive hv]
    rfl
  | _ => rfl

theorem yieldedText?_of_breaks {c : Conversion Value} (h : c.Breaks) : yieldedText? c = none := by
  cases h <;> rfl

theorem Fails.text?_eq {v : Value} (h : Fails v) : text? v = none := by
  induction h with
  | bare => rfl
  | breaks _ _ hbreaks => cases hbreaks <;> rfl
  | onlyObjects tag hown hnext =>
    rw [text?, ownText?_of_yieldsObject hown, Option.bind_eq_none_iff]
    intro next hsome
    rcases hnext next hsome with hbreaks | ⟨⟨ho⟩⟩
    · exact yieldedText?_of_breaks hbreaks
    · exact primitiveText?_of_object ho
  | symbolItem hv => rw [text?, itemTexts?_of_mem hv nofun rfl]; rfl
  | @item items v hv hfails ih =>
    have hnothing : ¬ v.IsNothing := fun h => by cases h <;> nomatch hfails
    rw [text?, itemTexts?_of_mem hv hnothing ih]
    rfl

/-- A value is converted to the texts that the rules say, and to no others. -/
theorem text?_eq_some_iff {v : Value} {s : String} : text? v = some s ↔ Converts v s := by
  refine ⟨fun h => ?_, Converts.text?_eq⟩
  rcases converts_or_fails v with ⟨s', hs'⟩ | ⟨description, rfl⟩ | hfails
  · rw [hs'.text?_eq, Option.some_inj] at h
    exact h ▸ hs'
  · nomatch h
  · nomatch hfails.text?_eq.symm.trans h

/-- A value that is no symbol fails exactly if it converts to nothing. -/
theorem fails_iff {v : Value} : Fails v ↔ ∀ s, ¬ StringOf v s := by
  constructor
  · intro hfails s hs
    cases hs with
    | symbol => nomatch hfails
    | converts hs => nomatch hfails.text?_eq.symm.trans hs.text?_eq
  · intro hnone
    rcases converts_or_fails v with ⟨s, hs⟩ | ⟨description, rfl⟩ | hfails
    · exact absurd (.converts hs) (hnone s)
    · exact absurd (.symbol description) (hnone _)
    · exact hfails

/-! ### What is reported -/

theorem display_of_message? {v : Value} {message : String} (h : v.message? = some message) :
    v.display = message := by
  cases v
  case error => exact Option.some.inj h
  case platformError => exact Option.some.inj h
  case fault => exact Option.some.inj h
  all_goals nomatch h

theorem display_of_text? {v : Value} (h : v.message? = none)
    (hsymbol : ∀ description, v ≠ .symbol description) :
    v.display = (text? v).getD (tagged v.tag) := by
  cases v
  case error => nomatch h
  case platformError => nomatch h
  case fault => nomatch h
  case symbol description => exact absurd rfl (hsymbol description)
  all_goals rfl

theorem Fails.message?_eq {v : Value} (h : Fails v) : v.message? = none := by
  cases h <;> rfl

/-- What is reported follows the rules. -/
theorem Displays.display_eq {v : Value} {s : String} (h : Displays v s) : v.display = s := by
  cases h with
  | error hmessage => exact display_of_message? hmessage
  | text => rfl
  | converted hmessage hs =>
    cases hs with
    | symbol => rfl
    | converts hs =>
      have hsymbol : ∀ description, v ≠ .symbol description := by
        rintro description rfl
        nomatch hs
      rw [display_of_text? hmessage hsymbol, hs.text?_eq]
      rfl
  | failed hfails =>
    have hsymbol : ∀ description, v ≠ .symbol description := by
      rintro description rfl
      nomatch hfails
    rw [display_of_text? hfails.message?_eq hsymbol, hfails.text?_eq]
    rfl

/-- The rules give every value a text. -/
theorem exists_displays (v : Value) : ∃ s, Displays v s := by
  cases hmessage : v.message? with
  | some message => exact ⟨message, .error hmessage⟩
  | none =>
    rcases converts_or_fails v with ⟨s, hs⟩ | ⟨description, rfl⟩ | hfails
    · exact ⟨s, .converted hmessage (.converts hs)⟩
    · exact ⟨_, .converted hmessage (.symbol description)⟩
    · exact ⟨_, .failed hfails⟩

theorem displays_display (v : Value) : v.Displays v.display := by
  obtain ⟨s, hs⟩ := exists_displays v
  exact hs.display_eq.symm ▸ hs

/-- **How any value is reported.**  Every value is reported by exactly one text: an error by its
message, a text as it is, and any other value as what it converts to, except where the conversion
fails.  Then it is reported by its tag.  The conversion fails exactly where there is nothing that
the value converts to. -/
theorem display_iff (v : Value) :
    (∀ s, v.display = s ↔ v.Displays s) ∧ (v.Fails ↔ ∀ s, ¬ v.StringOf s) := by
  refine ⟨fun s => ⟨?_, Displays.display_eq⟩, fails_iff⟩
  rintro rfl
  exact v.displays_display

/-- A list of lists that is reported by its tag, since of an item deep in it no conversion yields a
primitive. -/
example : display (.array [.error none "no" none,
      .array [.selfConverting (some (.yields (.object none))) (some (.yields .inert)) none]]) =
    "[object Array]" := rfl

end Value

end HttpDispatch
