import HttpDispatch.Text.Hex
import HttpDispatch.Text.Utf8

/-!
# Percent encoding

Text inside a request target is written with escapes `%XX`, each of which stands for one octet
of UTF-8.  A path segment is read strictly (`decode?`): every percent sign must begin an escape,
a character that is not escaped stands for its own octets, and the octets must be well-formed.

A piece of a query (`decodeForm`) has a plus sign for a space and is then read in the same way.
Where that fails the piece is read octet by octet: an escape is its octet, any other character is
the low octet of each of its UTF-16 units, and octets that are no text are replaced.  A piece in
which there is no escape at all stands for itself.

`encode` writes a text so that both readings give it back (`decode?_encode`,
`decodeForm_encode`).
-/

namespace HttpDispatch.Percent

open Text (hexValue? hexDigitUpper hexValue?_hexDigitUpper)

/-- The octet that two digits name. -/
def octet? (a b : Char) : Option UInt8 :=
  match hexValue? a, hexValue? b with
  | some x, some y => some (.ofNat (x * 16 + y))
  | _, _ => none

/-- The octets of a path segment, unless a percent sign begins no escape. -/
def octets? : List Char → Option (List UInt8)
  | [] => some []
  | '%' :: a :: b :: rest =>
    match octet? a b with
    | some o => (octets? rest).map (o :: ·)
    | none => none
  | c :: rest => if c = '%' then none else (octets? rest).map (Utf8.encodeChar c ++ ·)

/-- The low octets of the UTF-16 units of a character. -/
def lowOctets (c : Char) : List UInt8 :=
  let n := c.toNat
  if n < 0x10000 then [.ofNat (n % 256)]
  else [.ofNat ((n - 0x10000) / 1024 % 256), .ofNat ((n - 0x10000) % 1024 % 256)]

/-- The octets of a piece of a query that is no proper percent encoding. -/
def looseOctets : List Char → List UInt8
  | [] => []
  | '%' :: a :: b :: rest =>
    match octet? a b with
    | some o => o :: looseOctets rest
    | none => lowOctets '%' ++ looseOctets (a :: b :: rest)
  | c :: rest => lowOctets c ++ looseOctets rest

/-- Whether there is an escape somewhere. -/
def hasEscape : List Char → Bool
  | '%' :: a :: b :: rest => (octet? a b).isSome || hasEscape (a :: b :: rest)
  | _ :: rest => hasEscape rest
  | [] => false

/-- The text that a path segment stands for. -/
def decode? (s : String) : Option String :=
  ((octets? s.toList).bind Utf8.decode?).map String.ofList

/-- The characters that a piece of a query stands for once plus signs are spaces. -/
def decodeSpaced (cs : List Char) : List Char :=
  ((octets? cs).bind Utf8.decode?).getD (Utf8.decodeLossy (looseOctets cs))

/-- The text that a piece of a query stands for.  Whether there is an escape in it is seen with
the plus signs left out. -/
def decodeForm (cs : List Char) : String :=
  let spaced := cs.map fun c => if c = '+' then ' ' else c
  String.ofList (if hasEscape (cs.filter (· != '+')) then decodeSpaced spaced else spaced)

/-! ### Writing -/

/-- The characters that stand for themselves: letters and digits of ASCII and nine marks. -/
def isUnreserved (c : Char) : Bool :=
  c.isAlphanum || "-_.!~*'()".toList.contains c

/-- The escape of an octet. -/
def escape (o : UInt8) : List Char :=
  ['%', hexDigitUpper (o.toNat / 16), hexDigitUpper (o.toNat % 16)]

/-- A character, escaped where it may not stand for itself. -/
def encodeChar (c : Char) : List Char :=
  if isUnreserved c then [c] else (Utf8.encodeChar c).flatMap escape

/-- A text in escaped form. -/
def encode (s : String) : String :=
  String.ofList (s.toList.flatMap encodeChar)

theorem octet?_escape (o : UInt8) :
    octet? (hexDigitUpper (o.toNat / 16)) (hexDigitUpper (o.toNat % 16)) = some o := by
  have hlt := o.toNat_lt
  rw [octet?, hexValue?_hexDigitUpper _ (by omega), hexValue?_hexDigitUpper _ (by omega)]
  simp only [Option.some.injEq]
  rw [show o.toNat / 16 * 16 + o.toNat % 16 = o.toNat by omega, UInt8.ofNat_toNat]

theorem octets?_escape_append (os : List UInt8) (rest : List Char) :
    octets? (os.flatMap escape ++ rest) = (octets? rest).map (os ++ ·) := by
  induction os with
  | nil => simp
  | cons o os ih =>
    rw [List.flatMap_cons, List.append_assoc]
    simp only [escape, List.cons_append, List.nil_append]
    rw [octets?, octet?_escape]
    simp only [ih, Option.map_map]
    rfl

theorem octets?_encodeChar_append (c : Char) (rest : List Char) :
    octets? (encodeChar c ++ rest) = (octets? rest).map (Utf8.encodeChar c ++ ·) := by
  rw [encodeChar]
  split
  · rename_i h
    have hc : c ≠ '%' := by
      intro e
      rw [e] at h
      exact absurd h (by decide)
    rw [List.cons_append, List.nil_append, octets?]
    · simp [hc]
    · intro a b r e
      exact absurd e hc
  · exact octets?_escape_append _ _

theorem octets?_encode (cs : List Char) :
    octets? (cs.flatMap encodeChar) = some (Utf8.encode cs) := by
  induction cs with
  | nil => rfl
  | cons c cs ih =>
    rw [List.flatMap_cons, octets?_encodeChar_append, ih]
    rfl

/-- What is escaped reads back. -/
theorem decode?_encode (s : String) : decode? (encode s) = some s := by
  rw [decode?, encode, String.toList_ofList, octets?_encode, Option.bind_some,
    Utf8.decode?_encode, Option.map_some, String.ofList_toList]

theorem decodeSpaced_encode (cs : List Char) : decodeSpaced (cs.flatMap encodeChar) = cs := by
  rw [decodeSpaced, octets?_encode, Option.bind_some, Utf8.decode?_encode, Option.getD_some]

theorem plus_notMem_escape (o : UInt8) : '+' ∉ escape o := by
  have hlt := o.toNat_lt
  have h : ∀ n, n < 16 → hexDigitUpper n ≠ '+' := by decide
  have h1 := h (o.toNat / 16) (by omega)
  have h2 := h (o.toNat % 16) (by omega)
  simp only [escape, List.mem_cons, List.not_mem_nil, or_false, not_or]
  exact ⟨by decide, h1.symm, h2.symm⟩

theorem plus_notMem_encodeChar (c : Char) : '+' ∉ encodeChar c := by
  rw [encodeChar]
  split
  · rename_i h
    intro hm
    rw [← List.mem_singleton.1 hm] at h
    exact absurd h (by decide)
  · intro hm
    obtain ⟨o, _, ho⟩ := List.mem_flatMap.1 hm
    exact plus_notMem_escape o ho

theorem plus_notMem_encode (cs : List Char) : '+' ∉ cs.flatMap encodeChar := by
  intro hm
  obtain ⟨c, _, hc⟩ := List.mem_flatMap.1 hm
  exact plus_notMem_encodeChar c hc

/-- Without an escape, nothing was escaped. -/
theorem encode_of_not_hasEscape : ∀ cs : List Char,
    hasEscape (cs.flatMap encodeChar) = false → cs.flatMap encodeChar = cs
  | [], _ => rfl
  | c :: cs, h => by
    rw [List.flatMap_cons] at h ⊢
    rw [encodeChar] at h ⊢
    split at h
    · rename_i hc
      have hp : c ≠ '%' := by
        intro e
        rw [e] at hc
        exact absurd hc (by decide)
      rw [List.cons_append, List.nil_append, hasEscape] at h
      · rw [if_pos hc, List.cons_append, List.nil_append, encode_of_not_hasEscape cs h]
      · intro a b r e
        exact absurd e hp
    · exfalso
      cases ho : Utf8.encodeChar c with
      | nil =>
        simp only [Utf8.encodeChar] at ho
        split at ho
        · simp at ho
        · split at ho
          · simp at ho
          · split at ho <;> simp at ho
      | cons o os =>
        rw [ho, List.flatMap_cons] at h
        simp only [escape, List.cons_append, List.nil_append] at h
        rw [hasEscape, octet?_escape] at h
        simp at h

/-- What is escaped reads back from a query. -/
theorem decodeForm_encode (cs : List Char) :
    decodeForm (cs.flatMap encodeChar) = String.ofList cs := by
  have hf : (cs.flatMap encodeChar).filter (· != '+') = cs.flatMap encodeChar := by
    refine List.filter_eq_self.2 fun c hc => ?_
    simp only [bne_iff_ne, ne_eq]
    intro e
    exact plus_notMem_encode cs (e ▸ hc)
  have hm : (cs.flatMap encodeChar).map (fun c => if c = '+' then ' ' else c) =
      cs.flatMap encodeChar := by
    refine (List.map_congr_left fun c hc => ?_).trans (List.map_id _)
    rw [if_neg]
    · rfl
    · intro e
      exact plus_notMem_encode cs (e ▸ hc)
  simp only [decodeForm, hf, hm]
  split
  · rw [decodeSpaced_encode]
  · rename_i h
    rw [encode_of_not_hasEscape cs (by simpa using h)]

end HttpDispatch.Percent
