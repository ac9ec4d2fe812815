import HttpDispatch.Json
import HttpDispatch.Number.Shortest
import HttpDispatch.Text.Hex

/-!
# Writing JSON

A value is written without spaces.  In a text only the quotation mark, the backslash and the
control characters below U+0020 are escaped, five of those by a letter and the rest by four
lower-case hexadecimal digits; all other characters stand as they are.  A number that is not
finite has no JSON form and is written `null`.

What is written has no control character in it (`toNat_of_mem_chars`), so it is one line.
-/

namespace HttpDispatch.Json

open Text (hexDigitLower)

/-- A character of a text, escaped where it has to be. -/
def escape (c : Char) : List Char :=
  if c = '"' then ['\\', '"']
  else if c = '\\' then ['\\', '\\']
  else if 0x20 ≤ c.toNat then [c]
  else if c.toNat = 8 then ['\\', 'b']
  else if c.toNat = 9 then ['\\', 't']
  else if c.toNat = 10 then ['\\', 'n']
  else if c.toNat = 12 then ['\\', 'f']
  else if c.toNat = 13 then ['\\', 'r']
  else ['\\', 'u', '0', '0', hexDigitLower (c.toNat / 16), hexDigitLower (c.toNat % 16)]

/-- A text in quotation marks. -/
def quote (s : String) : List Char :=
  '"' :: s.toList.flatMap escape ++ ['"']

/-- A number. -/
def numberChars (x : Number) : List Char :=
  if x.isFinite then x.chars else ['n', 'u', 'l', 'l']

mutual

/-- A value, as characters. -/
def chars : Json → List Char
  | .null => ['n', 'u', 'l', 'l']
  | .bool true => ['t', 'r', 'u', 'e']
  | .bool false => ['f', 'a', 'l', 's', 'e']
  | .num x => numberChars x
  | .str s => quote s
  | .arr [] => ['[', ']']
  | .arr (v :: rest) => '[' :: chars v ++ itemChars rest
  | .obj [] => ['{', '}']
  | .obj ((k, v) :: rest) => '{' :: quote k ++ ':' :: chars v ++ memberChars rest

/-- The items of an array after the first, and its end. -/
def itemChars : List Json → List Char
  | [] => [']']
  | v :: rest => ',' :: chars v ++ itemChars rest

/-- The members of an object after the first, and its end. -/
def memberChars : List (String × Json) → List Char
  | [] => ['}']
  | (k, v) :: rest => ',' :: quote k ++ ':' :: chars v ++ memberChars rest

end

/-- A value, as text. -/
def render (v : Json) : String := String.ofList v.chars

/-! ### What JSON is written with -/

theorem toNat_of_mem_escape {c d : Char} (h : d ∈ escape c) : 0x20 ≤ d.toNat := by
  have pair : ∀ {a b : Char}, 0x20 ≤ a.toNat → 0x20 ≤ b.toNat → d ∈ [a, b] → 0x20 ≤ d.toNat := by
    intro a b ha hb hd
    rcases List.mem_cons.1 hd with rfl | hd
    · exact ha
    · exact List.mem_singleton.1 hd ▸ hb
  have digit : ∀ n, n < 16 → 0x20 ≤ (hexDigitLower n).toNat := by decide
  rw [escape] at h
  split at h
  · exact pair (by decide) (by decide) h
  split at h
  · exact pair (by decide) (by decide) h
  split at h
  · rename_i hc
    exact List.mem_singleton.1 h ▸ hc
  rename_i hc
  split at h
  · exact pair (by decide) (by decide) h
  split at h
  · exact pair (by decide) (by decide) h
  split at h
  · exact pair (by decide) (by decide) h
  split at h
  · exact pair (by decide) (by decide) h
  split at h
  · exact pair (by decide) (by decide) h
  · have h1 := digit (c.toNat / 16) (by omega)
    have h2 := digit (c.toNat % 16) (by omega)
    simp only [List.mem_cons, List.not_mem_nil, or_false] at h
    rcases h with rfl | rfl | rfl | rfl | rfl | rfl
    · decide
    · decide
    · decide
    · decide
    · exact h1
    · exact h2

theorem toNat_of_mem_quote {s : String} {d : Char} (h : d ∈ quote s) : 0x20 ≤ d.toNat := by
  rw [quote] at h
  rcases List.mem_append.1 h with h | h
  · rcases List.mem_cons.1 h with rfl | h
    · decide
    · obtain ⟨c, _, hc⟩ := List.mem_flatMap.1 h
      exact toNat_of_mem_escape hc
  · exact List.mem_singleton.1 h ▸ by decide

theorem toNat_of_mem_numberChars {x : Number} {d : Char} (h : d ∈ numberChars x) :
    0x20 ≤ d.toNat := by
  rw [numberChars] at h
  split at h
  · exact Number.toNat_of_mem_chars h
  · exact Decimal.toNat_of_mem_word (w := ['n', 'u', 'l', 'l']) (by decide) h

mutual

/-- A value is written without control characters. -/
theorem toNat_of_mem_chars {d : Char} : ∀ v : Json, d ∈ chars v → 0x20 ≤ d.toNat
  | .null, h => Decimal.toNat_of_mem_word (w := ['n', 'u', 'l', 'l']) (by decide) h
  | .bool true, h => Decimal.toNat_of_mem_word (w := ['t', 'r', 'u', 'e']) (by decide) h
  | .bool false, h => Decimal.toNat_of_mem_word (w := ['f', 'a', 'l', 's', 'e']) (by decide) h
  | .num x, h => toNat_of_mem_numberChars h
  | .str s, h => toNat_of_mem_quote h
  | .arr [], h => Decimal.toNat_of_mem_word (w := ['[', ']']) (by decide) h
  | .arr (v :: rest), h => by
    rw [chars] at h
    rcases List.mem_append.1 h with h | h
    · rcases List.mem_cons.1 h with rfl | h
      · decide
      · exact toNat_of_mem_chars v h
    · exact toNat_of_mem_itemChars rest h
  | .obj [], h => Decimal.toNat_of_mem_word (w := ['{', '}']) (by decide) h
  | .obj ((k, v) :: rest), h => by
    rw [chars] at h
    rcases List.mem_append.1 h with h | h
    · rcases List.mem_cons.1 h with rfl | h
      · decide
      · rcases List.mem_append.1 h with h | h
        · exact toNat_of_mem_quote h
        · rcases List.mem_cons.1 h with rfl | h
          · decide
          · exact toNat_of_mem_chars v h
    · exact toNat_of_mem_memberChars rest h

theorem toNat_of_mem_itemChars {d : Char} : ∀ vs : List Json, d ∈ itemChars vs → 0x20 ≤ d.toNat
  | [], h => Decimal.toNat_of_mem_word (w := [']']) (by decide) h
  | v :: rest, h => by
    rw [itemChars] at h
    rcases List.mem_append.1 h with h | h
    · rcases List.mem_cons.1 h with rfl | h
      · decide
      · exact toNat_of_mem_chars v h
    · exact toNat_of_mem_itemChars rest h

theorem toNat_of_mem_memberChars {d : Char} :
    ∀ ms : List (String × Json), d ∈ memberChars ms → 0x20 ≤ d.toNat
  | [], h => Decimal.toNat_of_mem_word (w := ['}']) (by decide) h
  | (k, v) :: rest, h => by
    rw [memberChars] at h
    rcases List.mem_append.1 h with h | h
    · rcases List.mem_cons.1 h with rfl | h
      · decide
      · rcases List.mem_append.1 h with h | h
        · exact toNat_of_mem_quote h
        · rcases List.mem_cons.1 h with rfl | h
          · decide
          · exact toNat_of_mem_chars v h
    · exact toNat_of_mem_memberChars rest h

end

end HttpDispatch.Json
