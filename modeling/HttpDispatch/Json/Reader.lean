import HttpDispatch.Json
import HttpDispatch.Text.Hex

/-!
# Reading JSON

Readers take a prefix of their input and return what is left.  The grammar is the standard's:
blanks between tokens, no leading zeros, texts without bare control characters, surrogates as
pairs of escapes.  Values are read with a bound on the depth plus the number of items passed on
the way down; every item takes up a character, so the length of the input is bound enough.
-/

namespace HttpDispatch.Json

open Text (hexValue?)

/-- Drops the blanks that may stand between tokens. -/
def skipBlanks (cs : List Char) : List Char :=
  cs.dropWhile fun c => c = ' ' || c = '\t' || c = '\n' || c = '\r'

/-- Takes the characters of a word off the front. -/
def word? (w : List Char) (cs : List Char) : Option (List Char) :=
  match w, cs with
  | [], rest => some rest
  | a :: w, c :: rest => if a = c then word? w rest else none
  | _ :: _, [] => none

/-- The value of four hexadecimal digits. -/
def hexUnit? (a b c d : Char) : Option Nat :=
  match hexValue? a, hexValue? b, hexValue? c, hexValue? d with
  | some w, some x, some y, some z => some (((w * 16 + x) * 16 + y) * 16 + z)
  | _, _, _, _ => none

/-- The character that a letter after a backslash names. -/
def letterEscape? (c : Char) : Option Char :=
  match c with
  | '"' => some '"'
  | '\\' => some '\\'
  | '/' => some '/'
  | 'b' => some '\x08'
  | 'f' => some '\x0c'
  | 'n' => some '\n'
  | 'r' => some '\r'
  | 't' => some '\t'
  | _ => none

/-- The character of a UTF-16 unit; U+FFFD for a surrogate without its partner. -/
def unitChar (x : Nat) : Char :=
  if 0xD800 ≤ x ∧ x < 0xE000 then '\uFFFD' else Char.ofNat x

/-- The character that two UTF-16 units make together, if they do. -/
def pairChar? (x y : Nat) : Option Char :=
  if 0xD800 ≤ x ∧ x < 0xDC00 ∧ 0xDC00 ≤ y ∧ y < 0xE000 then
    some (Char.ofNat (0x10000 + (x - 0xD800) * 1024 + (y - 0xDC00)))
  else none

/-- Puts a character in front of a text that is read. -/
def prepend (c : Char) (read : Option (List Char × List Char)) :
    Option (List Char × List Char) :=
  read.map fun (text, rest) => (c :: text, rest)

/-- Reads the rest of a text, up to its closing quotation mark. -/
def textFrom : List Char → Option (List Char × List Char)
  | [] => none
  | '"' :: rest => some ([], rest)
  | '\\' :: 'u' :: a :: b :: c :: d :: rest =>
    match hexUnit? a b c d with
    | none => none
    | some x =>
      match rest with
      | '\\' :: 'u' :: e :: f :: g :: h :: more =>
        match (hexUnit? e f g h).bind (pairChar? x) with
        | some both => prepend both (textFrom more)
        | none => prepend (unitChar x) (textFrom ('\\' :: 'u' :: e :: f :: g :: h :: more))
      | other => prepend (unitChar x) (textFrom other)
  | '\\' :: c :: rest =>
    match letterEscape? c with
    | some e => prepend e (textFrom rest)
    | none => none
  | c :: rest => if c.toNat < 0x20 then none else prepend c (textFrom rest)

/-- The value of a row of decimal digits after `n`. -/
def decimalValue (n : Nat) (digits : List Char) : Nat :=
  digits.foldl (fun n c => n * 10 + (c.toNat - 0x30)) n

/-- Takes a row of digits, one at least, off the front. -/
def digits? (cs : List Char) : Option (List Char × List Char) :=
  match cs.takeWhile Char.isDigit with
  | [] => none
  | ds => some (ds, cs.dropWhile Char.isDigit)

/-- The digits after a point, if there is one. -/
def fraction? : List Char → Option (List Char × List Char)
  | '.' :: rest => digits? rest
  | cs => some ([], cs)

/-- The digits of an exponent and their sign. -/
def signedExponent? : List Char → Option (Int × List Char)
  | '-' :: rest => (digits? rest).map fun (ds, r) => (-(decimalValue 0 ds : Int), r)
  | '+' :: rest => (digits? rest).map fun (ds, r) => ((decimalValue 0 ds : Int), r)
  | cs => (digits? cs).map fun (ds, r) => ((decimalValue 0 ds : Int), r)

/-- An exponent, if there is one. -/
def exponent? : List Char → Option (Int × List Char)
  | 'e' :: rest => signedExponent? rest
  | 'E' :: rest => signedExponent? rest
  | cs => some (0, cs)

/-- Reads a number without its sign. -/
def magnitude? (negative : Bool) (cs : List Char) : Option (Json × List Char) := do
  let (whole, rest) ← digits? cs
  if 1 < whole.length ∧ whole.head? = some '0' then none
  else
    let (frac, rest) ← fraction? rest
    let (e, rest) ← exponent? rest
    let digits := decimalValue (decimalValue 0 whole) frac
    some (.num (.ofDecimal negative digits (e - frac.length)), rest)

/-- Reads a number. -/
def number? : List Char → Option (Json × List Char)
  | '-' :: rest => magnitude? true rest
  | cs => magnitude? false cs

/-- Reads the name of a member and the colon after it. -/
def name? (cs : List Char) : Option (String × List Char) := do
  let rest ← word? ['"'] (skipBlanks cs)
  let (k, rest) ← textFrom rest
  let rest ← word? [':'] (skipBlanks rest)
  some (String.ofList k, rest)

mutual

/-- Reads a value, within a bound. -/
def value? : Nat → List Char → Option (Json × List Char)
  | 0, _ => none
  | bound + 1, cs =>
    match skipBlanks cs with
    | 'n' :: rest => (word? ['u', 'l', 'l'] rest).map fun r => (.null, r)
    | 't' :: rest => (word? ['r', 'u', 'e'] rest).map fun r => (.bool true, r)
    | 'f' :: rest => (word? ['a', 'l', 's', 'e'] rest).map fun r => (.bool false, r)
    | '"' :: rest => (textFrom rest).map fun (s, r) => (.str (String.ofList s), r)
    | '[' :: rest =>
      match skipBlanks rest with
      | ']' :: r => some (.arr [], r)
      | _ => do
        let (v, r) ← value? bound rest
        let (vs, r) ← items? bound r
        some (.arr (v :: vs), r)
    | '{' :: rest =>
      match skipBlanks rest with
      | '}' :: r => some (.obj [], r)
      | _ => do
        let (k, r) ← name? rest
        let (v, r) ← value? bound r
        let (ms, r) ← members? bound r
        some (.obj ((k, v) :: ms), r)
    | other => number? other

/-- Reads the items of an array after one, and its end. -/
def items? : Nat → List Char → Option (List Json × List Char)
  | 0, _ => none
  | bound + 1, cs =>
    match skipBlanks cs with
    | ']' :: rest => some ([], rest)
    | ',' :: rest => do
      let (v, r) ← value? bound rest
      let (vs, r) ← items? bound r
      some (v :: vs, r)
    | _ => none

/-- Reads the members of an object after one, and its end. -/
def members? : Nat → List Char → Option (List (String × Json) × List Char)
  | 0, _ => none
  | bound + 1, cs =>
    match skipBlanks cs with
    | '}' :: rest => some ([], rest)
    | ',' :: rest => do
      let (k, r) ← name? rest
      let (v, r) ← value? bound r
      let (ms, r) ← members? bound r
      some ((k, v) :: ms, r)
    | _ => none

end

/-- The value that a text writes, if it is nothing but that value. -/
def read? (s : String) : Option Json :=
  match value? (s.length + 1) s.toList with
  | some (v, rest) => if skipBlanks rest = [] then some v else none
  | none => none

end HttpDispatch.Json
