import HttpDispatch.Text.Hex
import HttpDispatch.Text.Units

/-!
# Quoted texts in messages

A message that shows a text puts it in quotation marks: in single ones, or where the text holds
some, in the first of double ones and backquotes that do not occur in it.  Where they all occur,
single ones are used after all and escaped in the text.  Backslashes and control characters are
escaped, so what is shown is one line.
-/

namespace HttpDispatch.Text

/-- The letter that stands for a control character. -/
def controlLetter? (c : Char) : Option Char :=
  match c.toNat with
  | 8 => some 'b'
  | 9 => some 't'
  | 10 => some 'n'
  | 12 => some 'f'
  | 13 => some 'r'
  | _ => none

/-- Whether a character is a control character. -/
def isControl (c : Char) : Bool := c.toNat < 0x20 || (0x7f ≤ c.toNat && c.toNat < 0xa0)

/-- A character inside quotation marks. -/
def escapeIn (mark c : Char) : List Char :=
  if c = '\\' || (c = mark && mark = '\'') then ['\\', c]
  else if isControl c then
    match controlLetter? c with
    | some letter => ['\\', letter]
    | none => ['\\', 'x', hexDigitUpper (c.toNat / 16), hexDigitUpper (c.toNat % 16)]
  else [c]

def backquote : Char := .ofNat 0x60

/-- The quotation mark for a text. -/
def markFor (cs : List Char) : Char :=
  if !cs.contains '\'' then '\''
  else if !cs.contains '"' then '"'
  else if !cs.contains backquote && !(cs.zip cs.tail).contains ('$', '\x7b') then backquote
  else '\''

/-- A text in quotation marks. -/
def quoted (cs : List Char) : List Char :=
  let mark := markFor cs
  mark :: cs.flatMap (escapeIn mark) ++ [mark]

/-- The most units of a quoted text that a message shows. -/
def shownLimit : Nat := 128

/-- A quoted text as a message shows it: what is too long is cut off. -/
def shown (s : String) : String :=
  let cs := quoted s.toList
  .ofList (if unitCount cs ≤ shownLimit then cs else takeUnits shownLimit cs ++ ['.', '.', '.'])

end HttpDispatch.Text
