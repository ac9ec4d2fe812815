import HttpDispatch.Text.Case.Upper
import HttpDispatch.Text.Case.Lower
import HttpDispatch.Text.Case.Context

/-!
# Case of texts

Upper-casing maps a text character by character.  Lower-casing does so too, with one exception:
a capital sigma that ends a word becomes the final form of the letter.  It ends a word if a
letter with case stands before it and none after it, where accents and apostrophes in between
are passed over.
-/

namespace HttpDispatch.Text

/-- The upper case of a character. -/
def upperChar (c : Char) : List Char :=
  (mapCodePoint upperRuns upperExpansions c.toNat).map Char.ofNat

/-- The lower case of a character that ends no word. -/
def lowerChar (c : Char) : List Char :=
  (mapCodePoint lowerRuns lowerExpansions c.toNat).map Char.ofNat

/-- The upper case of a text. -/
def upper (s : String) : String :=
  String.ofList (s.toList.flatMap upperChar)

/-- Whether the nearest character that is not passed over has case. -/
def casedNext (cs : List Char) : Bool :=
  (cs.find? fun c => !isCaseIgnorable c).any isCased

/-- The lower case of a text whose characters before it, the last one first, are `before`. -/
def lowerFrom (before : List Char) : List Char → List Char
  | [] => []
  | c :: rest =>
    (if c = 'Σ' && casedNext before && !casedNext rest then ['ς'] else lowerChar c) ++
      lowerFrom (c :: before) rest

/-- The lower case of a text. -/
def lower (s : String) : String :=
  String.ofList (lowerFrom [] s.toList)

end HttpDispatch.Text
