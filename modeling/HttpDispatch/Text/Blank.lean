/-!
# Blank characters

The white space that may pad a method token or the value of an environment variable: the
space separators of Unicode, the two line separators, the byte order mark, and the five
control characters from tab to carriage return.  It is neither the ASCII set nor the Unicode
property of the same name: U+0085 and U+200B are not in it, and U+FEFF is.

`trim` takes blanks from both ends, so what it leaves starts with no blank (`trimChars_head`).
-/

namespace HttpDispatch.Text

/-- The blank characters. -/
def isBlank (c : Char) : Bool :=
  let n := c.toNat
  (0x09 ≤ n && n ≤ 0x0D) || n == 0x20 || n == 0xA0 || n == 0x1680 ||
    (0x2000 ≤ n && n ≤ 0x200A) || n == 0x2028 || n == 0x2029 || n == 0x202F ||
    n == 0x205F || n == 0x3000 || n == 0xFEFF

/-- The characters without the blanks at their end. -/
def trimEndChars (cs : List Char) : List Char :=
  (cs.reverse.dropWhile isBlank).reverse

/-- The characters without the blanks at either end. -/
def trimChars (cs : List Char) : List Char :=
  trimEndChars (cs.dropWhile isBlank)

/-- The text without the blanks at either end. -/
def trim (s : String) : String :=
  String.ofList (trimChars s.toList)

@[simp] theorem trimChars_nil : trimChars [] = [] := rfl

@[simp] theorem trimEndChars_nil : trimEndChars [] = [] := rfl

/-- Trimming the end does not reach past a character that is no blank. -/
theorem trimEndChars_cons {c : Char} (h : isBlank c = false) (cs : List Char) :
    trimEndChars (c :: cs) = c :: trimEndChars cs := by
  rw [trimEndChars, trimEndChars, List.reverse_cons, List.dropWhile_append]
  split
  · rename_i he
    rw [List.isEmpty_iff.1 he, List.dropWhile_cons, h]
    simp
  · simp

/-- What is left after trimming starts with no blank. -/
theorem trimChars_head {cs : List Char} {c : Char} (h : (trimChars cs).head? = some c) :
    isBlank c = false := by
  rw [trimChars] at h
  cases hd : cs.dropWhile isBlank with
  | nil => rw [hd] at h; simp at h
  | cons d r =>
    have hb : isBlank d = false := by
      have := List.head?_dropWhile_not isBlank cs
      rw [hd] at this
      simpa using this
    rw [hd, trimEndChars_cons hb] at h
    simp only [List.head?_cons, Option.some.injEq] at h
    exact h ▸ hb

end HttpDispatch.Text
