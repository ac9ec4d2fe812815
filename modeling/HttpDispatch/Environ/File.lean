import HttpDispatch.Environ.Config
import HttpDispatch.Http.Params
import HttpDispatch.Text.Blank
import HttpDispatch.Text.Regex

/-!
# Environment files

An environment file is a list of definitions, one a line as a rule.  A definition is a key, an
equals sign or a colon with a blank after it, and a value that is quoted in one of three ways or
runs to the end of the line or to a number sign; `export` may stand before it and a comment after
it.  `lineGrammar` says exactly what counts, and text that fits it nowhere is passed over.

A quoted value may run over several lines and loses its quotes; in double quotes `\n` and `\r`
stand for the control characters.  Of two definitions of one key the later one holds.  A file
never changes a variable that is already set.
-/

namespace HttpDispatch.EnvFile

open Text (Regex isBlank trimChars)
open Text.Regex (char concat optional plus)

/-- The characters of a key. -/
def isKeyChar (c : Char) : Bool :=
  c.isAlphanum || c = '_' || c = '.' || c = '-'

/-- Blanks, as many as there are. -/
def blanks : Regex := .star true (.one isBlank)

/-- A text in quotes of one kind, which may stand inside after a backslash. -/
def quoted (quote : Char) : Regex :=
  concat [blanks, char quote,
    .star true (.alt (.seq (char '\\') (char quote)) (.one (· != quote))), char quote]

/-- A value: quoted, or the rest of the line up to a comment. -/
def valueGrammar : Regex :=
  .alt (quoted '\'') (.alt (quoted '"') (.alt (quoted '\u0060')
    (plus true (.one fun c => !(c = '#' || c = '\r' || c = '\n')))))

/-- A definition: group 1 is the key and group 2 the value. -/
def lineGrammar : Regex :=
  concat [.lineStart, blanks,
    optional (.seq (Regex.literal "export") (plus true (.one isBlank))),
    .group 1 (plus true (.one isKeyChar)),
    .alt (concat [blanks, char '=', .star false (.one isBlank)])
      (.seq (char ':') (plus false (.one isBlank))),
    optional (.group 2 valueGrammar),
    blanks,
    optional (.seq (char '#') (.star true (.one fun c => !Regex.isLineBreak c))),
    .lineEnd]

/-- The three kinds of quote. -/
def isQuote (c : Char) : Bool :=
  c = '\'' || c = '"' || c = '\u0060'

/-- A whole line, or several, in quotes of one kind: group 2 is what stands between. -/
def quotedGrammar : Regex :=
  concat [.lineStart, .group 1 (.one isQuote), .group 2 (.star true (.one fun _ => true)),
    .same 1, .lineEnd]

/-- Replaces a backslash followed by a letter by a character. -/
def unescape (letter replacement : Char) : List Char → List Char
  | '\\' :: c :: rest =>
    if c = letter then replacement :: unescape letter replacement rest
    else '\\' :: unescape letter replacement (c :: rest)
  | c :: rest => c :: unescape letter replacement rest
  | [] => []

/-- The value that a definition writes. -/
def valueOf (written : List Char) : List Char :=
  let trimmed := trimChars written
  let bare := quotedGrammar.replace (·.group 2) trimmed
  if trimmed.head? = some '"' then unescape 'r' '\r' (unescape 'n' '\n' bare) else bare

/-- Line ends of every kind become line feeds. -/
def normalizeBreaks : List Char → List Char
  | '\r' :: '\n' :: rest => '\n' :: normalizeBreaks rest
  | c :: rest => (if c = '\r' then '\n' else c) :: normalizeBreaks rest
  | [] => []

/-- The definitions of a file, in order. -/
def definitions (content : String) : List (String × String) :=
  (lineGrammar.findAll (normalizeBreaks content.toList)).map fun p =>
    (String.ofList (p.group 1), String.ofList (valueOf (p.group 2)))

/-- The variables that a file defines. -/
def bindings (content : String) : Params :=
  Params.ofList (definitions content)

/-- Sets a variable, unless it is set already.  The value is kept whole, also if it holds a NUL,
where a process would cut it. -/
def define (env : Environ) (key value : String) : Environ :=
  if env.contains key then env else env.set key value

/-- Adds variables to an environment; those that are set already stay. -/
def merge (env : Environ) (vars : List (String × String)) : Environ :=
  vars.foldl (fun env v => define env v.1 v.2) env

theorem get?_define (env : Environ) (key value other : String) :
    (define env key value).get? other =
      if other = key then some ((env.get? key).getD value) else env.get? other := by
  rw [define, Dict.contains]
  cases h : env.get? key with
  | none =>
    rw [if_neg (by simp), Dict.get?_set]
    rfl
  | some v =>
    rw [if_pos (by simp)]
    by_cases ho : other = key
    · rw [if_pos ho, ho, h]
      rfl
    · rw [if_neg ho]

theorem define_of_contains {env : Environ} {key : String} (h : env.contains key = true)
    (value : String) : define env key value = env :=
  if_pos h

/-- A variable that is not set gets the value of the first definition. -/
theorem get?_merge (env : Environ) (vars : List (String × String)) (key : String) :
    (merge env vars).get? key = (env.get? key).or (Dict.lookupIn key vars) := by
  induction vars generalizing env with
  | nil => exact (Option.or_none ..).symm
  | cons v rest ih =>
    obtain ⟨other, value⟩ := v
    have hrest : (merge env ((other, value) :: rest)).get? key =
        (merge (define env other value) rest).get? key := rfl
    rw [hrest, ih, get?_define, Dict.lookupIn]
    by_cases hkey : key = other
    · subst hkey
      rw [if_pos rfl, if_pos rfl]
      cases env.get? key <;> rfl
    · rw [if_neg hkey, if_neg (Ne.symm hkey)]

theorem merge_of_contains {env : Environ} {vars : List (String × String)}
    (h : ∀ v ∈ vars, env.contains v.1 = true) : merge env vars = env := by
  induction vars with
  | nil => rfl
  | cons v rest ih =>
    have hfirst : merge env (v :: rest) = merge (define env v.1 v.2) rest := rfl
    rw [hfirst, define_of_contains (h v List.mem_cons_self),
      ih fun v hv => h v (List.mem_cons_of_mem _ hv)]

end HttpDispatch.EnvFile
