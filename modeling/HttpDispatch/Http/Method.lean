import HttpDispatch.Text.Blank
import HttpDispatch.Text.Case

/-!
# Method tokens

A request names its method by a token, and a route lists the tokens that it accepts.  Tokens are
compared in their canonical form, without padding and in upper case; a token is any text, the
verbs of the standard among them.
-/

namespace HttpDispatch.Method

/-- The canonical form of a method token. -/
def normalize (token : String) : String :=
  Text.upper (Text.trim token)

/-- Whether a set of methods accepts a token.  The empty set accepts every token; the members of
the set are taken as they stand. -/
def accepts (methods : List String) (token : String) : Bool :=
  methods.isEmpty || methods.contains (normalize token)

/-- The verbs of the standard. -/
def standard : List String :=
  ["GET", "POST", "PUT", "DELETE", "PATCH", "HEAD", "OPTIONS", "CONNECT", "TRACE"]

theorem accepts_iff {methods : List String} {token : String} :
    accepts methods token = true ↔ methods = [] ∨ normalize token ∈ methods := by
  simp [accepts]

end HttpDispatch.Method
