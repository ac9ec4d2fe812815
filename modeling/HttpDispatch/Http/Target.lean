import HttpDispatch.Http.Params
import HttpDispatch.Text.Percent
import HttpDispatch.Text.Split

/-!
# Request targets

The target of a request is a path and, after the first question mark, a query.  The path is kept
as it arrived; the query is a form: pairs joined by ampersands, each split at its first equals
sign.  A form that itself begins with a question mark loses it.
-/

namespace HttpDispatch

/-- The pairs of a form, in order. -/
def formPairs (form : List Char) : List (String × String) :=
  let body := match form with
    | '?' :: rest => rest
    | _ => form
  (Text.piecesBetween '&' body).map fun piece =>
    let (key, value) := Text.splitFirst '=' piece
    (Percent.decodeForm key, Percent.decodeForm value)

/-- A request target in its two parts. -/
structure Target where
  path : String
  query : Params

namespace Target

/-- Splits a target at its first question mark. -/
def ofString (uri : String) : Target :=
  let (path, form) := Text.splitFirst '?' uri.toList
  { path := String.ofList path, query := Params.ofList (formPairs form) }

end Target

end HttpDispatch
