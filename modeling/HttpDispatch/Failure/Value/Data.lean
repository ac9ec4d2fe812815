import HttpDispatch.Failure.Value

/-!
# Values as data

Data that is read from JSON are dynamic values, and of a dynamic value a part can be written in
JSON.  Conversions and tags of an object are no data, a number that is not finite is null, and of
an error only the members are left that are listed with it: its message is not among them.
-/

namespace HttpDispatch.Value

mutual

/-- The value of data.  An object with a member in the place of its conversion has none. -/
def ofData : Json → Value
  | .null => .null
  | .bool b => .bool b
  | .num x => .number x
  | .str s => .text s
  | .arr items => .array (ofItems items)
  | .obj members => if (Json.member? "toString" members).isSome then .bare none else .object none

/-- The values of a list of data. -/
def ofItems : List Json → List Value
  | [] => []
  | v :: rest => ofData v :: ofItems rest

end

/-- The members of an error of this library, but for its cause. -/
def reportMembers (r : Report) : List (String × Json) :=
  [("code", .str r.code.name), ("httpStatus", .nat r.status)] ++
    Json.optional "details" r.details ++ Json.optionalText "suggestion" r.suggestion ++
    Json.optionalText "traceId" r.traceId ++ [("name", .str Report.errorName)]

mutual

/-- The data of a value, if it has any. -/
def data? : Value → Option Json
  | undefined | symbol _ | bigint _ => none
  | null => some .null
  | bool b => some (.bool b)
  | text s => some (.str s)
  | number x => some (if x.isFinite then .num x else .null)
  | array items => some (.arr (itemData items))
  | object _ | bare _ | selfConverting .. | platformError _ => some (.obj [])
  | inert => some (.obj [("then", .nat 1)])
  | error ownName _ _ => some (.obj (Json.optionalText "name" ownName))
  | fault r cause => some (.obj (reportMembers r ++ Json.optional "cause" (data? cause)))

/-- The data of the items of a list; an item without data is null. -/
def itemData : List Value → List Json
  | [] => []
  | v :: rest => ((data? v).getD .null) :: itemData rest

end

end HttpDispatch.Value
