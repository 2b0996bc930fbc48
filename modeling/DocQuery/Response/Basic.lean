import DocQuery.Json.Writer
import DocQuery.Text.Quoted
/-! Responses.  A response carries the data of a run, as far as it could be built, and every error
that was recorded on the way.  Its data can be decoded into texts, lists and maps. -/

namespace DocQuery

/-- Data and errors of a run. -/
structure Response where
  data : Json := .null
  errors : List String := []
  deriving Repr, Inhabited

/-- Why the data of a response cannot be used. -/
inductive ResponseError where
  /-- There is no data to use in the way that is named. -/
  | nullData (use : String)
  /-- The data, or the text of a response, is not of the form asked for. -/
  | form (message : String)
  deriving DecidableEq, Repr

/-- Wording of the error. -/
def ResponseError.message : ResponseError → String
  | nullData use => s!"can not {use} null data"
  | form message => message

namespace Response

/-- A response with an error and no data. -/
def failed (message : String) : Response := { errors := [message] }

/-- Whether no error was recorded. -/
def isOk (response : Response) : Bool := response.errors.isEmpty

/-- The response as JSON. -/
def toJson (response : Response) : Json :=
  .object [("data", response.data), ("errors", .array (response.errors.map .string))]

/-- The data as a JSON text. -/
def marshal (response : Response) : Except ResponseError String :=
  if response.data.isNull then .error (.nullData "marshal") else .ok response.data.compact

/-- What a value is, in a message about its form. -/
def describe : Json → String
  | .null => "null"
  | .bool value => s!"boolean `{value}`"
  | .number (.integer n) => s!"integer `{n}`"
  | .number (.float x) => "floating point `" ++ String.ofList (Json.Number.write (.float x)) ++ "`"
  | .string s => s!"string {Text.quoted s}"
  | .array _ => "sequence"
  | .object _ => "map"

/-- A reader of values of one form. -/
abbrev Decoder (α : Type) : Type := Json → Except ResponseError α

/-- A value of another form than expected. -/
def invalidType (value : Json) (expected : String) : ResponseError :=
  .form s!"invalid type: {describe value}, expected {expected}"

/-- Reads a text. -/
def decodeString : Decoder String
  | .string s => .ok s
  | value => .error (invalidType value "a string")

/-- Reads a number without sign that fits 32 bits. -/
def decodeNumber : Decoder Nat
  | .number (.integer n) =>
    if 0 ≤ n ∧ n < 0x100000000 then .ok n.toNat
    else .error (.form s!"invalid value: {describe (.number (.integer n))}, expected u32")
  | value => .error (invalidType value "u32")

/-- Reads a list. -/
def decodeList (item : Decoder α) : Decoder (List α)
  | .array items => items.mapM item
  | value => .error (invalidType value "a sequence")

/-- Reads a map from keys. -/
def decodeMap (item : Decoder α) : Decoder (List (String × α))
  | .object members => members.mapM fun (k, v) => do return (k, ← item v)
  | value => .error (invalidType value "a map")

/-- Reads the data. -/
def decode (response : Response) (decoder : Decoder α) : Except ResponseError α :=
  if response.data.isNull then .error (.nullData "decode") else decoder response.data

end Response

end DocQuery
