import DocQuery.Expression.Field
import DocQuery.Json.Basic
import DocQuery.Number.Literal
import DocQuery.Text.Blank
import DocQuery.Text.Quoted
/-! Typed values.  Evaluation starts a field's value empty, by the field's type, and fills it with
`setScalar`, `insert` and `push`.  Each of them checks the value's own type and leaves the value as
it is when it fails.  `project` turns a finished value into JSON without the virtual fields. -/

namespace DocQuery

/-- A value with the type of the field that produced it.  Fields of an object stand in the order
of their first insertion. -/
inductive Value where
  | text (s : String)
  | number (x : Binary64)
  | object (fields : List (String × Value))
  | array (items : List Value)
  | objects (items : List (List (String × Value)))
  deriving Repr, Inhabited

/-- Why a value cannot be changed. -/
inductive ValueError where
  | wrongType (operation found : String)
  | overflow (index length : Nat)
  | number (text : String) (cause : LiteralError)
  deriving DecidableEq, Repr

/-- Wording of the error. -/
def ValueError.message : ValueError → String
  | wrongType operation found => s!"call the {operation} method on {found} value"
  | overflow index length => s!"graph data push overflow: index {index} past length {length}"
  | number text cause => s!"invalid number {Text.quoted text}: {cause.message}"

namespace Value

/-- The value of a type with nothing in it. -/
def empty : FieldType → Value
  | .text => text ""
  | .number => number (.zero false)
  | .object => object []
  | .array => array []
  | .objects => objects []

/-- Type of a value. -/
def type : Value → FieldType
  | text _ => .text
  | number _ => .number
  | object _ => .object
  | array _ => .array
  | objects _ => .objects

/-- Name of the type. -/
def typeName (value : Value) : String := value.type.name

/-- Fields with one more; a field of the same name keeps its place and takes the new value. -/
def insertField (key : String) (value : α) : List (String × α) → List (String × α)
  | [] => [(key, value)]
  | (k, v) :: rest => if k = key then (k, value) :: rest else (k, v) :: insertField key value rest

/-- Fields of an object that are written one after the other. -/
def ofFields (fields : List (String × α)) : List (String × α) :=
  fields.foldl (fun all f => insertField f.1 f.2 all) []

/-- Sets a scalar from text.  A number is read from the text without its outer blanks. -/
def setScalar (value : Value) (s : String) : Except ValueError Value :=
  match value with
  | text _ => .ok (text s)
  | number _ =>
    match Binary64.ofText (Text.trim s) with
    | .ok x => .ok (number x)
    | .error cause => .error (.number s cause)
  | value => .error (.wrongType "set" value.typeName)

/-- Writes a field of an object. -/
def insert (value : Value) (key : String) (item : Value) : Except ValueError Value :=
  match value with
  | object fields => .ok (object (insertField key item fields))
  | value => .error (.wrongType "insert" value.typeName)

/-- Adds the value of a child for the element at `index`.  An array appends it.  Among objects it is
written into the object at `index`, which may be the next new one. -/
def push (value : Value) (index : Nat) (key : String) (item : Value) :
    Except ValueError Value :=
  match value with
  | array items => .ok (array (items ++ [item]))
  | objects items =>
    if items.length < index then .error (.overflow index items.length)
    else if items.length = index then .ok (objects (items ++ [[(key, item)]]))
    else .ok (objects (items.modify index (insertField key item)))
  | value => .error (.wrongType "push" value.typeName)

/-- JSON for a number: an integer where the number is whole and below `2 ^ 53`, and null where it is
not finite. -/
def projectNumber (x : Binary64) : Json :=
  match x.toInt? with
  | some n => if n.natAbs < 0x20000000000000 then .number (.integer n) else .number (.float x)
  | none => if x.isFinite then .number (.float x) else .null

mutual

/-- JSON for a value. -/
def project : Value → Json
  | text s => .string s
  | number x => projectNumber x
  | object fields => .ofMembers (projectFields fields)
  | array items => .array (projectItems items)
  | objects items => .array (projectObjects items)

/-- JSON for the fields that are not virtual. -/
def projectFields : List (String × Value) → List (String × Json)
  | [] => []
  | (name, value) :: rest =>
    if isVirtualName name then projectFields rest
    else (name, project value) :: projectFields rest

/-- JSON for the items of an array. -/
def projectItems : List Value → List Json
  | [] => []
  | value :: rest => project value :: projectItems rest

/-- JSON for the objects of a list. -/
def projectObjects : List (List (String × Value)) → List Json
  | [] => []
  | fields :: rest => .ofMembers (projectFields fields) :: projectObjects rest

end

/-- JSON for the top-level fields of an expression.  One without a block gives the value of its
first field that is not virtual. -/
def projectTop (shape : Shape) (fields : List (String × Value)) : Json :=
  match shape with
  | .object => .ofMembers (projectFields fields)
  | .atom =>
    match fields.find? fun f => !isVirtualName f.1 with
    | some (_, value) => project value
    | none => .null

end Value

end DocQuery
