import DocQuery.Tree.Forest
/-! What an expression declares.  An expression is a forest of fields; a field has a name, a type
that follows from its brackets, and the pipeline of operation calls that leads from its parent's
selection to its own. -/

namespace DocQuery

/-- Type of the value that a field produces. -/
inductive FieldType where
  /-- Text; a field without children. -/
  | text
  /-- A number read from text.  No expression declares one. -/
  | number
  /-- `name { … }` -/
  | object
  /-- `name [ … ]`: one flat list, a value per child per element. -/
  | array
  /-- `name [{ … }]`: an object per element. -/
  | objects
  deriving DecidableEq, Repr, Inhabited

namespace FieldType

/-- Types without children. -/
def isScalar : FieldType → Bool
  | text | number => true
  | object | array | objects => false

/-- Name of a type in messages. -/
def name : FieldType → String
  | text => "string"
  | number => "number"
  | object => "object"
  | array => "array"
  | objects => "object array"

end FieldType

/-- An operation with its arguments, references in them not yet resolved. -/
structure Call where
  name : String
  args : List String
  deriving DecidableEq, Repr, Inhabited

/-- A declared field. -/
structure Field where
  name : String
  type : FieldType
  pipeline : List Call
  deriving DecidableEq, Repr, Inhabited

/-- Whether a name is wrapped in double underscores.  Fields of such a name are evaluated and can be
referred to, but do not appear in the output. -/
def isVirtualName (name : String) : Bool :=
  4 ≤ name.utf8ByteSize && "__".toList.isPrefixOf name.toList &&
    "__".toList.isPrefixOf name.toList.reverse

/-- Whether a field is left out of the output. -/
def Field.isVirtual (field : Field) : Bool := isVirtualName field.name

/-- Shape of a whole expression: a block of fields, or one field by itself. -/
inductive Shape where
  | object
  | atom
  deriving DecidableEq, Repr, Inhabited

end DocQuery
