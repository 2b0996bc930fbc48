/-! Nodes of an HTML document. -/

namespace DocQuery.Html

/-- Namespace of an element. -/
inductive Space where
  | html
  | svg
  | mathml
  deriving DecidableEq, Repr, Inhabited

/-- Namespace of an attribute. -/
inductive AttributeSpace where
  | none
  | xlink
  | xml
  | xmlns
  deriving DecidableEq, Repr, Inhabited

/-- An attribute with its local name. -/
structure Attribute where
  space : AttributeSpace := .none
  name : String
  value : String
  deriving DecidableEq, Repr, Inhabited

/-- An element without its children.  Attributes stand in the order of the source. -/
structure Element where
  space : Space := .html
  name : String
  attributes : List Attribute := []
  deriving DecidableEq, Repr, Inhabited

/-- Value of the attribute of a name, of those without namespace. -/
def Element.attribute? (element : Element) (name : String) : Option String :=
  (element.attributes.find? fun a => a.space = .none ∧ a.name = name).map Attribute.value

/-- A node without its children. -/
inductive Node where
  | document
  | doctype (name : String)
  /-- Contents of a template. -/
  | fragment
  | element (element : Element)
  | text (text : String)
  | comment (text : String)
  deriving DecidableEq, Repr, Inhabited

/-- The element that a node is. -/
def Node.element? : Node → Option Element
  | .element e => some e
  | _ => none

end DocQuery.Html
