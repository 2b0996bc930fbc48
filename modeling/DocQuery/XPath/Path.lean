/-! Location paths: a list of steps, each from a node along an axis to the nodes that pass a test
and then, one after the other, the conditions. -/

namespace DocQuery.XPath

/-- The direction of a step. -/
inductive Axis where
  | child
  | descendant
  | descendantOrSelf
  | self
  | parent
  | attribute
  deriving DecidableEq, Repr, Inhabited

/-- What a step asks of a node. -/
inductive NodeTest where
  /-- An element, or on the attribute axis an attribute, of this name in any case. -/
  | name (name : String)
  /-- Any element, or on the attribute axis any attribute. -/
  | wildcard
  | text
  | comment
  | node
  deriving DecidableEq, Repr, Inhabited

/-- A condition on the nodes that a step leads to from one node. -/
inductive Condition where
  /-- Keeps one node by its place; the first is `1`. -/
  | position (n : Nat)
  | last
  | hasAttribute (name : String)
  | attributeEquals (name value : String)
  deriving DecidableEq, Repr, Inhabited

/-- A step. -/
structure Step where
  axis : Axis
  test : NodeTest
  conditions : List Condition := []
  deriving DecidableEq, Repr, Inhabited

/-- A location path.  An absolute path starts at the document. -/
structure Path where
  isAbsolute : Bool
  steps : List Step
  deriving DecidableEq, Repr, Inhabited

namespace Axis

/-- The axis of a name. -/
def ofName? : String → Option Axis
  | "child" => some .child
  | "descendant" => some .descendant
  | "descendant-or-self" => some .descendantOrSelf
  | "self" => some .self
  | "parent" => some .parent
  | "attribute" => some .attribute
  | _ => none

end Axis

namespace NodeTest

/-- The test that a name with parentheses stands for. -/
def ofFunction? : String → Option NodeTest
  | "text" => some .text
  | "node" => some .node
  | "comment" => some .comment
  | _ => none

end NodeTest

/-- The step that a double slash stands for. -/
def Step.anywhere : Step := { axis := .descendantOrSelf, test := .node }

end DocQuery.XPath
