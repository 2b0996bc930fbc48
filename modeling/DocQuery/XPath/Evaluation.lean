import DocQuery.Html.Document
import DocQuery.XPath.Reader
/-! What a path leads to.  A point is a node of a document or an attribute of one of its elements.
A step is taken from every point in turn: the candidates of one point are those that its axis and
test give, in document order, and each condition narrows them; a point found twice is kept where it
was found first. -/

namespace DocQuery.XPath

open Html

/-- A node or an attribute. -/
inductive Point (d : Document) where
  | node (id : d.Id)
  | attribute (owner : d.Id) (name : String)
  deriving DecidableEq

variable {d : Document}

/-- Whether a test written for names accepts a name; the case of letters does not count. -/
def sameName (wanted name : String) : Bool := wanted.toLower == name.toLower

/-- Whether a node passes a test. -/
def NodeTest.accepts (test : NodeTest) (label : Node) : Bool :=
  match test, label with
  | .node, _ => true
  | .wildcard, .element _ => true
  | .name wanted, .element e => sameName wanted e.name
  | .text, .text _ => true
  | .comment, .comment _ => true
  | _, _ => false

/-- Whether an attribute passes a test on its own axis. -/
def NodeTest.acceptsAttribute (test : NodeTest) (name : String) : Bool :=
  match test with
  | .name wanted => sameName wanted name
  | .wildcard | .node => true
  | .text | .comment => false

/-- Attributes of a node in the order of the source. -/
def attributesOf (d : Document) (id : d.Id) : List (Point d) :=
  match d.element? id with
  | none => []
  | some e => e.attributes.map fun a => .attribute id a.name

/-- The points along an axis that pass a test. -/
def Step.reach (step : Step) : Point d → List (Point d)
  | .attribute owner name =>
    match step.axis, step.test with
    | .parent, test => if test.accepts (d.label owner) then [.node owner] else []
    | .self, .node => [.attribute owner name]
    | _, _ => []
  | .node id =>
    let nodes (ids : List d.Id) : List (Point d) :=
      (ids.filter fun i => step.test.accepts (d.label i)).map .node
    match step.axis with
    | .child => nodes (d.childIds id)
    | .descendant => nodes (d.descendants id)
    | .descendantOrSelf => nodes (d.subtree id)
    | .self => nodes [id]
    | .parent => nodes ((d.parent id).map Subtype.val).toList
    | .attribute =>
      (attributesOf d id).filter fun
        | .attribute _ name => step.test.acceptsAttribute name
        | .node _ => false

/-- Value of an attribute of a point; an attribute has none. -/
def Point.attribute? (p : Point d) (name : String) : Option String :=
  match p with
  | .node id => (d.element? id).bind (·.attribute? name)
  | .attribute _ _ => none

/-- The candidates that a condition keeps. -/
def Condition.keep (condition : Condition) (candidates : List (Point d)) : List (Point d) :=
  match condition with
  | .position 0 => []
  | .position (n + 1) => candidates[n]?.toList
  | .last => candidates.getLast?.toList
  | .hasAttribute name => candidates.filter fun p => (p.attribute? name).isSome
  | .attributeEquals name value => candidates.filter fun p => p.attribute? name == some value

/-- What a step leads to from one point. -/
def Step.fromPoint (step : Step) (p : Point d) : List (Point d) :=
  step.conditions.foldl (fun candidates condition => condition.keep candidates) (step.reach p)

/-- What a step leads to from all of the points. -/
def Step.apply (step : Step) (points : List (Point d)) : List (Point d) :=
  (points.flatMap step.fromPoint).eraseDups

/-- What a path leads to from the points. -/
def Path.select (path : Path) (points : List (Point d)) : List (Point d) :=
  let start := if path.isAbsolute then [.node d.rootId] else points
  path.steps.foldl (fun points step => step.apply points) start

/-- Text of an attribute. -/
def attributeText (owner : d.Id) (name : String) : String :=
  ((Point.node owner).attribute? name).getD ""

/-- Text content of a point. -/
def Point.text : Point d → String
  | .node id => d.textContent id
  | .attribute owner name => attributeText owner name

/-- Markup of a point; of an attribute its text. -/
def Point.markup : Point d → String
  | .node id => d.outerMarkup id
  | .attribute owner name => attributeText owner name

end DocQuery.XPath
