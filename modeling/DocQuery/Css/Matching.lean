import DocQuery.Css.Reader
import DocQuery.Html.Document
import DocQuery.Text.Search
/-! Which elements of a document meet a selector.  A search looks at the elements below a start in
document order and leaves the start itself out. -/

namespace DocQuery.Html.Document

variable (d : Document)

/-- Whether a node is an element. -/
def isElement (id : d.Id) : Bool := (d.element? id).isSome

/-- The element around a node. -/
def parentElement? (id : d.Id) : Option { q : d.Id // q < id } :=
  (d.parent id).filter fun q => d.isElement q

/-- The elements around a node, innermost first. -/
def ancestorElements (id : d.Id) : List d.Id :=
  match d.parentElement? id with
  | none => []
  | some q => q.val :: ancestorElements q.val
termination_by id.val
decreasing_by exact q.property

/-- The node and its siblings. -/
def siblings (id : d.Id) : List d.Id :=
  match d.parent id with
  | none => [id]
  | some q => d.childIds q.val

/-- The sibling elements before a node, nearest first. -/
def earlierElements (id : d.Id) : List d.Id :=
  ((d.siblings id).takeWhile (· ≠ id)).reverse.filter d.isElement

/-- The sibling elements after a node, nearest first. -/
def laterElements (id : d.Id) : List d.Id :=
  ((d.siblings id).dropWhile (· ≠ id)).tail.filter d.isElement

end DocQuery.Html.Document

namespace DocQuery.Css

open Html

/-- Texts compared with or without regard to the case of letters of ASCII. -/
def fold (ignoreCase : Bool) (s : String) : List Char :=
  if ignoreCase then s.toList.map Char.toLower else s.toList

/-- The words of a text, between its blanks. -/
def words (cs : List Char) : List (List Char) :=
  cs.splitOnP Token.isBlankChar

/-- The name by which an element knows what a selector names. -/
def nameIn (e : Element) (written : String) : String :=
  if e.space == .html then written.toLower else written

/-- Whether the case of letters is ignored at an element. -/
def CaseRule.ignoresCase (r : CaseRule) (e : Element) : Bool :=
  match r with
  | .exact => false
  | .ignored => true
  | .ignoredInHtml => e.space == .html

/-- Whether a value compares as an operator asks.  Nothing contains, starts or ends with a value
that is empty. -/
def AttributeValue.accepts (a : AttributeValue) (ignoreCase : Bool) (value : String) : Bool :=
  let wanted := fold ignoreCase a.value
  let found := fold ignoreCase value
  match a.operator with
  | .equal => found == wanted
  | .includes => !wanted.isEmpty && (words found).contains wanted
  | .dashMatch => found == wanted || (wanted ++ ['-']).isPrefixOf found
  | .startsWith => !wanted.isEmpty && wanted.isPrefixOf found
  | .endsWith => !wanted.isEmpty && wanted.isSuffixOf found
  | .substring => !wanted.isEmpty && Text.occursIn wanted found

/-- Whether an element has an attribute as the test asks. -/
def AttributeTest.accepts (t : AttributeTest) (e : Element) : Bool :=
  e.attributes.any fun a =>
    (t.anySpace || a.space == .none) && a.name == nameIn e t.name &&
      t.value.all fun v => v.accepts (v.caseRule.ignoresCase e) a.value

/-- Whether an element has a class. -/
def hasClass (name : String) (e : Element) : Bool :=
  e.attributes.any fun a => a.name == "class" && (words a.value.toList).contains name.toList

/-- Whether an element has an identifier; the first attribute that could be one counts. -/
def hasId (id : String) (e : Element) : Bool :=
  (e.attributes.find? fun a => a.name == "id").any (·.value == id)

variable (d : Document)

/-- Whether an element stands at one of the positions. -/
def Positions.accepts (p : Positions) (id : d.Id) : Bool :=
  let others := if p.fromEnd then d.laterElements id else d.earlierElements id
  let alike (other : d.Id) : Bool :=
    match d.element? other, d.element? id with
    | some a, some b => a.space == b.space && a.name == b.name
    | _, _ => false
  let counted := if p.ofType then others.filter alike else others
  p.contains (counted.length + 1)

/-- Whether a node has neither elements nor text in it. -/
def isEmptyNode (id : d.Id) : Bool :=
  (d.childIds id).all fun c =>
    match d.label c with
    | .element _ | .text _ => false
    | _ => true

/-- The elements from which those on the right of a combinator are reached. -/
def Combinator.origins (c : Combinator) (id : d.Id) : List d.Id :=
  match c with
  | .descendant => d.ancestorElements id
  | .child => ((d.parentElement? id).map Subtype.val).toList
  | .nextSibling => (d.earlierElements id).head?.toList
  | .laterSibling => d.earlierElements id

/-- The elements below and behind an element, to which a relative selector may lead. -/
def relatives (id : d.Id) : List d.Id :=
  (d.descendants id ++ (d.laterElements id).flatMap d.subtree).filter d.isElement

/-- What a search knows beside the element that it looks at. -/
structure Search where
  /-- The element from which the search started. -/
  scope : Option d.Id
  /-- The element whose relatives are asked for. -/
  anchor : Option d.Id

mutual

/-- Whether an element meets a test. -/
def Simple.accepts (s : Search d) (test : Simple) (id : d.Id) : Bool :=
  match test with
  | .universal => true
  | .noSpace | .host => false
  | .name name => (d.element? id).any fun e => e.name == nameIn e name
  | .id value => (d.element? id).any (hasId value)
  | .class name => (d.element? id).any (hasClass name)
  | .attribute test => (d.element? id).any test.accepts
  | .position positions => positions.accepts d id
  | .root => (d.parent id).any fun q => q.val == d.rootId
  | .empty => isEmptyNode d id
  | .scope => s.scope == some id
  | .anchor => s.anchor == some id
  | .is alternatives => anyAccepts s alternatives id
  | .not alternatives => !anyAccepts s alternatives id
  | .has selectors =>
    (relatives d id).any fun other => anyAccepts { s with anchor := some id } selectors other

/-- Whether an element meets all tests. -/
def allAccept (s : Search d) (tests : List Simple) (id : d.Id) : Bool :=
  match tests with
  | [] => true
  | test :: rest => test.accepts s id && allAccept s rest id

/-- Whether an element meets a selector. -/
def Selector.accepts (s : Search d) (selector : Selector) (id : d.Id) : Bool :=
  match selector with
  | .simple tests => allAccept s tests id
  | .combined left combinator tests =>
    allAccept s tests id &&
      (combinator.origins d id).any fun origin => left.accepts s origin

/-- Whether an element meets one of the selectors. -/
def anyAccepts (s : Search d) (selectors : List Selector) (id : d.Id) : Bool :=
  match selectors with
  | [] => false
  | selector :: rest => selector.accepts s id || anyAccepts s rest id

end

/-- Elements below a start that meet one of the selectors, in document order. -/
def select (selectors : List Selector) (start : d.Id) : List d.Id :=
  (d.descendants start).filter fun id =>
    d.isElement id && anyAccepts d { scope := some start, anchor := none } selectors id

/-- Elements below the starts that meet one of the selectors.  An element below two starts is kept
where it is found first. -/
def selectAll (selectors : List Selector) (starts : List d.Id) : List d.Id :=
  (starts.flatMap (select d selectors)).eraseDups

end DocQuery.Css
