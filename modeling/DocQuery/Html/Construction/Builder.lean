import DocQuery.Html.Construction.Names
import DocQuery.Html.Dom
import DocQuery.Html.Token
/-! The state of tree construction and its elementary steps: opening and closing elements, looking
through the stack of open elements, and putting nodes and text in their place.  Inside a table,
content that does not belong there is put before the table. -/

namespace DocQuery.Html.Construction

/-- The part of the document that tree construction is in. -/
inductive Mode where
  | initial
  | beforeHtml
  | beforeHead
  | inHead
  | afterHead
  | inBody
  | text
  | inTable
  | inTableText
  | inCaption
  | inColumnGroup
  | inTableBody
  | inRow
  | inCell
  | inSelect
  | inSelectInTable
  | inTemplate
  | afterBody
  | inFrameset
  | afterFrameset
  | afterAfterBody
  | afterAfterFrameset
  deriving DecidableEq, Repr, Inhabited

/-- An open element. -/
structure OpenElement where
  id : Nat
  space : Space
  name : String
  deriving DecidableEq, Repr, Inhabited

/-- Whether an open element is the HTML element of a name. -/
def OpenElement.is (e : OpenElement) (name : String) : Bool :=
  e.space = .html && e.name == name

/-- Whether an open element is an HTML element of one of the names. -/
def OpenElement.isIn (e : OpenElement) (names : List String) : Bool :=
  e.space = .html && names.contains e.name

/-- A formatting element that may have to be opened again, or a border between such elements. -/
inductive Formatting where
  | marker
  | element (id : Nat) (tag : Tag)
  deriving DecidableEq, Repr, Inhabited

/-- State of tree construction.  The stack of open elements and the list of formatting elements have
their latest entry first. -/
structure Builder where
  dom : Dom := .empty
  mode : Mode := .initial
  originalMode : Mode := .initial
  templateModes : List Mode := []
  stack : List OpenElement := []
  formatting : List Formatting := []
  head : Option Nat := none
  form : Option Nat := none
  framesetOk : Bool := true
  quirks : Bool := false
  foster : Bool := false
  /-- Whether a line feed that comes next is dropped. -/
  skipNewline : Bool := false
  /-- Whether a byte order mark that comes next is dropped. -/
  skipMark : Bool := false
  /-- Text of a table that has not found its place yet, in reverse. -/
  tableText : List Char := []
  /-- The kind of content that comes next. -/
  content : Content := .data
  /-- Name of the last start tag. -/
  lastTag : String := ""

/-- Steps of tree construction. -/
abbrev Build : Type → Type := StateM Builder

/-- What is to be done with a token after a step. -/
inductive Next where
  | done
  /-- The token is to be processed again in the mode that is now current. -/
  | again
  deriving DecidableEq, Repr, Inhabited

/-- Goes to a mode. -/
def setMode (mode : Mode) : Build Unit := modify fun b => { b with mode }

/-- Processes the token again in a mode. -/
def again (mode : Mode) : Build Next := do
  setMode mode
  return .again

/-- The token is dealt with. -/
def done : Build Next := return .done

/-- No frameset may follow. -/
def framesetNotOk : Build Unit := modify fun b => { b with framesetOk := false }

/-! ### The stack of open elements -/

/-- The innermost open element. -/
def current? : Build (Option OpenElement) := return (← get).stack.head?

/-- Whether the innermost open element is the HTML element of a name. -/
def currentIs (name : String) : Build Bool := return (← get).stack.head?.any (·.is name)

/-- Whether the innermost open element is an HTML element of one of the names. -/
def currentIn (names : List String) : Build Bool := return (← get).stack.head?.any (·.isIn names)

/-- Whether an HTML element of the name is open. -/
def isOpen (name : String) : Build Bool := return (← get).stack.any (·.is name)

/-- Opens an element. -/
def push (e : OpenElement) : Build Unit := modify fun b => { b with stack := e :: b.stack }

/-- Closes the innermost element. -/
def pop : Build Unit := modify fun b => { b with stack := b.stack.tail }

/-- Closes elements as long as they satisfy `p`. -/
def popWhile (p : OpenElement → Bool) : Build Unit :=
  modify fun b => { b with stack := b.stack.dropWhile p }

/-- Closes elements up to one that satisfies `p`, and that one. -/
def popThrough (p : OpenElement → Bool) : Build Unit :=
  modify fun b => { b with stack := (b.stack.dropWhile (!p ·)).tail }

/-- Closes elements up to one of a name. -/
def popNamed (name : String) : Build Unit := popThrough (·.is name)

/-- Whether an element that satisfies `p` is open and the search for it does not end before. -/
def findInScope (scope : Scope) (p : OpenElement → Bool) : List OpenElement → Bool
  | [] => false
  | e :: rest => p e || (!scope.ends e.space e.name && findInScope scope p rest)

/-- Whether an open element in scope satisfies `p`. -/
def inScope (scope : Scope) (p : OpenElement → Bool) : Build Bool :=
  return findInScope scope p (← get).stack

/-- Whether an HTML element of a name is in scope. -/
def inScopeNamed (scope : Scope) (name : String) : Build Bool := inScope scope (·.is name)

/-- Closes elements whose end tag may be left out, except those of a name. -/
def impliedEndExcept (name : String) : Build Unit :=
  popWhile fun e => e.isIn impliedEnd && !e.is name

/-- Closes elements whose end tag may be left out. -/
def impliedEndTags : Build Unit := popWhile (·.isIn impliedEnd)

/-- Closes an open paragraph. -/
def closeParagraph : Build Unit := do
  impliedEndExcept "p"
  popNamed "p"

/-- Closes a paragraph that the next element cannot stand in. -/
def closeParagraphInScope : Build Unit := do
  if ← inScopeNamed .button "p" then closeParagraph

/-! ### Placing nodes -/

/-- Where a node is put in. -/
inductive Place where
  | inside (parent : Nat)
  | before (sibling : Nat)

/-- Node that holds the content of an element: for a template, its fragment. -/
def contentNode (dom : Dom) (e : OpenElement) : Nat :=
  if e.is "template" then (dom.children e.id)[0]?.getD e.id else e.id

/-- The place before the innermost table, or in the innermost template if that is nearer. -/
def fosterPlace (dom : Dom) (stack : List OpenElement) : Place :=
  match stack with
  | [] => .inside Dom.root
  | [html] => .inside html.id
  | e :: outer :: rest =>
    if e.is "template" then .inside (contentNode dom e)
    else if e.is "table" then
      if (dom.parent e.id).isSome then .before e.id else .inside outer.id
    else fosterPlace dom (outer :: rest)

/-- The place for a node that is to stand in an element. -/
def placeIn (b : Builder) (target : OpenElement) : Place :=
  if b.foster && target.isIn tableOuter then fosterPlace b.dom b.stack
  else .inside (contentNode b.dom target)

/-- The place for a node that comes next. -/
def currentPlace (b : Builder) : Place :=
  match b.stack with
  | [] => .inside Dom.root
  | e :: _ => placeIn b e

/-- Puts a node in its place. -/
def placeNode (dom : Dom) (place : Place) (id : Nat) : Dom :=
  match place with
  | .inside parent => dom.append parent id
  | .before sibling => dom.insertBefore sibling id

/-- Puts a character in its place. -/
def insertChar (c : Char) : Build Next := do
  modify fun b =>
    match currentPlace b with
    | .inside parent => { b with dom := b.dom.appendChar parent c }
    | .before sibling => { b with dom := b.dom.insertCharBefore sibling c }
  return .done

/-- Puts a comment in its place. -/
def insertComment (text : String) : Build Next := do
  modify fun b =>
    let place := currentPlace b
    let (dom, id) := b.dom.add (.comment text)
    { b with dom := placeNode dom place id }
  return .done

/-- Puts a comment behind the content of a node. -/
def appendComment (parent : Nat) (text : String) : Build Next := do
  modify fun b =>
    let (dom, id) := b.dom.add (.comment text)
    { b with dom := dom.append parent id }
  return .done

/-- Adds an element outside the tree; a template comes with its fragment. -/
def addElement (dom : Dom) (element : Element) : Dom × Nat :=
  let (dom, id) := dom.add (.element element)
  if element.space = .html && element.name == "template" then
    let (dom, content) := dom.add .fragment
    (dom.append id content, id)
  else (dom, id)

/-- Attributes without namespace. -/
def plainAttributes (attributes : List (String × String)) : List Attribute :=
  attributes.map fun (name, value) => { name, value }

/-- The HTML element of a tag. -/
def elementOf (tag : Tag) : Element :=
  { name := tag.name, attributes := plainAttributes tag.attributes }

/-- Puts an element in its place, without opening it. -/
def insertElement (element : Element) : Build Nat := do
  let b ← get
  let place := currentPlace b
  let (dom, id) := addElement b.dom element
  set { b with dom := placeNode dom place id }
  return id

/-- Puts an element in its place and opens it. -/
def openElement (element : Element) : Build Nat := do
  let id ← insertElement element
  push { id, space := element.space, name := element.name }
  return id

/-- Puts the HTML element of a tag in its place and opens it. -/
def openTag (tag : Tag) : Build Unit := do
  let _ ← openElement (elementOf tag)

/-- Puts the HTML element of a tag in its place, without opening it. -/
def insertTag (tag : Tag) : Build Unit := do
  let _ ← insertElement (elementOf tag)

/-- Puts an HTML element without attributes in its place and opens it. -/
def openNamed (name : String) : Build Nat := openElement { name }

/-- Opens an element whose content is not markup. -/
def openText (tag : Tag) (content : Content) : Build Next := do
  openTag tag
  modify fun b => { b with content, originalMode := b.mode, mode := .text }
  return .done

/-- Adds to an element those attributes that it does not have. -/
def addMissingAttributes (id : Nat) (attributes : List (String × String)) : Build Unit :=
  modify fun b =>
    { b with dom := b.dom.update id fun n =>
        match n.data with
        | .element e =>
          let missing := attributes.filter fun a => (e.attribute? a.1).isNone
          let attributes := e.attributes ++ plainAttributes missing
          { n with data := .element { e with attributes } }
        | _ => n }

/-! ### Modes -/

/-- The mode inside a `select` element, given the open elements around it. -/
def selectMode (outer : List OpenElement) : Mode :=
  match outer.find? (·.isIn ["template", "table"]) with
  | some e => if e.name == "table" then .inSelectInTable else .inSelect
  | none => .inSelect

/-- The mode for the elements that are open, outermost last. -/
def modeFor (b : Builder) : List OpenElement → Mode
  | [] => .inBody
  | e :: outer =>
    let last := outer.isEmpty
    if e.space ≠ .html then if last then .inBody else modeFor b outer
    else match e.name with
      | "select" => selectMode outer
      | "td" | "th" => if last then .inBody else .inCell
      | "tr" => .inRow
      | "tbody" | "thead" | "tfoot" => .inTableBody
      | "caption" => .inCaption
      | "colgroup" => .inColumnGroup
      | "table" => .inTable
      | "template" => b.templateModes.headD .inTemplate
      | "head" => if last then .inBody else .inHead
      | "body" => .inBody
      | "frameset" => .inFrameset
      | "html" => if b.head.isNone then .beforeHead else .afterHead
      | _ => if last then .inBody else modeFor b outer

/-- Goes to the mode for the elements that are open. -/
def resetMode : Build Unit := modify fun b => { b with mode := modeFor b b.stack }

/-- Takes formatting elements off the list up to a border. -/
def clearFormatting : Build Unit :=
  modify fun b => { b with formatting := (b.formatting.dropWhile (· ≠ .marker)).tail }

/-- Adds a border to the list of formatting elements. -/
def addMarker : Build Unit := modify fun b => { b with formatting := .marker :: b.formatting }

end DocQuery.Html.Construction
