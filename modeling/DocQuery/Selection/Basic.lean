import DocQuery.Css.Matching
import DocQuery.Json.Path
import DocQuery.Json.Reader
import DocQuery.Selection.Query
import DocQuery.Text.Blank
import DocQuery.XPath.Evaluation
/-! Selections.  A selection is what has been found in a document so far: a text, texts, a JSON
value, elements of an HTML document or points of one.  It can be narrowed by a selector of its own
kind, taken apart into its elements, and read as text; a selection of one kind becomes one of
another by reading its raw text anew. -/

namespace DocQuery

/-- Kinds of selections. -/
inductive SelectionKind where
  | css
  | xpath
  | json
  | regex
  | text
  deriving DecidableEq, Repr, Inhabited

namespace SelectionKind

/-- Name of a kind. -/
def name : SelectionKind → String
  | css => "CSS"
  | xpath => "XPATH"
  | json => "JSON"
  | regex => "REGEX"
  | text => "STRING"

/-- The kind of a name in any case. -/
def ofName? (name : String) : Except String SelectionKind :=
  match name.toUpper with
  | "CSS" => .ok .css
  | "XPATH" => .ok .xpath
  | "JSON" => .ok .json
  | "REGEX" => .ok .regex
  | "STRING" | "TEXT" => .ok .text
  | other => .error ("undefined selection type: " ++ other)

end SelectionKind

/-- Why nothing can be selected. -/
inductive SelectionError where
  | badExpression (kind : SelectionKind) (expression : String) (cause : ExpressionError)
  | badDocument (kind : SelectionKind) (message : String)
  | unsupported (kind : SelectionKind) (operation : String)
  | notFound (index size : Nat)
  | emptyAttribute
  deriving DecidableEq, Repr

/-- Wording of the error. -/
def SelectionError.message : SelectionError → String
  | badExpression kind expression cause =>
    s!"invalid {kind.name} expression {Text.quoted expression}: {cause.message expression}"
  | badDocument kind message => s!"unable to read document as {kind.name}: {message}"
  | unsupported kind operation => s!"the {kind.name} selector does not support {operation}"
  | notFound index size => s!"no element at index {index}, selection has {size}"
  | emptyAttribute => "attr requires a non-empty attribute name"

/-- What has been found. -/
inductive Selection where
  | text (content : String)
  | regex (texts : List String)
  /-- A value, or nothing where a path led nowhere. -/
  | json (value : Option Json)
  | css (document : Html.Document) (elements : List document.Id)
  | xpath (document : Html.Document) (points : List (XPath.Point document))

namespace Selection

/-- Kind of a selection. -/
def kind : Selection → SelectionKind
  | text _ => .text
  | regex _ => .regex
  | json _ => .json
  | css _ _ => .css
  | xpath _ _ => .xpath

/-- The elements of a document read as HTML: the outermost element. -/
def ofHtml (document : String) : Selection :=
  let d := Html.Document.ofText document
  .css d d.rootElement?.toList

/-- The whole of a document. -/
def ofDocument (kind : SelectionKind) (document : String) : Except SelectionError Selection :=
  match kind with
  | .css => .ok (ofHtml document)
  | .xpath =>
    let d := Html.Document.ofText document
    .ok (.xpath d [.node d.rootId])
  | .json =>
    let trimmed := Text.trim document
    match Json.ofText trimmed with
    | .ok value => .ok (.json (some value))
    | .error fault => .error (.badDocument .json (fault.message trimmed))
  | .regex => .ok (.regex [document])
  | .text => .ok (.text document)

/-- Narrows a selection.  An empty selector selects the same, and so does any selector in a text. -/
def find (s : Selection) (selector : String) : Except SelectionError Selection :=
  let fail (cause : ExpressionError) : Except SelectionError Selection :=
    .error (.badExpression s.kind selector cause)
  if selector.isEmpty then .ok s
  else
    match s with
    | text content => .ok (.text content)
    | regex texts =>
      match RegexQuery.ofText selector with
      | .ok query => .ok (.regex (texts.flatMap query.select))
      | .error e => fail e
    | json value => .ok (.json (value.bind (·.get? selector)))
    | css d elements =>
      match Css.readSelectors selector with
      | .ok selectors => .ok (.css d (Css.selectAll d selectors elements))
      | .error e => fail (.css e)
    | xpath d points =>
      match XPath.readPath selector with
      | .ok path => .ok (.xpath d (path.select points))
      | .error e => fail (.xpath e)

/-- The elements of a selection, each as a selection, in document order.  Those of a JSON array are
its items and those of an object its values; any other value is its own element. -/
def elements : Selection → List Selection
  | text content => [.text content]
  | regex texts => texts.map fun t => .regex [t]
  | json none => []
  | json (some (.array items)) => items.map fun v => .json (some v)
  | json (some (.object members)) => members.map fun m => .json (some m.2)
  | json (some value) => [.json (some value)]
  | css d elements => elements.map fun id => .css d [id]
  | xpath d points => points.map fun p => .xpath d [p]

/-- Number of elements. -/
def size : Selection → Nat
  | text _ => 1
  | regex texts => texts.length
  | json none => 0
  | json (some (.array items)) => items.length
  | json (some (.object members)) => members.length
  | json (some _) => 1
  | css _ elements => elements.length
  | xpath _ points => points.length

/-- The number of elements is that of the list of them. -/
theorem length_elements (s : Selection) : s.elements.length = s.size := by
  cases s with
  | json value =>
    rcases value with _ | value
    · rfl
    · cases value <;> simp [elements, size]
  | text content => rfl
  | _ => simp [elements, size]

/-- Whether there are no elements. -/
def isEmpty (s : Selection) : Bool := s.size == 0

/-- The element at an index.  Of JSON values only arrays have elements by index. -/
def at? (s : Selection) (index : Nat) : Option Selection :=
  match s with
  | text content => [content][index]?.map fun t => .text t
  | regex texts => texts[index]?.map fun t => .regex [t]
  | json (some (.array items)) => items[index]?.map fun v => .json (some v)
  | json _ => none
  | css d elements => elements[index]?.map fun id => .css d [id]
  | xpath d points => points[index]?.map fun p => .xpath d [p]

/-- Raw text: markup of elements, JSON of values that are not strings. -/
def raw : Selection → String
  | text content => content
  | regex texts => String.join texts
  | json value => (value.map Json.render).getD ""
  | css d elements => String.join (elements.map d.elementMarkup)
  | xpath _ points => String.join (points.map XPath.Point.markup)

/-- Text content without markup.  A JSON value that holds markup gives the text in it. -/
def textContent : Selection → String
  | css d elements => String.join (elements.map d.elementText)
  | xpath _ points => String.join (points.map XPath.Point.text)
  | json value =>
    match ofHtml (raw (.json value)) with
    | css d elements => String.join (elements.map d.elementText)
    | _ => ""
  | s => s.raw

/-- Value of an attribute of the first element; a missing one is empty. -/
def attributeValue (s : Selection) (name : String) : Except SelectionError String :=
  match s with
  | text _ => .ok ""
  | regex _ => .error (.unsupported .regex "attr")
  | json _ => .error (.unsupported .json "attr")
  | css d elements =>
    if name.isEmpty then .error .emptyAttribute
    else
      .ok <| ((elements.head?.bind d.element?).bind (·.attribute? name)).getD ""
  | xpath _ points => .ok ((points.head?.bind (·.attribute? name)).getD "")

/-- Turns a selection into one of another kind by reading its raw text; one of that kind already
stays as it is. -/
def asKind (s : Selection) (kind : SelectionKind) : Except SelectionError Selection :=
  if s.kind = kind then .ok s else ofDocument kind s.raw

end Selection

end DocQuery
