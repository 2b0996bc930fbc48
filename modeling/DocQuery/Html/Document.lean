import DocQuery.Html.Construction.Rules
import DocQuery.Tree.Layout
/-! HTML documents.  Reading never fails: every text is the markup of some document, with `html`,
`head` and `body` elements put in where they are left out.  The markup and the text content of any
part of a document can be written. -/

namespace DocQuery.Html

/-- A document with its nodes numbered in document order; number `0` is the document itself. -/
abbrev Document : Type := Layout Node

namespace Document

/-- The text without a byte order mark. -/
def dropMark : List Char → List Char
  | '\ufeff' :: cs => cs
  | cs => cs

/-- Reads a document. -/
def ofText (text : String) : Document :=
  let cs := normalizeLines (dropMark text.toList)
  .of .document (Construction.build (cs.length + 1) cs {}).dom.forest

/-- The element of a node. -/
def element? (d : Document) (id : d.Id) : Option Element := (d.label id).element?

/-- Children of a node. -/
def childIds (d : Document) (id : d.Id) : List d.Id := (d.children id).map Subtype.val

/-- The outermost element. -/
def rootElement? (d : Document) : Option d.Id :=
  (d.childIds d.rootId).find? fun c => (d.element? c).isSome

/-! ### Writing markup -/

/-- HTML elements without content and without end tag. -/
def voidNames : List String :=
  ["area", "base", "basefont", "bgsound", "br", "col", "embed", "frame", "hr", "img", "input",
    "keygen", "link", "meta", "param", "source", "track", "wbr"]

/-- HTML elements whose text is not escaped. -/
def rawTextNames : List String :=
  ["style", "script", "xmp", "iframe", "noembed", "noframes", "plaintext"]

/-- Writes a character of text. -/
def escapeTextChar (c : Char) : String :=
  if c = '&' then "&amp;"
  else if c = '\xa0' then "&nbsp;"
  else if c = '<' then "&lt;"
  else if c = '>' then "&gt;"
  else String.ofList [c]

/-- Writes a character of the value of an attribute. -/
def escapeValueChar (c : Char) : String :=
  if c = '&' then "&amp;"
  else if c = '\xa0' then "&nbsp;"
  else if c = '\x22' then "&quot;"
  else String.ofList [c]

/-- Writes text with some of its characters escaped. -/
def writeEscaped (escape : Char → String) (out s : String) : String :=
  s.toList.foldl (fun out c => out ++ escape c) out

/-- The name of an attribute as markup writes it. -/
def attributeName (a : Attribute) : String :=
  match a.space with
  | .none => a.name
  | .xlink => "xlink:" ++ a.name
  | .xml => "xml:" ++ a.name
  | .xmlns => if a.name == "xmlns" then a.name else "xmlns:" ++ a.name

/-- Writes an attribute. -/
def writeAttribute (out : String) (a : Attribute) : String :=
  writeEscaped escapeValueChar (out ++ " " ++ attributeName a ++ "=\"") a.value ++ "\""

/-- Writes trees; `raw` tells whether their text is not escaped. -/
def writeForest (raw : Bool) (out : String) : Forest Node → String
  | .nil => out
  | .cons node children rest =>
    let out := match node with
      | .document | .fragment => writeForest raw out children
      | .doctype name => out ++ "<!DOCTYPE " ++ name ++ ">"
      | .comment s => out ++ "<!--" ++ s ++ "-->"
      | .text s => if raw then out ++ s else writeEscaped escapeTextChar out s
      | .element e =>
        let start := e.attributes.foldl writeAttribute (out ++ "<" ++ e.name) ++ ">"
        let isHtml := e.space = .html
        if isHtml && voidNames.contains e.name then start
        else
          writeForest (isHtml && rawTextNames.contains e.name) start children ++
            "</" ++ e.name ++ ">"
    writeForest raw out rest

/-- Markup of an element. -/
def elementMarkup (d : Document) (id : d.Id) : String :=
  writeForest false "" (.cons (d.label id) (d.subforest id) .nil)

/-- Markup of any node of a list of trees one below the other: of text the text itself, of a
document type nothing, of the document and of a fragment what they hold. -/
def nodeMarkup : Forest Node → String
  | .nil => ""
  | .cons node children rest =>
    (match node with
      | .text s => s
      | .comment s => "<!--" ++ s ++ "-->"
      | .element e => writeForest false "" (.cons (.element e) children .nil)
      | .document | .fragment | .doctype _ => nodeMarkup children) ++ nodeMarkup rest

/-- Markup of a node. -/
def outerMarkup (d : Document) (id : d.Id) : String :=
  nodeMarkup (.cons (d.label id) (d.subforest id) .nil)

/-! ### Text content -/

/-- The text nodes of trees in document order. -/
def texts : Forest Node → List String
  | .nil => []
  | .cons node children rest =>
    (match node with
      | .text s => [s]
      | _ => []) ++ texts children ++ texts rest

/-- Text below an element. -/
def elementText (d : Document) (id : d.Id) : String :=
  String.join (texts (d.subforest id))

/-- Text content of a node; of a comment the comment. -/
def textContent (d : Document) (id : d.Id) : String :=
  match d.label id with
  | .comment s => s
  | .text s => s
  | _ => d.elementText id

end Document

end DocQuery.Html
