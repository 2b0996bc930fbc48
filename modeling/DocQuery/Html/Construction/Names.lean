import DocQuery.Html.Node
/-! Groups of element names on which tree construction decides.  The groups hold HTML elements
except where a function on namespaces says otherwise. -/

namespace DocQuery.Html.Construction

/-- Elements that an end tag of another name does not close. -/
def special : List String :=
  ["address", "applet", "area", "article", "aside", "base", "basefont", "bgsound", "blockquote",
    "body", "br", "button", "caption", "center", "col", "colgroup", "dd", "details", "dir", "div",
    "dl", "dt", "embed", "fieldset", "figcaption", "figure", "footer", "form", "frame", "frameset",
    "h1", "h2", "h3", "h4", "h5", "h6", "head", "header", "hgroup", "hr", "html", "iframe", "img",
    "input", "isindex", "li", "link", "listing", "main", "marquee", "menu", "meta", "nav",
    "noembed", "noframes", "noscript", "object", "ol", "p", "param", "plaintext", "pre", "script",
    "section", "select", "source", "style", "summary", "table", "tbody", "td", "template",
    "textarea", "tfoot", "th", "thead", "title", "tr", "track", "ul", "wbr", "xmp"]

/-- Elements whose end tag may be left out. -/
def impliedEnd : List String :=
  ["dd", "dt", "li", "option", "optgroup", "p", "rb", "rp", "rt", "rtc"]

/-- Elements that the end of a template closes. -/
def thoroughImpliedEnd : List String :=
  impliedEnd ++ ["caption", "colgroup", "tbody", "td", "tfoot", "th", "thead", "tr"]

/-- Headings. -/
def headings : List String := ["h1", "h2", "h3", "h4", "h5", "h6"]

/-- Blocks that close an open paragraph and are closed by their own end tag. -/
def blocks : List String :=
  ["address", "article", "aside", "blockquote", "center", "details", "dialog", "dir", "div", "dl",
    "fieldset", "figcaption", "figure", "footer", "header", "hgroup", "main", "menu", "nav", "ol",
    "search", "section", "summary", "ul"]

/-- Formatting elements other than links and `nobr`. -/
def formattingNames : List String :=
  ["b", "big", "code", "em", "font", "i", "s", "small", "strike", "strong", "tt", "u"]

/-- Elements that belong into the head. -/
def headNames : List String :=
  ["base", "basefont", "bgsound", "link", "meta", "noframes", "script", "style", "template",
    "title"]

/-- Parts of a table that stand in the way of text. -/
def tableOuter : List String := ["table", "tbody", "tfoot", "thead", "tr"]

/-- MathML elements that hold text. -/
def isMathTextPoint (space : Space) (name : String) : Bool :=
  space = .mathml && ["mi", "mo", "mn", "ms", "mtext"].contains name

/-- SVG elements that hold HTML. -/
def isHtmlPoint (space : Space) (name : String) : Bool :=
  space = .svg && ["foreignObject", "desc", "title"].contains name

/-- Where a search for an open element ends. -/
inductive Scope where
  | default
  | listItem
  | button
  | table
  | select
  deriving DecidableEq, Repr

/-- Whether an element ends a search. -/
def Scope.ends (scope : Scope) (space : Space) (name : String) : Bool :=
  let isDefault :=
    (space = .html && ["applet", "caption", "html", "table", "td", "th", "marquee", "object",
      "template"].contains name) ||
      isMathTextPoint space name || isHtmlPoint space name
  match scope with
  | .default => isDefault
  | .listItem => isDefault || (space = .html && ["ol", "ul"].contains name)
  | .button => isDefault || (space = .html && name == "button")
  | .table => space = .html && ["html", "table", "template"].contains name
  | .select => !(space = .html && ["optgroup", "option"].contains name)

end DocQuery.Html.Construction
