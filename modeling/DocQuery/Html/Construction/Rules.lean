import DocQuery.Html.Construction.Select
/-! Tree construction as a whole: the rules behind the body and for framesets, those for foreign
content, and the choice of the rules for a token. -/

namespace DocQuery.Html.Construction

/-! ### Behind the body and in framesets -/

/-- The rules for content that is not markup.  Behind a script the text starts anew, and may have a
byte order mark there. -/
def textRules (t : Token) : Build Next := do
  let close : Build Unit :=
    modify fun b => { b with stack := b.stack.tail, mode := b.originalMode, content := .data }
  match t with
  | .char c => insertChar c
  | .endOfText =>
    close
    return .again
  | .endTag tag =>
    close
    modify fun b => { b with skipMark := tag.name == "script" }
    return .done
  | _ => return .done

/-- The rules behind the body. -/
def afterBodyRules (t : Token) : Build Next := do
  match t with
  | .char c => if isSpace c then inBodyRules t else again .inBody
  | .comment text =>
    match (← get).stack.getLast? with
    | some html => appendComment html.id text
    | none => return .done
  | .doctype _ | .fault => return .done
  | .startTag tag => if tag.name == "html" then mergeRoot tag else again .inBody
  | .endTag tag =>
    if tag.name == "html" then
      setMode .afterAfterBody
      return .done
    again .inBody
  | .endOfText => return .done

/-- The rules for a frameset. -/
def inFramesetRules (t : Token) : Build Next := do
  match t with
  | .char c => if isSpace c then insertChar c else return .done
  | .comment text => insertComment text
  | .startTag tag =>
    match tag.name with
    | "html" => mergeRoot tag
    | "frameset" =>
      openTag tag
      return .done
    | "frame" =>
      insertTag tag
      return .done
    | "noframes" => inHeadRules t
    | _ => return .done
  | .endTag tag =>
    if tag.name == "frameset" && 1 < (← get).stack.length then
      pop
      if !(← currentIs "frameset") then setMode .afterFrameset
    return .done
  | _ => return .done

/-- The rules behind a frameset. -/
def afterFramesetRules (t : Token) : Build Next := do
  match t with
  | .char c => if isSpace c then insertChar c else return .done
  | .comment text => insertComment text
  | .startTag tag =>
    match tag.name with
    | "html" => mergeRoot tag
    | "noframes" => inHeadRules t
    | _ => return .done
  | .endTag tag =>
    if tag.name == "html" then setMode .afterAfterFrameset
    return .done
  | _ => return .done

/-- The rules behind the end of the document. -/
def afterAfterBodyRules (t : Token) : Build Next := do
  match t with
  | .comment text => appendComment Dom.root text
  | .char c => if isSpace c then inBodyRules t else again .inBody
  | .startTag tag => if tag.name == "html" then mergeRoot tag else again .inBody
  | .endTag _ => again .inBody
  | .doctype _ | .fault | .endOfText => return .done

/-- The rules behind the end of a document with a frameset. -/
def afterAfterFramesetRules (t : Token) : Build Next := do
  match t with
  | .comment text => appendComment Dom.root text
  | .char c => if isSpace c then inBodyRules t else return .done
  | .startTag tag =>
    match tag.name with
    | "html" => mergeRoot tag
    | "noframes" => inHeadRules t
    | _ => return .done
  | _ => return .done

/-- The rules for a mode. -/
def rulesFor : Mode → Token → Build Next
  | .initial => initialRules
  | .beforeHtml => beforeHtmlRules
  | .beforeHead => beforeHeadRules
  | .inHead => inHeadRules
  | .afterHead => afterHeadRules
  | .inBody => inBodyRules
  | .text => textRules
  | .inTable => inTableRules
  | .inTableText => inTableTextRules
  | .inCaption => inCaptionRules
  | .inColumnGroup => inColumnGroupRules
  | .inTableBody => inTableBodyRules
  | .inRow => inRowRules
  | .inCell => inCellRules
  | .inSelect => inSelectRules
  | .inSelectInTable => inSelectInTableRules
  | .inTemplate => inTemplateRules
  | .afterBody => afterBodyRules
  | .inFrameset => inFramesetRules
  | .afterFrameset => afterFramesetRules
  | .afterAfterBody => afterAfterBodyRules
  | .afterAfterFrameset => afterAfterFramesetRules

/-- The rules for the current mode. -/
def currentRules (t : Token) : Build Next := do rulesFor (← get).mode t

/-! ### Foreign content -/

/-- Start tags that end foreign content. -/
def breakingOut : List String :=
  ["b", "big", "blockquote", "body", "br", "center", "code", "dd", "div", "dl", "dt", "em", "embed",
    "h1", "h2", "h3", "h4", "h5", "h6", "head", "hr", "i", "img", "li", "listing", "menu", "meta",
    "nobr", "ol", "p", "pre", "ruby", "s", "small", "span", "strong", "strike", "sub", "sup",
    "table", "tt", "u", "ul", "var"]

/-- Whether a token is foreign content, given the innermost open element. -/
def isForeign (current : Option OpenElement) (t : Token) : Bool :=
  match current with
  | none => false
  | some e =>
    e.space ≠ .html && t ≠ .endOfText &&
      !(match t with
        | .char _ => isMathTextPoint e.space e.name || isHtmlPoint e.space e.name
        | .startTag tag =>
          (isMathTextPoint e.space e.name && !(["mglyph", "malignmark"].contains tag.name)) ||
            isHtmlPoint e.space e.name ||
            (e.space = .mathml && e.name == "annotation-xml" && tag.name == "svg")
        | _ => false)

/-- Closes foreign elements and goes on outside of them. -/
def breakOut (t : Token) : Build Next := do
  popWhile fun e =>
    !(e.space = .html || isMathTextPoint e.space e.name || isHtmlPoint e.space e.name)
  currentRules t

/-- The open elements outside of the foreign element that an end tag closes; nothing if an HTML
element comes first, and the rules of HTML apply. -/
def closeForeign (name : String) (first : Bool) : List OpenElement → Option (List OpenElement)
  | [] | [_] => some []
  | e :: outer =>
    if !first && e.space = .html then none
    else if nameOf e.name.toList == name then some outer
    else closeForeign name false outer

/-- The rules for foreign content. -/
def foreignRules (t : Token) : Build Next := do
  match t with
  | .char c =>
    if c = '\x00' then insertChar '\ufffd'
    else
      if !isSpace c then framesetNotOk
      insertChar c
  | .comment text => insertComment text
  | .startTag tag =>
    let isStyledFont := tag.name == "font" &&
      tag.attributes.any fun a => ["color", "face", "size"].contains a.1
    if breakingOut.contains tag.name || isStyledFont then breakOut t
    else match ← current? with
      | some e => insertForeign (foreignElement e.space tag) tag.selfClosing
      | none => return .done
  | .endTag tag =>
    if tag.name == "br" || tag.name == "p" then breakOut t
    else
      match closeForeign tag.name true (← get).stack with
      | none => currentRules t
      | some [] => return .done
      | some stack =>
        modify fun b => { b with stack }
        return .done
  | _ => return .done

/-! ### Processing -/

/-- Processes a token, again if a step asks for it; `fuel` bounds the number of steps. -/
def processWith : (fuel : Nat) → Token → Build Unit
  | 0, _ => pure ()
  | fuel + 1, t => do
    let b ← get
    let next ← if isForeign b.stack.head? t then foreignRules t else rulesFor b.mode t
    match next with
    | .done => pure ()
    | .again => processWith fuel t

/-- Processes a token.  Each step that asks for another one goes on to a later part of the document
or closes an open element.  A fault stands for nothing, but a line feed behind it is kept. -/
def process (t : Token) : Build Unit := do
  let b ← get
  let skip := t = .fault || (b.skipNewline && t = .char '\n')
  set { b with skipNewline := false }
  if !skip then processWith (4 * b.stack.length + 2 * b.templateModes.length + 24) t

/-- Builds the tree of a text; every round takes a character. -/
def build : (fuel : Nat) → List Char → Builder → Builder
  | 0, _, b => b
  | _, [], b => ((process .endOfText).run b).2
  | fuel + 1, c :: cs, b =>
    if b.skipMark && c = '\ufeff' then build fuel cs { b with skipMark := false }
    else
      let foreign := b.stack.head?.any (·.space ≠ .html)
      let (tokens, rest, content) := Token.scan b.content b.lastTag foreign c cs
      let b := { b with content, skipMark := false }
      build fuel rest (tokens.foldl step b)
where
  /-- Processes a token and keeps the name of a start tag. -/
  step (b : Builder) (t : Token) : Builder :=
    let b := match t with
      | .startTag tag => { b with lastTag := tag.name }
      | _ => b
    ((process t).run b).2

end DocQuery.Html.Construction
