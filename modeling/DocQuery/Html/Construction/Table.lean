import DocQuery.Html.Construction.Body
/-! Tree construction in tables and templates.  Parts of a table that are left out are put in,
parts that a tag closes are closed, and other content is put before the table. -/

namespace DocQuery.Html.Construction

/-- Processes a token by the rules for the body, with nodes put before the table. -/
def fosterInBody (t : Token) : Build Next := do
  modify fun b => { b with foster := true }
  let next ← inBodyRules t
  modify fun b => { b with foster := false }
  return next

/-- Closes elements up to one of the names, which stays open. -/
def clearTo (names : List String) : Build Unit := popWhile (!·.isIn names)

/-- Closes elements up to a table. -/
def clearToTable : Build Unit := clearTo ["table", "template", "html"]

/-- Closes elements up to a group of rows. -/
def clearToTableBody : Build Unit := clearTo ["tbody", "tfoot", "thead", "template", "html"]

/-- Closes elements up to a row. -/
def clearToRow : Build Unit := clearTo ["tr", "template", "html"]

/-- Text of a table waits until it ends. -/
def waitForText (c : Char) : Build Next := do
  if ← currentIn tableOuter then
    modify fun b => { b with originalMode := b.mode, tableText := [] }
    again .inTableText
  else fosterInBody (.char c)

/-- A start tag in a table, outside of its parts. -/
def tableStart (tag : Tag) : Build Next := do
  match tag.name with
  | "caption" =>
    clearToTable
    addMarker
    openTag tag
    setMode .inCaption
    return .done
  | "colgroup" =>
    clearToTable
    openTag tag
    setMode .inColumnGroup
    return .done
  | "col" =>
    clearToTable
    let _ ← openNamed "colgroup"
    again .inColumnGroup
  | "tbody" | "tfoot" | "thead" =>
    clearToTable
    openTag tag
    setMode .inTableBody
    return .done
  | "td" | "th" | "tr" =>
    clearToTable
    let _ ← openNamed "tbody"
    again .inTableBody
  | "table" =>
    if ← inScopeNamed .table "table" then
      popNamed "table"
      resetMode
      return .again
    return .done
  | "style" | "script" | "template" => inHeadRules (.startTag tag)
  | "input" =>
    if isHiddenInput tag then
      insertTag tag
      return .done
    fosterInBody (.startTag tag)
  | "form" =>
    if (← get).form.isNone && !(← isOpen "template") then
      let id ← insertElement (elementOf tag)
      modify fun b => { b with form := some id }
    return .done
  | _ => fosterInBody (.startTag tag)

/-- An end tag in a table, outside of its parts. -/
def tableEnd (tag : Tag) : Build Next := do
  match tag.name with
  | "table" =>
    if ← inScopeNamed .table "table" then
      popNamed "table"
      resetMode
    return .done
  | "body" | "caption" | "col" | "colgroup" | "html" | "tbody" | "td" | "tfoot" | "th" | "thead"
  | "tr" => return .done
  | "template" => endTemplate
  | _ => fosterInBody (.endTag tag)

/-- The rules for a table. -/
def inTableRules (t : Token) : Build Next := do
  match t with
  | .doctype _ | .fault => done
  | .comment text => insertComment text
  | .char c => waitForText c
  | .startTag tag => tableStart tag
  | .endTag tag => tableEnd tag
  | .endOfText => inBodyRules t

/-- The rules for text in a table: it waits for its end, and is put before the table unless it is
blank. -/
def inTableTextRules (t : Token) : Build Next := do
  match t with
  | .char c =>
    if c ≠ '\x00' then modify fun b => { b with tableText := c :: b.tableText }
    return .done
  | _ =>
    let b ← get
    let text := b.tableText.reverse
    set { b with tableText := [] }
    let isBlank := text.all isSpace
    for c in text do
      let _ ← if isBlank then insertChar c else fosterInBody (.char c)
    again b.originalMode

/-- Closes a caption; tells whether one is open. -/
def closeCaption : Build Bool := do
  if ← inScopeNamed .table "caption" then
    impliedEndTags
    popNamed "caption"
    clearFormatting
    setMode .inTable
    return true
  return false

/-- The rules for a caption. -/
def inCaptionRules (t : Token) : Build Next := do
  let closeAndRepeat : Build Next := do
    if ← closeCaption then return .again else return .done
  match t with
  | .startTag tag =>
    if ["caption", "col", "colgroup", "tbody", "td", "tfoot", "th", "thead", "tr"].contains tag.name
    then closeAndRepeat
    else inBodyRules t
  | .endTag tag =>
    match tag.name with
    | "caption" =>
      let _ ← closeCaption
      return .done
    | "table" => closeAndRepeat
    | "body" | "col" | "colgroup" | "html" | "tbody" | "td" | "tfoot" | "th" | "thead" | "tr" =>
      return .done
    | _ => inBodyRules t
  | _ => inBodyRules t

/-- The rules for a group of columns. -/
def inColumnGroupRules (t : Token) : Build Next := do
  let anythingElse : Build Next := do
    if ← currentIs "colgroup" then
      pop
      again .inTable
    else return .done
  match t with
  | .doctype _ | .fault => done
  | .comment text => insertComment text
  | .char c => if isSpace c then insertChar c else anythingElse
  | .startTag tag =>
    match tag.name with
    | "html" => mergeRoot tag
    | "col" =>
      insertTag tag
      return .done
    | "template" => inHeadRules t
    | _ => anythingElse
  | .endTag tag =>
    match tag.name with
    | "colgroup" =>
      if ← currentIs "colgroup" then
        pop
        setMode .inTable
      return .done
    | "col" => return .done
    | "template" => inHeadRules t
    | _ => anythingElse
  | .endOfText => inBodyRules t

/-- The rules for a group of rows. -/
def inTableBodyRules (t : Token) : Build Next := do
  -- a `thead` alone, as in a template, is not closed
  let closeAndRepeat : Build Next := do
    if ← inScope .table (·.isIn ["table", "tbody", "tfoot"]) then
      clearToTableBody
      pop
      again .inTable
    else return .done
  match t with
  | .startTag tag =>
    match tag.name with
    | "tr" =>
      clearToTableBody
      openTag tag
      setMode .inRow
      return .done
    | "th" | "td" =>
      clearToTableBody
      let _ ← openNamed "tr"
      again .inRow
    | "caption" | "col" | "colgroup" | "tbody" | "tfoot" | "thead" => closeAndRepeat
    | _ => inTableRules t
  | .endTag tag =>
    match tag.name with
    | "tbody" | "tfoot" | "thead" =>
      if ← inScopeNamed .table tag.name then
        clearToTableBody
        pop
        setMode .inTable
      return .done
    | "table" => closeAndRepeat
    | "body" | "caption" | "col" | "colgroup" | "html" | "td" | "th" | "tr" => return .done
    | _ => inTableRules t
  | _ => inTableRules t

/-- The rules for a row. -/
def inRowRules (t : Token) : Build Next := do
  let closeRow : Build Bool := do
    if ← inScopeNamed .table "tr" then
      clearToRow
      pop
      setMode .inTableBody
      return true
    return false
  let closeAndRepeat : Build Next := do
    if ← closeRow then return .again else return .done
  match t with
  | .startTag tag =>
    match tag.name with
    | "th" | "td" =>
      clearToRow
      openTag tag
      addMarker
      setMode .inCell
      return .done
    | "caption" | "col" | "colgroup" | "tbody" | "tfoot" | "thead" | "tr" => closeAndRepeat
    | _ => inTableRules t
  | .endTag tag =>
    match tag.name with
    | "tr" =>
      let _ ← closeRow
      return .done
    | "table" => closeAndRepeat
    | "tbody" | "tfoot" | "thead" =>
      if ← inScopeNamed .table tag.name then closeAndRepeat else return .done
    | "body" | "caption" | "col" | "colgroup" | "html" | "td" | "th" => return .done
    | _ => inTableRules t
  | _ => inTableRules t

/-- Closes the open cell. -/
def closeCell : Build Unit := do
  impliedEndTags
  popThrough (·.isIn ["td", "th"])
  clearFormatting

/-- The rules for a cell. -/
def inCellRules (t : Token) : Build Next := do
  match t with
  | .startTag tag =>
    if ["caption", "col", "colgroup", "tbody", "td", "tfoot", "th", "thead", "tr"].contains tag.name
    then
      if ← inScope .table (·.isIn ["td", "th"]) then
        closeCell
        again .inRow
      else return .done
    else inBodyRules t
  | .endTag tag =>
    match tag.name with
    | "td" | "th" =>
      if ← inScopeNamed .table tag.name then
        impliedEndTags
        popNamed tag.name
        clearFormatting
        setMode .inRow
      return .done
    | "body" | "caption" | "col" | "colgroup" | "html" => return .done
    | "table" | "tbody" | "tfoot" | "thead" | "tr" =>
      if ← inScopeNamed .table tag.name then
        closeCell
        again .inRow
      else return .done
    | _ => inBodyRules t
  | _ => inBodyRules t

/-- The rules for a template.  Its first tag tells which part of a document it holds. -/
def inTemplateRules (t : Token) : Build Next := do
  let switchTo (mode : Mode) : Build Next := do
    modify fun b => { b with templateModes := mode :: b.templateModes.tail }
    again mode
  match t with
  | .startTag tag =>
    if headNames.contains tag.name then inHeadRules t
    else match tag.name with
      | "caption" | "colgroup" | "tbody" | "tfoot" | "thead" => switchTo .inTable
      | "col" => switchTo .inColumnGroup
      | "tr" => switchTo .inTableBody
      | "td" | "th" => switchTo .inRow
      | _ => switchTo .inBody
  | .endTag tag => if tag.name == "template" then endTemplate else return .done
  | .endOfText => endOfTemplates
  | _ => inBodyRules t

end DocQuery.Html.Construction
