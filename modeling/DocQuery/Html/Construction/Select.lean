import DocQuery.Html.Construction.Table
/-! Tree construction in a list of choices.  Only text, comments, choices, groups of them, rules,
scripts and templates stand there; other tags are left out, and those of form controls close the
list first. -/

namespace DocQuery.Html.Construction

/-- Closes the open list of choices. -/
def closeSelect : Build Unit := do
  popNamed "select"
  resetMode

/-- Closes the open list of choices and goes on behind it. -/
def closeSelectAndRepeat : Build Next := do
  closeSelect
  return .again

/-- Closes a choice that stands open, and then, if asked, a group of choices. -/
def closeChoice (group : Bool) : Build Unit := do
  if ← currentIs "option" then pop
  if group then
    if ← currentIs "optgroup" then pop

/-- A start tag in a list of choices. -/
def selectStart (tag : Tag) : Build Next := do
  match tag.name with
  | "html" => mergeRoot tag
  | "option" =>
    closeChoice false
    openTag tag
    return .done
  | "optgroup" =>
    closeChoice true
    openTag tag
    return .done
  | "hr" =>
    closeChoice true
    insertTag tag
    return .done
  | "select" =>
    if ← inScopeNamed .select "select" then closeSelect
    return .done
  | "input" | "keygen" | "textarea" =>
    if ← inScopeNamed .select "select" then closeSelectAndRepeat else done
  | "script" | "template" => inHeadRules (.startTag tag)
  | _ => return .done

/-- An end tag in a list of choices.  That of a group closes a choice in the group as well. -/
def selectEnd (tag : Tag) : Build Next := do
  match tag.name with
  | "optgroup" =>
    match (← get).stack with
    | e :: outer :: _ => if e.is "option" && outer.is "optgroup" then pop
    | _ => pure ()
    if ← currentIs "optgroup" then pop
    return .done
  | "option" =>
    if ← currentIs "option" then pop
    return .done
  | "select" =>
    if ← inScopeNamed .select "select" then closeSelect
    return .done
  | "template" => endTemplate
  | _ => return .done

/-- The rules for a list of choices. -/
def inSelectRules (t : Token) : Build Next := do
  match t with
  | .char c => if c = '\x00' then done else insertChar c
  | .comment text => insertComment text
  | .startTag tag => selectStart tag
  | .endTag tag => selectEnd tag
  | .endOfText => inBodyRules t
  | .doctype _ | .fault => return .done

/-- Tags of a table and of its parts, which close a list of choices in a table. -/
def tableParts : List String :=
  ["caption", "table", "tbody", "td", "tfoot", "th", "thead", "tr"]

/-- The rules for a list of choices in a table. -/
def inSelectInTableRules (t : Token) : Build Next := do
  match t with
  | .startTag tag =>
    if tableParts.contains tag.name then closeSelectAndRepeat else inSelectRules t
  | .endTag tag =>
    if tableParts.contains tag.name then
      if ← inScopeNamed .table tag.name then closeSelectAndRepeat else done
    else inSelectRules t
  | _ => inSelectRules t

end DocQuery.Html.Construction
