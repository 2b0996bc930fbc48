import DocQuery.Html.Construction.Formatting
/-! Tree construction up to the body: the document type, the `html` and `head` elements and what
stands in the head.  What is left out is put in.  Each function holds the rules of one mode. -/

namespace DocQuery.Html.Construction

/-! ### Quirks -/

/-- Public identifiers of documents in quirks mode. -/
def quirksPublicIds : List String :=
  ["-//w3o//dtd w3 html strict 3.0//en//", "-/w3c/dtd html 4.0 transitional/en", "html"]

/-- Beginnings of public identifiers of documents in quirks mode. -/
def quirksBeginnings : List String :=
  ["-//advasoft ltd//dtd html 3.0 aswedit + extensions//",
    "-//as//dtd html 3.0 aswedit + extensions//",
    "-//ietf//dtd html 2.0 level 1//", "-//ietf//dtd html 2.0 level 2//",
    "-//ietf//dtd html 2.0 strict level 1//", "-//ietf//dtd html 2.0 strict level 2//",
    "-//ietf//dtd html 2.0 strict//", "-//ietf//dtd html 2.0//", "-//ietf//dtd html 2.1e//",
    "-//ietf//dtd html 3.0//", "-//ietf//dtd html 3.2 final//", "-//ietf//dtd html 3.2//",
    "-//ietf//dtd html 3//", "-//ietf//dtd html level 0//", "-//ietf//dtd html level 1//",
    "-//ietf//dtd html level 2//", "-//ietf//dtd html level 3//",
    "-//ietf//dtd html strict level 0//", "-//ietf//dtd html strict level 1//",
    "-//ietf//dtd html strict level 2//", "-//ietf//dtd html strict level 3//",
    "-//ietf//dtd html strict//", "-//ietf//dtd html//", "-//metrius//dtd metrius presentational//",
    "-//microsoft//dtd internet explorer 2.0 html strict//",
    "-//microsoft//dtd internet explorer 2.0 html//",
    "-//microsoft//dtd internet explorer 2.0 tables//",
    "-//microsoft//dtd internet explorer 3.0 html strict//",
    "-//microsoft//dtd internet explorer 3.0 html//",
    "-//microsoft//dtd internet explorer 3.0 tables//", "-//netscape comm. corp.//dtd html//",
    "-//netscape comm. corp.//dtd strict html//", "-//o'reilly and associates//dtd html 2.0//",
    "-//o'reilly and associates//dtd html extended 1.0//",
    "-//o'reilly and associates//dtd html extended relaxed 1.0//",
    "-//softquad software//dtd hotmetal pro 6.0::19990601::extensions to html 4.0//",
    "-//softquad//dtd hotmetal pro 4.0::19971010::extensions to html 4.0//",
    "-//spyglass//dtd html 2.0 extended//", "-//sq//dtd html 2.0 hotmetal + extensions//",
    "-//sun microsystems corp.//dtd hotjava html//",
    "-//sun microsystems corp.//dtd hotjava strict html//", "-//w3c//dtd html 3 1995-03-24//",
    "-//w3c//dtd html 3.2 draft//", "-//w3c//dtd html 3.2 final//", "-//w3c//dtd html 3.2//",
    "-//w3c//dtd html 3.2s draft//", "-//w3c//dtd html 4.0 frameset//",
    "-//w3c//dtd html 4.0 transitional//", "-//w3c//dtd html experimental 19960712//",
    "-//w3c//dtd html experimental 970421//", "-//w3c//dtd w3 html//", "-//w3o//dtd w3 html 3.0//",
    "-//webtechs//dtd mozilla html 2.0//", "-//webtechs//dtd mozilla html//"]

/-- Beginnings of public identifiers of documents in quirks mode if they have no system identifier.
-/
def quirksWithoutSystem : List String :=
  ["-//w3c//dtd html 4.01 frameset//", "-//w3c//dtd html 4.01 transitional//"]

/-- Whether a text starts with one of several. -/
def startsWithAny (beginnings : List String) (text : String) : Bool :=
  beginnings.any fun b => b.toList.isPrefixOf text.toList

/-- Whether a document of this type is in quirks mode. -/
def isQuirks (d : Doctype) : Bool :=
  let publicId := d.publicId.map fun s => nameOf s.toList
  let systemId := d.systemId.map fun s => nameOf s.toList
  d.forceQuirks || d.name != "html" ||
    publicId.any (fun id => quirksPublicIds.contains id || startsWithAny quirksBeginnings id) ||
    systemId == some "http://www.ibm.com/data/dtd/v11/ibmxhtml1-transitional.dtd" ||
    (systemId.isNone && publicId.any (startsWithAny quirksWithoutSystem))

/-! ### Before the head -/

/-- Puts in the `html` element. -/
def openRoot (attributes : List (String × String)) : Build Unit :=
  modify fun b =>
    let element : Element := { name := "html", attributes := plainAttributes attributes }
    let (dom, id) := b.dom.add (.element element)
    { b with dom := dom.append Dom.root id, stack := [{ id, space := .html, name := "html" }] }

/-- The document has no type yet. -/
def initialRules (t : Token) : Build Next := do
  match t with
  | .comment text => appendComment Dom.root text
  | .doctype d =>
    modify fun b =>
      let (dom, id) := b.dom.add (.doctype d.name)
      { b with dom := dom.append Dom.root id, quirks := isQuirks d, mode := .beforeHtml }
    return .done
  | .fault => done
  | .char c =>
    if isSpace c then return .done
    modify fun b => { b with quirks := true }
    again .beforeHtml
  | _ =>
    modify fun b => { b with quirks := true }
    again .beforeHtml

/-- There is no `html` element yet. -/
def beforeHtmlRules (t : Token) : Build Next := do
  let anythingElse : Build Next := do
    openRoot []
    again .beforeHead
  match t with
  | .doctype _ | .fault => done
  | .comment text => appendComment Dom.root text
  | .char c => if isSpace c then done else anythingElse
  | .startTag tag =>
    if tag.name == "html" then
      openRoot tag.attributes
      setMode .beforeHead
      return .done
    anythingElse
  | .endTag tag =>
    if ["head", "body", "html", "br"].contains tag.name then anythingElse else done
  | .endOfText => anythingElse

/-- Adds the attributes of a second `html` tag to the element. -/
def mergeRoot (tag : Tag) : Build Next := do
  let b ← get
  if !b.stack.any (·.is "template") then
    match b.stack.getLast? with
    | some html => addMissingAttributes html.id tag.attributes
    | none => pure ()
  return .done

/-- There is no `head` element yet. -/
def beforeHeadRules (t : Token) : Build Next := do
  let openHead (tag : Tag) : Build Unit := do
    let id ← openElement (elementOf tag)
    modify fun b => { b with head := some id }
  let anythingElse : Build Next := do
    openHead { name := "head" }
    again .inHead
  match t with
  | .doctype _ | .fault => done
  | .comment text => insertComment text
  | .char c => if isSpace c then done else anythingElse
  | .startTag tag =>
    if tag.name == "html" then mergeRoot tag
    else if tag.name == "head" then
      openHead tag
      setMode .inHead
      return .done
    else anythingElse
  | .endTag tag =>
    if ["head", "body", "html", "br"].contains tag.name then anythingElse else done
  | .endOfText => anythingElse

/-! ### In the head -/

/-- Opens a template. -/
def startTemplate (tag : Tag) : Build Next := do
  openTag tag
  addMarker
  modify fun b =>
    { b with
      framesetOk := false, mode := .inTemplate
      templateModes := .inTemplate :: b.templateModes }
  return .done

/-- Closes a template. -/
def endTemplate : Build Next := do
  if ← isOpen "template" then
    popWhile (·.isIn thoroughImpliedEnd)
    popNamed "template"
    clearFormatting
    modify fun b => { b with templateModes := b.templateModes.tail }
    resetMode
  return .done

/-- The `head` element is open.  The rules for elements of the head apply elsewhere too. -/
def inHeadRules (t : Token) : Build Next := do
  let anythingElse : Build Next := do
    pop
    again .afterHead
  match t with
  | .doctype _ | .fault => done
  | .comment text => insertComment text
  | .char c => if isSpace c then insertChar c else anythingElse
  | .startTag tag =>
    match tag.name with
    | "html" => mergeRoot tag
    | "base" | "basefont" | "bgsound" | "link" | "meta" =>
      insertTag tag
      return .done
    | "title" => openText tag .escapable
    | "noscript" | "noframes" | "style" => openText tag .raw
    | "script" => openText tag (.script .plain 0)
    | "template" => startTemplate tag
    | "head" => done
    | _ => anythingElse
  | .endTag tag =>
    match tag.name with
    | "head" =>
      pop
      setMode .afterHead
      return .done
    | "body" | "html" | "br" => anythingElse
    | "template" => endTemplate
    | _ => done
  | .endOfText => anythingElse

/-- Puts an element into the head that is closed already. -/
def insertIntoHead (t : Token) : Build Next := do
  match (← get).head with
  | none => inHeadRules t
  | some id =>
    push { id, space := .html, name := "head" }
    let next ← inHeadRules t
    modify fun b => { b with stack := b.stack.eraseP (·.id == id) }
    return next

/-- The head is closed and there is no body yet. -/
def afterHeadRules (t : Token) : Build Next := do
  let anythingElse : Build Next := do
    let _ ← openNamed "body"
    again .inBody
  match t with
  | .doctype _ | .fault => done
  | .comment text => insertComment text
  | .char c => if isSpace c then insertChar c else anythingElse
  | .startTag tag =>
    match tag.name with
    | "html" => mergeRoot tag
    | "body" =>
      openTag tag
      framesetNotOk
      setMode .inBody
      return .done
    | "frameset" =>
      openTag tag
      setMode .inFrameset
      return .done
    | "head" => done
    | name => if headNames.contains name then insertIntoHead t else anythingElse
  | .endTag tag =>
    match tag.name with
    | "body" | "html" | "br" => anythingElse
    | "template" => endTemplate
    | _ => done
  | .endOfText => anythingElse

end DocQuery.Html.Construction
