import DocQuery.Html.Construction.Head
/-! Tree construction in the body.  A start tag first closes what cannot hold it, an end tag closes
the nearest open element of its name in scope, and both may leave other elements open or close
them. -/

namespace DocQuery.Html.Construction

/-! ### Foreign elements -/

/-- SVG element names with capitals, by their spelling in lower case. -/
def svgNames : List String :=
  ["altGlyph", "altGlyphDef", "altGlyphItem", "animateColor", "animateMotion", "animateTransform",
    "clipPath", "feBlend", "feColorMatrix", "feComponentTransfer", "feComposite",
    "feConvolveMatrix", "feDiffuseLighting", "feDisplacementMap", "feDistantLight",
    "feDropShadow", "feFlood", "feFuncA", "feFuncB", "feFuncG", "feFuncR", "feGaussianBlur",
    "feImage", "feMerge", "feMergeNode", "feMorphology", "feOffset", "fePointLight",
    "feSpecularLighting", "feSpotLight", "feTile", "feTurbulence", "foreignObject", "glyphRef",
    "linearGradient", "radialGradient", "textPath"]

/-- SVG attribute names with capitals. -/
def svgAttributes : List String :=
  ["attributeName", "attributeType", "baseFrequency", "baseProfile", "calcMode", "clipPathUnits",
    "diffuseConstant", "edgeMode", "filterUnits", "glyphRef", "gradientTransform",
    "gradientUnits", "kernelMatrix", "kernelUnitLength", "keyPoints", "keySplines", "keyTimes",
    "lengthAdjust", "limitingConeAngle", "markerHeight", "markerUnits", "markerWidth",
    "maskContentUnits", "maskUnits", "numOctaves", "pathLength", "patternContentUnits",
    "patternTransform", "patternUnits", "pointsAtX", "pointsAtY", "pointsAtZ", "preserveAlpha",
    "preserveAspectRatio", "primitiveUnits", "refX", "refY", "repeatCount", "repeatDur",
    "requiredExtensions", "requiredFeatures", "specularConstant", "specularExponent",
    "spreadMethod", "startOffset", "stdDeviation", "stitchTiles", "surfaceScale",
    "systemLanguage", "tableValues", "targetX", "targetY", "textLength", "viewBox", "viewTarget",
    "xChannelSelector", "yChannelSelector", "zoomAndPan"]

/-- The spelling with capitals, if the list has one. -/
def withCapitals (spellings : List String) (name : String) : String :=
  (spellings.find? fun s => nameOf s.toList == name).getD name

/-- An attribute of a foreign element.  Some with a colon have a namespace. -/
def foreignAttribute (name value : String) : Attribute :=
  match name with
  | "xlink:actuate" => { space := .xlink, name := "actuate", value }
  | "xlink:arcrole" => { space := .xlink, name := "arcrole", value }
  | "xlink:href" => { space := .xlink, name := "href", value }
  | "xlink:role" => { space := .xlink, name := "role", value }
  | "xlink:show" => { space := .xlink, name := "show", value }
  | "xlink:title" => { space := .xlink, name := "title", value }
  | "xlink:type" => { space := .xlink, name := "type", value }
  | "xml:lang" => { space := .xml, name := "lang", value }
  | "xml:space" => { space := .xml, name := "space", value }
  | "xmlns" => { space := .xmlns, name := "xmlns", value }
  | "xmlns:xlink" => { space := .xmlns, name := "xlink", value }
  | _ => { name, value }

/-- The foreign element of a tag. -/
def foreignElement (space : Space) (tag : Tag) : Element :=
  let attributeName (name : String) : String :=
    match space with
    | .html => name
    | .svg => withCapitals svgAttributes name
    | .mathml => if name == "definitionurl" then "definitionURL" else name
  { space
    name := if space = .svg then withCapitals svgNames tag.name else tag.name
    attributes := tag.attributes.map fun (n, v) => foreignAttribute (attributeName n) v }

/-- Puts in a foreign element; one that closes itself is not opened. -/
def insertForeign (element : Element) (selfClosing : Bool) : Build Next := do
  if selfClosing then
    let _ ← insertElement element
  else
    let _ ← openElement element
  return .done

/-! ### Start tags -/

/-- Opens an element that cannot stand in a paragraph. -/
def openBlock (tag : Tag) : Build Next := do
  closeParagraphInScope
  openTag tag
  return .done

/-- Opens an element that stands in text. -/
def openInline (tag : Tag) : Build Next := do
  reconstruct
  openTag tag
  return .done

/-- Puts in an element without content that stands in text. -/
def insertVoid (tag : Tag) : Build Next := do
  reconstruct
  insertTag tag
  framesetNotOk
  return .done

/-- The nearest open element of the given names that a new one of them closes. -/
def itemToClose (names : List String) : List OpenElement → Option String
  | [] => none
  | e :: outer =>
    if e.isIn names then some e.name
    else if e.isIn special && !e.isIn ["address", "div", "p"] then none
    else itemToClose names outer

/-- Opens an item of a list. -/
def openItem (tag : Tag) (names : List String) : Build Next := do
  framesetNotOk
  match itemToClose names (← get).stack with
  | some name =>
    impliedEndExcept name
    popNamed name
  | none => pure ()
  openBlock tag

/-- Opens a form, unless one is open. -/
def openForm (tag : Tag) : Build Next := do
  let inTemplate ← isOpen "template"
  if (← get).form.isSome && !inTemplate then return .done
  closeParagraphInScope
  let id ← openElement (elementOf tag)
  if !inTemplate then modify fun b => { b with form := some id }
  return .done

/-- Opens a link; one that is listed is closed before. -/
def openLink (tag : Tag) : Build Next := do
  match (sinceMarker (← get).formatting).find? fun e => e.2.name == "a" with
  | some (id, _) =>
    adoptionAgency "a"
    modify fun b =>
      { b with
        formatting := dropFormatting id b.formatting
        stack := b.stack.eraseP (·.id == id) }
  | none => pure ()
  reconstruct
  openFormatting tag
  return .done

/-- Opens a list of choices.  In a table its rules are others. -/
def openSelect (tag : Tag) : Build Next := do
  let _ ← openInline tag
  framesetNotOk
  let inTable := [Mode.inTable, .inCaption, .inTableBody, .inRow, .inCell].contains (← get).mode
  setMode (if inTable then .inSelectInTable else .inSelect)
  return .done

/-- Whether a tag is for an input that is not shown. -/
def isHiddenInput (tag : Tag) : Bool :=
  tag.attributes.any fun (n, v) => n == "type" && nameOf v.toList == "hidden"

/-- Replaces the body by a frameset. -/
def replaceBody (tag : Tag) : Build Next := do
  let b ← get
  if !b.framesetOk then return .done
  match b.stack.reverse with
  | html :: body :: _ =>
    if body.is "body" then
      set { b with dom := b.dom.detach body.id, stack := [html] }
      openTag tag
      setMode .inFrameset
    return .done
  | _ => return .done

/-- Adds the attributes of a second `body` tag to the element. -/
def mergeBody (tag : Tag) : Build Next := do
  let b ← get
  match b.stack.reverse with
  | _ :: body :: _ =>
    if body.is "body" && !b.stack.any (·.is "template") then
      framesetNotOk
      addMissingAttributes body.id tag.attributes
    return .done
  | _ => return .done

/-- A start tag in the body. -/
def bodyStart (tag : Tag) : Build Next := do
  let name := tag.name
  if headNames.contains name then inHeadRules (.startTag tag)
  else if blocks.contains name || name == "p" then openBlock tag
  else if formattingNames.contains name then
    reconstruct
    openFormatting tag
    return .done
  else match name with
  | "html" => mergeRoot tag
  | "body" => mergeBody tag
  | "frameset" => replaceBody tag
  | "h1" | "h2" | "h3" | "h4" | "h5" | "h6" =>
    closeParagraphInScope
    if ← currentIn headings then pop
    openTag tag
    return .done
  | "pre" | "listing" =>
    let _ ← openBlock tag
    modify fun b => { b with skipNewline := true, framesetOk := false }
    return .done
  | "form" => openForm tag
  | "li" => openItem tag ["li"]
  | "dd" | "dt" => openItem tag ["dd", "dt"]
  | "plaintext" =>
    let _ ← openBlock tag
    modify fun b => { b with content := .plain }
    return .done
  | "button" =>
    if ← inScopeNamed .default "button" then
      impliedEndTags
      popNamed "button"
    let _ ← openInline tag
    framesetNotOk
    return .done
  | "a" => openLink tag
  | "nobr" =>
    reconstruct
    if ← inScopeNamed .default "nobr" then
      adoptionAgency "nobr"
      reconstruct
    openFormatting tag
    return .done
  | "applet" | "marquee" | "object" =>
    let _ ← openInline tag
    addMarker
    framesetNotOk
    return .done
  | "table" =>
    if !(← get).quirks then closeParagraphInScope
    openTag tag
    framesetNotOk
    setMode .inTable
    return .done
  | "area" | "br" | "embed" | "img" | "keygen" | "wbr" => insertVoid tag
  | "input" =>
    reconstruct
    insertTag tag
    if !isHiddenInput tag then framesetNotOk
    return .done
  | "param" | "source" | "track" =>
    insertTag tag
    return .done
  | "hr" =>
    closeParagraphInScope
    insertTag tag
    framesetNotOk
    return .done
  | "image" => insertVoid { tag with name := "img" }
  | "textarea" =>
    framesetNotOk
    let next ← openText tag .escapable
    modify fun b => { b with skipNewline := true }
    return next
  | "xmp" =>
    closeParagraphInScope
    reconstruct
    framesetNotOk
    openText tag .raw
  | "iframe" =>
    framesetNotOk
    openText tag .raw
  | "noembed" | "noscript" => openText tag .raw
  | "select" => openSelect tag
  | "option" | "optgroup" =>
    if ← currentIs "option" then pop
    openInline tag
  | "rb" | "rtc" =>
    if ← inScopeNamed .default "ruby" then impliedEndTags
    openTag tag
    return .done
  | "rp" | "rt" =>
    if ← inScopeNamed .default "ruby" then impliedEndExcept "rtc"
    openTag tag
    return .done
  | "math" => insertForeign (foreignElement .mathml tag) tag.selfClosing
  | "svg" => insertForeign { foreignElement .svg tag with name := "svg" } tag.selfClosing
  | "caption" | "col" | "colgroup" | "frame" | "head" | "tbody" | "td" | "tfoot" | "th" | "thead"
  | "tr" => return .done
  | _ => openInline tag

/-! ### End tags -/

/-- Closes an element in scope, and what stands open inside. -/
def closeInScope (name : String) : Build Next := do
  if ← inScopeNamed .default name then
    impliedEndTags
    popNamed name
  return .done

/-- Closes an item of a list. -/
def closeItem (scope : Scope) (name : String) : Build Next := do
  if ← inScopeNamed scope name then
    impliedEndExcept name
    popNamed name
  return .done

/-- Closes a form.  Elements inside it that are open stay open. -/
def closeForm : Build Next := do
  if ← isOpen "template" then closeInScope "form"
  else
    let b ← get
    modify fun b => { b with form := none }
    match b.form with
    | none => return .done
    | some id =>
      if ← inScope .default (·.id == id) then
        impliedEndTags
        modify fun b => { b with stack := b.stack.eraseP (·.id == id) }
      return .done

/-- An end tag in the body. -/
def bodyEnd (tag : Tag) : Build Next := do
  let name := tag.name
  if blocks.contains name then closeInScope name
  else if formattingNames.contains name || name == "a" || name == "nobr" then
    adoptionAgency name
    return .done
  else match name with
  | "template" => endTemplate
  | "body" =>
    if ← inScopeNamed .default "body" then setMode .afterBody
    return .done
  | "html" => if ← inScopeNamed .default "body" then again .afterBody else done
  | "button" | "listing" | "pre" => closeInScope name
  | "form" => closeForm
  | "p" =>
    if !(← inScopeNamed .button "p") then
      let _ ← openNamed "p"
    closeParagraph
    return .done
  | "li" => closeItem .listItem "li"
  | "dd" | "dt" => closeItem .default name
  | "h1" | "h2" | "h3" | "h4" | "h5" | "h6" =>
    if ← inScope .default (·.isIn headings) then
      impliedEndTags
      popThrough (·.isIn headings)
    return .done
  | "applet" | "marquee" | "object" =>
    if ← inScopeNamed .default name then
      impliedEndTags
      popNamed name
      clearFormatting
    return .done
  | "br" => insertVoid { name := "br" }
  | _ =>
    otherEndTag name
    return .done

/-- The text has ended inside templates: they are closed. -/
def endOfTemplates : Build Next := do
  if ← isOpen "template" then
    popNamed "template"
    clearFormatting
    modify fun b => { b with templateModes := b.templateModes.tail }
    resetMode
    return .again
  else return .done

/-- The rules for the body. -/
def inBodyRules (t : Token) : Build Next := do
  match t with
  | .doctype _ | .fault => done
  | .comment text => insertComment text
  | .char c =>
    if c = '\x00' then return .done
    reconstruct
    if !isSpace c then framesetNotOk
    insertChar c
  | .startTag tag => bodyStart tag
  | .endTag tag => bodyEnd tag
  | .endOfText => if (← get).templateModes.isEmpty then done else endOfTemplates

end DocQuery.Html.Construction
