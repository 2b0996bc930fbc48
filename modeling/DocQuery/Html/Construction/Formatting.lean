import DocQuery.Html.Construction.Builder
/-! Formatting elements.  Those that a block has closed are opened again where text follows, and an
end tag of a formatting element that does not nest properly moves what it encloses
(`adoptionAgency`). -/

namespace DocQuery.Html.Construction

/-- The formatting elements behind the last border. -/
def sinceMarker (formatting : List Formatting) : List (Nat × Tag) :=
  (formatting.takeWhile (· ≠ .marker)).filterMap fun
    | .marker => none
    | .element id tag => some (id, tag)

/-- Whether an entry is for an element. -/
def Formatting.isFor (id : Nat) : Formatting → Bool
  | .marker => false
  | .element i _ => i == id

/-- The list without the entry for an element. -/
def dropFormatting (id : Nat) (formatting : List Formatting) : List Formatting :=
  formatting.eraseP (Formatting.isFor id)

/-- Whether two tags have the same name and the same attributes in any order. -/
def sameTag (a b : Tag) : Bool :=
  a.name == b.name && a.attributes.length == b.attributes.length &&
    a.attributes.all (b.attributes.contains ·)

/-- Puts the element of a tag in its place, opens it and lists it.  Of four entries alike the oldest
is taken off the list. -/
def openFormatting (tag : Tag) : Build Unit := do
  modify fun b =>
    let alike := (sinceMarker b.formatting).filter fun e => sameTag e.2 tag
    if 3 ≤ alike.length then
      match alike.getLast? with
      | some (id, _) => { b with formatting := dropFormatting id b.formatting }
      | none => b
    else b
  let id ← openElement (elementOf tag)
  modify fun b => { b with formatting := .element id tag :: b.formatting }

/-- Opens the formatting elements again that are not open, from the oldest on. -/
def reconstruct : Build Unit := do
  let b ← get
  let isClosed : Formatting → Bool
    | .marker => false
    | .element id _ => !b.stack.any (·.id == id)
  let closed := b.formatting.takeWhile isClosed
  if closed.isEmpty then return
  set { b with formatting := b.formatting.dropWhile isClosed }
  for entry in closed.reverse do
    match entry with
    | .marker => pure ()
    | .element _ tag =>
      let id ← openElement (elementOf tag)
      modify fun b => { b with formatting := .element id tag :: b.formatting }

/-- The stack after an end tag that has no rule of its own: elements are closed up to the one of its
name, unless a special element comes first. -/
def closeNamed (name : String) : List OpenElement → Option (List OpenElement)
  | [] => none
  | e :: outer =>
    if e.is name then some outer
    else if e.isIn special then none
    else closeNamed name outer

/-- Deals with an end tag that has no rule of its own. -/
def otherEndTag (name : String) : Build Unit :=
  modify fun b =>
    match closeNamed name b.stack with
    | some stack => { b with stack }
    | none => b

/-- State of the walk from the furthest block out to the formatting element. -/
structure Adoption where
  dom : Dom
  formatting : List Formatting
  count : Nat
  last : Nat
  /-- The clone behind which the new entry is listed. -/
  bookmark : Option Nat
  /-- Open elements that stay, innermost first. -/
  kept : List OpenElement

/-- One step of the walk: an element that is listed is cloned and takes over what has been walked
through; one that is not listed, or the fourth and later ones, are closed. -/
def Adoption.step (block : Nat) (a : Adoption) (e : OpenElement) : Adoption :=
  let count := a.count + 1
  match a.formatting.find? (Formatting.isFor e.id) with
  | some (.element _ tag) =>
    if 3 < count then { a with count, formatting := dropFormatting e.id a.formatting }
    else
      let (dom, clone) := addElement a.dom (elementOf tag)
      { dom := dom.append clone a.last
        formatting := a.formatting.map fun f =>
          if f.isFor e.id then .element clone tag else f
        count
        last := clone
        bookmark := if a.last = block then some clone else a.bookmark
        kept := a.kept ++ [{ id := clone, space := .html, name := tag.name }] }
  | _ => { a with count }

/-- Inserts an entry in front of the entry for an element. -/
def listBefore (entry : Formatting) (id : Nat) : List Formatting → List Formatting
  | [] => [entry]
  | f :: rest => if f.isFor id then entry :: f :: rest else f :: listBefore entry id rest

/-- Moves the content of the furthest block out of a formatting element: the block goes to the
common ancestor, and a clone of the formatting element takes the block's content. -/
def adopt (b : Builder) (subject : Nat × Tag) (inner : List OpenElement) (block : OpenElement)
    (between : List OpenElement) (ancestor : OpenElement) (outer : List OpenElement) : Builder :=
  let start : Adoption :=
    { dom := b.dom, formatting := b.formatting, count := 0, last := block.id, bookmark := none
      kept := [] }
  let a := between.foldl (Adoption.step block.id) start
  let dom := a.dom.detach a.last
  let dom := placeNode dom (placeIn { b with dom } ancestor) a.last
  let (dom, clone) := addElement dom (elementOf subject.2)
  let dom := (dom.moveChildren block.id clone).append block.id clone
  let entry := Formatting.element clone subject.2
  let formatting := match a.bookmark with
    | some id => dropFormatting subject.1 (listBefore entry id a.formatting)
    | none => a.formatting.map fun f => if f.isFor subject.1 then entry else f
  { b with
    dom, formatting
    stack := inner ++ { id := clone, space := .html, name := subject.2.name } :: block :: a.kept ++
      outer }

/-- One round of the adoption agency; tells whether there may be another one. -/
def adoptionRound (name : String) : Build Bool := do
  let b ← get
  match (sinceMarker b.formatting).find? fun e => e.2.name == name with
  | none =>
    otherEndTag name
    return false
  | some subject =>
    let inside := b.stack.takeWhile (·.id != subject.1)
    match b.stack.drop inside.length with
    | [] =>
      set { b with formatting := dropFormatting subject.1 b.formatting }
      return false
    | _ :: outer =>
      if !findInScope .default (·.id == subject.1) b.stack then return false
      let isPlain (e : OpenElement) := !e.isIn special
      let between := (inside.reverse.takeWhile isPlain).reverse
      match (inside.reverse.dropWhile isPlain), outer with
      | block :: inner, ancestor :: _ =>
        set (adopt b subject inner.reverse block between ancestor outer)
        return true
      | _, _ =>
        set { b with stack := outer, formatting := dropFormatting subject.1 b.formatting }
        return false

/-- At most `n` rounds of the adoption agency. -/
def adoptionRounds (name : String) : (n : Nat) → Build Unit
  | 0 => pure ()
  | n + 1 => do if ← adoptionRound name then adoptionRounds name n

/-- Deals with the end tag of a formatting element. -/
def adoptionAgency (name : String) : Build Unit := do
  let b ← get
  let unlisted := b.stack.head?.any fun e =>
    e.is name && !b.formatting.any (Formatting.isFor e.id)
  if unlisted then pop else adoptionRounds name 8

end DocQuery.Html.Construction
