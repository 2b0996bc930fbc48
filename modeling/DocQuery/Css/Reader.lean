import DocQuery.Css.Error
import DocQuery.Css.Selector
/-! Reading selectors.

    List     := Selector (',' Selector)*
    Selector := Compound (Combinator Compound)*
    Compound := Type? Simple*

Commas divide a list before its parts are read, so the first error is that of the first part that
has one.  What stands in the parentheses of a function is read by the function that reads lists,
which `readCompound` and the readers below it take as an argument: the text in parentheses has
fewer tokens than the text around it. -/

namespace DocQuery.Css

open Token

/-- Reading stops at the first error. -/
abbrev Reading : Type → Type := Except SelectorError

/-- A value with tokens that come later. -/
abbrev Ahead (f : Forest Token) (α : Type) : Type :=
  { r : α × Forest Token // r.2.size < f.size }

/-- A value with tokens that do not come earlier. -/
abbrev NotBehind (f : Forest Token) (α : Type) : Type :=
  { r : α × Forest Token // r.2.size ≤ f.size }

/-- Where a selector stands. -/
structure Place where
  inFunction : Bool := false
  inHas : Bool := false
  inHost : Bool := false

/-- How the parts of a list are read. -/
inductive ListKind where
  | strict
  /-- The whole list is one part. -/
  | single
  /-- A part with an error is left out. -/
  | forgiving
  /-- A part may start with a combinator. -/
  | relative

/-- The tokens after blanks. -/
def skipBlanks : (f : Forest Token) → { r : Forest Token // r.size ≤ f.size }
  | .cons (.blank _) children rest =>
    let ⟨r, h⟩ := skipBlanks rest
    ⟨r, by simp only [Forest.size_cons]; omega⟩
  | f => ⟨f, Nat.le_refl _⟩

/-- Checks that only blanks are left. -/
def expectEnd (f : Forest Token) : Reading Unit :=
  match (skipBlanks f).val with
  | .nil => .ok ()
  | .cons t _ _ => .error (.unexpectedToken t)

/-! ### Positions -/

/-- The integer after the letter and the hyphen of `n-12`. -/
def dashedOffset? (name : String) : Option Int :=
  match name.toList with
  | n :: '-' :: d :: ds =>
    if (n = 'n' ∨ n = 'N') ∧ (d :: ds).all Char.isDigit then
      let digits : Nat := (d :: ds).foldl (fun n c => 10 * n + (c.toNat - 48)) 0
      some (Numeral.clampInteger (-(digits : Int)))
    else none
  | _ => none

/-- Reads an offset without sign. -/
def readUnsignedOffset (sign : Int) (f : Forest Token) : Reading (Int × Forest Token) :=
  match (skipBlanks f).val with
  | .nil => .error .endOfText
  | .cons (.number n) _ rest =>
    match n.signed, n.integer with
    | false, some b => .ok (sign * b, rest)
    | _, _ => .error (.unexpectedToken (.number n))
  | .cons t _ _ => .error (.unexpectedToken t)

/-- Reads an offset with its sign, if there is one. -/
def readOffset (f : Forest Token) : Reading (Int × Forest Token) :=
  match (skipBlanks f).val with
  | .cons (.delim '+') _ rest => readUnsignedOffset 1 rest
  | .cons (.delim '-') _ rest => readUnsignedOffset (-1) rest
  | .cons (.number n) _ rest =>
    match n.signed, n.integer with
    | true, some b => .ok (b, rest)
    | _, _ => .ok (0, f)
  | _ => .ok (0, f)

/-- Reads what follows a step, whose unit was the end of a written name. -/
def readAfterStep (step : Int) (unit written : String) (f : Forest Token) :
    Reading ((Int × Int) × Forest Token) :=
  let name := unit.toLower
  if name == "n" then do
    let (b, rest) ← readOffset f
    return ((step, b), rest)
  else if name == "n-" then do
    let (b, rest) ← readUnsignedOffset (-1) f
    return ((step, b), rest)
  else match dashedOffset? unit with
    | some b => .ok ((step, b), f)
    | none => .error (.unexpectedToken (.ident written))

/-- Reads step and offset. -/
def readSteps (f : Forest Token) : Reading ((Int × Int) × Forest Token) :=
  match (skipBlanks f).val with
  | .nil => .error .endOfText
  | .cons (.number n) _ rest =>
    match n.integer with
    | some b => .ok ((0, b), rest)
    | none => .error (.unexpectedToken (.number n))
  | .cons (.dimension n unit) _ rest =>
    match n.integer with
    | some a => readAfterStep a unit unit rest
    | none => .error (.unexpectedToken (.dimension n unit))
  | .cons (.ident name) _ rest =>
    if name.toLower == "even" then .ok ((2, 0), rest)
    else if name.toLower == "odd" then .ok ((2, 1), rest)
    else match name.toList with
      | '-' :: unit => readAfterStep (-1) (String.ofList unit) name rest
      | _ => readAfterStep 1 name name rest
  | .cons (.delim '+') _ .nil => .error .endOfText
  | .cons (.delim '+') _ (.cons (.ident name) _ rest) => readAfterStep 1 name name rest
  | .cons (.delim '+') _ (.cons t _ _) => .error (.unexpectedToken t)
  | .cons t _ _ => .error (.unexpectedToken t)

/-- Reads the positions in the parentheses of a function. -/
def readPositions (fromEnd ofType : Bool) (f : Forest Token) : Reading Simple := do
  let ((step, offset), rest) ← readSteps f
  expectEnd rest
  return .position { fromEnd, ofType, step, offset }

/-! ### Attributes -/

/-- Attributes of HTML whose values are compared without regard to case. -/
def caselessAttributes : List String :=
  ["accept", "accept-charset", "align", "alink", "axis", "bgcolor", "charset", "checked", "clear",
    "codetype", "color", "compact", "declare", "defer", "dir", "direction", "disabled", "enctype",
    "face", "frame", "hreflang", "http-equiv", "lang", "language", "link", "media", "method",
    "multiple", "nohref", "noresize", "noshade", "nowrap", "readonly", "rel", "rev", "rules",
    "scope", "scrolling", "selected", "shape", "target", "text", "type", "valign", "valuetype",
    "vlink"]

/-- Reads the name of an attribute, and whether it may be in any namespace. -/
def readAttributeName (f : Forest Token) : Reading ((Bool × String) × Forest Token) :=
  match f with
  | .nil => .error .endOfText
  | .cons (.ident name) _ (.cons (.delim '|') _ _) => .error (.unknownSpace name)
  | .cons (.ident name) _ rest => .ok ((false, name), rest)
  | .cons (.delim '*') _ (.cons (.delim '|') _ rest) => afterBar true rest
  | .cons (.delim '*') _ (.cons t _ _) => .error (.attributeWithoutBar t)
  | .cons (.delim '*') _ .nil => .error .endOfText
  | .cons (.delim '|') _ rest => afterBar false rest
  | .cons t _ _ => .error (.attributeWithoutName t)
where
  /-- Reads the name after a namespace. -/
  afterBar (anySpace : Bool) : Forest Token → Reading ((Bool × String) × Forest Token)
    | .nil => .error .endOfText
    | .cons (.ident name) _ rest => .ok ((anySpace, name), rest)
    | .cons t _ _ => .error (.attributeSpaceWithoutName t)

/-- The operator that a token is. -/
def attributeOperator? : Token → Option AttributeOperator
  | .delim '=' => some .equal
  | .includes => some .includes
  | .dashMatch => some .dashMatch
  | .startsWith => some .startsWith
  | .endsWith => some .endsWith
  | .substring => some .substring
  | _ => none

/-- Reads whether the case of letters counts, if that is said. -/
def readCaseFlag (f : Forest Token) : Reading (Option CaseRule × Forest Token) :=
  match (skipBlanks f).val with
  | .nil => .ok (none, .nil)
  | .cons (.ident name) _ rest =>
    if name.toLower == "i" then .ok (some .ignored, rest)
    else if name.toLower == "s" then .ok (some .exact, rest)
    else .error (.unexpectedToken (.ident name))
  | .cons t _ _ => .error (.unexpectedToken t)

/-- Reads the value of an attribute after its operator. -/
def readAttributeValue (anySpace : Bool) (name : String) (operator : AttributeOperator)
    (f : Forest Token) : Reading Simple := do
  let (value, rest) ← match (skipBlanks f).val with
    | .nil => .error .endOfText
    | .cons (.ident value) _ rest | .cons (.string value) _ rest => .ok (value, rest)
    | .cons t _ _ => .error (.attributeValue t)
  let (flag, rest) ← readCaseFlag rest
  expectEnd rest
  let byName : CaseRule :=
    if !anySpace && caselessAttributes.contains name.toLower then .ignoredInHtml else .exact
  return .attribute
    { anySpace, name, value := some { operator, value, caseRule := flag.getD byName } }

/-- Reads the test of an attribute in its brackets. -/
def readAttribute (f : Forest Token) : Reading Simple := do
  let ((anySpace, name), rest) ← readAttributeName (skipBlanks f).val
  match (skipBlanks rest).val with
  | .nil => return .attribute { anySpace, name, value := none }
  | .cons t _ rest =>
    match attributeOperator? t with
    | some operator => readAttributeValue anySpace name operator rest
    | none => .error (.attributeOperator t)

/-! ### Compounds -/

/-- Elements that style sheets make up and that may be written with one colon. -/
def isOldPseudoElement (name : String) : Bool :=
  ["before", "after", "first-line", "first-letter"].contains name.toLower

/-- The tests that a name after one colon stands for. -/
def pseudoClass? (name : String) : Option (List Simple) :=
  let first (fromEnd ofType : Bool) : Simple :=
    .position { fromEnd, ofType, step := 0, offset := 1 }
  match name.toLower with
  | "first-child" => some [first false false]
  | "last-child" => some [first true false]
  | "only-child" => some [first false false, first true false]
  | "first-of-type" => some [first false true]
  | "last-of-type" => some [first true true]
  | "only-of-type" => some [first false true, first true true]
  | "root" => some [.root]
  | "empty" => some [.empty]
  | "scope" => some [.scope]
  | _ => none

/-- Reads the lists that stand in functions of a text of at most `n` tokens. -/
abbrev ReadInner (n : Nat) : Type :=
  ListKind → Place → (f : Forest Token) → f.size < n → Reading (List Selector)

/-- Reads what stands in the parentheses of a function. -/
def readFunction {n : Nat} (inner : ReadInner n) (place : Place) (name : String)
    (f : Forest Token) (h : f.size < n) : Reading Simple :=
  let inside := { place with inFunction := true }
  match name.toLower with
  | "nth-child" => readPositions false false f
  | "nth-of-type" => readPositions false true f
  | "nth-last-child" => readPositions true false f
  | "nth-last-of-type" => readPositions true true f
  | "is" | "where" => Simple.is <$> inner .forgiving inside f h
  | "not" => Simple.not <$> inner .strict inside f h
  | "has" =>
    if place.inHas then .error .misplaced
    else Simple.has <$> inner .relative { inside with inHas := true } f h
  | "host" => (fun _ => .host) <$> inner .single { inside with inHost := true } f h
  | _ => .error (.unknownPseudo name)

/-- Error of an element that style sheets make up. -/
def pseudoElementError (place : Place) (name : String) : SelectorError :=
  if place.inFunction then .misplaced else .unknownPseudo name

/-- Where the reading of a selector stopped: its error, and the tokens that were not looked at. -/
structure Stop where
  error : SelectorError
  rest : Forest Token

/-- Reading that tells where it stopped. -/
abbrev Taking : Type → Type := Except Stop

/-- Reads what stands in brackets before the tokens `rest`. -/
def stopBefore {α : Type} (rest : Forest Token) (r : Reading α) : Taking α :=
  r.mapError (⟨·, rest⟩)

/-- Reads what follows a colon. -/
def readPseudo {n : Nat} (inner : ReadInner n) (place : Place) (f : Forest Token)
    (h : f.size ≤ n) : Taking (NotBehind f (List Simple)) :=
  match f with
  | .nil => .error ⟨.endOfText, .nil⟩
  | .cons .colon _ .nil => .error ⟨.endOfText, .nil⟩
  | .cons .colon _ (.cons (.ident name) _ rest) => .error ⟨pseudoElementError place name, rest⟩
  | .cons .colon _ (.cons (.function name) _ rest) => .error ⟨pseudoElementError place name, rest⟩
  | .cons .colon _ (.cons t _ rest) => .error ⟨.pseudoWithoutName t, rest⟩
  | .cons (.ident name) _ rest =>
    if isOldPseudoElement name then .error ⟨pseudoElementError place name, rest⟩
    else match pseudoClass? name with
      | some tests => .ok ⟨(tests, rest), by simp⟩
      | none => .error ⟨.unknownPseudo name, rest⟩
  | .cons (.function name) content rest =>
    if isOldPseudoElement name then .error ⟨pseudoElementError place name, rest⟩
    else do
      let test ← stopBefore rest (readFunction inner place name content (by simp at h; omega))
      return ⟨([test], rest), by simp⟩
  | .cons t _ rest => .error ⟨.pseudoWithoutName t, rest⟩

/-- Reads the tests that one piece of a compound stands for, if there is one. -/
def readSimple {n : Nat} (inner : ReadInner n) (place : Place) (f : Forest Token)
    (h : f.size ≤ n) : Taking (Option (Ahead f (List Simple))) :=
  match f with
  | .cons (.hash id true) _ rest =>
    .ok (some ⟨([.id id], rest), by simp only [Forest.size_cons]; omega⟩)
  | .cons (.delim '.') _ (.cons (.ident name) _ rest) =>
    .ok (some ⟨([.class name], rest), by simp only [Forest.size_cons]; omega⟩)
  | .cons (.delim '.') _ .nil => .error ⟨.endOfText, .nil⟩
  | .cons (.delim '.') _ (.cons t _ rest) => .error ⟨.classWithoutName t, rest⟩
  | .cons (.opening .square) content rest => do
    let test ← stopBefore rest (readAttribute content)
    return some ⟨([test], rest), by simp only [Forest.size_cons]; omega⟩
  | .cons .colon _ rest => do
    let ⟨(tests, rest'), h'⟩ ← readPseudo inner place rest (by simp at h; omega)
    return some ⟨(tests, rest'), by simp at h' ⊢; omega⟩
  | _ => .ok none

/-- Reads the name of an element after its namespace.  Nothing is read at the end of the text. -/
def readTypeAfterBar (tests : List Simple) (f : Forest Token) :
    Taking (NotBehind f (List Simple)) :=
  match f with
  | .nil => .ok ⟨([], .nil), Nat.le_refl _⟩
  | .cons (.delim '*') _ rest => .ok ⟨(tests ++ [.universal], rest), by simp⟩
  | .cons (.ident name) _ rest => .ok ⟨(tests ++ [.name name], rest), by simp⟩
  | .cons t _ rest => .error ⟨.spaceWithoutName t, rest⟩

/-- Reads the name at the start of a compound, if there is one. -/
def readType (f : Forest Token) : Taking (NotBehind f (List Simple)) :=
  match f with
  | .cons (.ident name) _ (.cons (.delim '|') _ rest) => .error ⟨.unknownSpace name, rest⟩
  | .cons (.ident name) _ rest => .ok ⟨([.name name], rest), by simp⟩
  | .cons (.delim '*') _ (.cons (.delim '|') _ rest) => do
    let ⟨r, h⟩ ← readTypeAfterBar [] rest
    return ⟨r, by simp only [Forest.size_cons]; omega⟩
  | .cons (.delim '*') _ rest => .ok ⟨([.universal], rest), by simp⟩
  | .cons (.delim '|') _ rest => do
    let ⟨r, h⟩ ← readTypeAfterBar [.noSpace] rest
    return ⟨r, by simp only [Forest.size_cons]; omega⟩
  | f => .ok ⟨([], f), Nat.le_refl _⟩

/-- Reads the pieces of a compound after its name. -/
def readSimples {n : Nat} (inner : ReadInner n) (place : Place) (tests : List Simple)
    (f : Forest Token) (h : f.size ≤ n) : Taking (NotBehind f (List Simple)) := do
  match ← readSimple inner place f h with
  | none => return ⟨(tests, f), Nat.le_refl _⟩
  | some ⟨(more, rest), h'⟩ =>
    let ⟨r, h''⟩ ← readSimples inner place (tests ++ more) rest (by simp at h'; omega)
    return ⟨r, by simp at h'; omega⟩
termination_by f.size

/-- Reads a compound after blanks; one without tests is none. -/
def readCompound {n : Nat} (inner : ReadInner n) (place : Place) (f : Forest Token)
    (h : f.size ≤ n) : Taking (NotBehind f (List Simple)) := do
  let ⟨f', h'⟩ := skipBlanks f
  let ⟨(tests, rest), h''⟩ ← readType f'
  let ⟨r, h'''⟩ ← readSimples inner place tests rest (by simp at h''; omega)
  return ⟨r, by simp at h''; omega⟩

/-! ### Selectors -/

/-- Reads a combinator, if there is one.  Blanks before a compound are one. -/
def readCombinator (f : Forest Token) : Option (Ahead f Combinator) :=
  match f with
  | .cons (.delim '>') _ rest => some ⟨(.child, rest), by simp only [Forest.size_cons]; omega⟩
  | .cons (.delim '+') _ rest => some ⟨(.nextSibling, rest), by simp only [Forest.size_cons]; omega⟩
  | .cons (.delim '~') _ rest =>
    some ⟨(.laterSibling, rest), by simp only [Forest.size_cons]; omega⟩
  | .cons (.blank _) _ rest =>
    match skipBlanks rest with
    | ⟨.nil, _⟩ => none
    | ⟨.cons (.delim '>') _ rest', h⟩ => some ⟨(.child, rest'), by simp at h ⊢; omega⟩
    | ⟨.cons (.delim '+') _ rest', h⟩ => some ⟨(.nextSibling, rest'), by simp at h ⊢; omega⟩
    | ⟨.cons (.delim '~') _ rest', h⟩ => some ⟨(.laterSibling, rest'), by simp at h ⊢; omega⟩
    | ⟨rest', h⟩ => some ⟨(.descendant, rest'), by simp only [Forest.size_cons]; omega⟩
  | _ => none

/-- Reads compounds up to the end; `left` stands before them with its combinator. -/
def readCompounds {n : Nat} (inner : ReadInner n) (place : Place)
    (left : Option (Selector × Combinator)) (f : Forest Token) (h : f.size ≤ n) :
    Taking Selector := do
  let ⟨(tests, rest), h'⟩ ← readCompound inner place f h
  if tests.isEmpty then
    .error ⟨if left.isSome then .danglingCombinator else .emptySelector, rest⟩
  else
    let selector := match left with
      | none => .simple tests
      | some (left, combinator) => .combined left combinator tests
    match readCombinator rest with
    | some ⟨(combinator, rest'), h''⟩ =>
      if place.inHost then .error ⟨.misplaced, rest'⟩
      else
        readCompounds inner place (some (selector, combinator)) rest'
          (by simp at h' h''; omega)
    | none => do
      stopBefore rest (expectEnd rest)
      return selector
termination_by f.size
decreasing_by simp at h' h''; omega

/-- Reads a part of a list.  A relative selector starts with an element of which it is not said
what it is, and with a combinator. -/
def readPart {n : Nat} (inner : ReadInner n) (kind : ListKind) (place : Place)
    (f : Forest Token) (h : f.size ≤ n) : Taking Selector :=
  match kind with
  | .relative =>
    let ⟨f', h'⟩ := skipBlanks f
    match readCombinator f' with
    | some ⟨(combinator, rest), h''⟩ =>
      readCompounds inner place (some (.simple [.anchor], combinator)) rest
        (by simp at h''; omega)
    | none => readCompounds inner place (some (.simple [.anchor], .descendant)) f' (by omega)
  | _ => readCompounds inner place none f h

/-- A token that is no part of any text that is well formed. -/
def isBroken : Token → Bool
  | .brokenString _ | .brokenUrl _ | .closing _ => true
  | _ => false

/-- The first broken token. -/
def findBroken? (f : Forest Token) : Option Token :=
  f.labels.find? isBroken

/-- The parts of a list between its commas, none of them longer than the list. -/
def commaParts (f : Forest Token) : List { p : Forest Token // p.size ≤ f.size } :=
  match f with
  | .nil => [⟨.nil, Nat.le_refl _⟩]
  | .cons t children rest =>
    let later (p : { p : Forest Token // p.size ≤ rest.size }) :
        { p : Forest Token // p.size ≤ (Forest.cons t children rest).size } :=
      ⟨p.val, by have := p.property; simp; omega⟩
    if t = .comma then ⟨.nil, by simp⟩ :: (commaParts rest).map later
    else
      match commaParts rest with
      | [] => []
      | p :: ps =>
        ⟨.cons t children p.val, by have := p.property; simp; omega⟩ :: ps.map later

/-- Reads a list.  A part with an error is only left out if nothing after the error is broken. -/
def readList (kind : ListKind) (place : Place) (f : Forest Token) : Reading (List Selector) :=
  let parts : List { p : Forest Token // p.size ≤ f.size } := match kind with
    | .single => [⟨f, Nat.le_refl _⟩]
    | _ => commaParts f
  parts.foldlM (fun selectors part => do
    let read := readPart (fun kind place f' _ => readList kind place f') kind place part.val
      part.property
    match kind, read with
    | .forgiving, .error stop =>
      match findBroken? stop.rest with
      | some t => .error (.unexpectedToken t)
      | none => return selectors
    | _, .error stop => .error stop.error
    | _, .ok selector => return selectors ++ [selector]) []
termination_by f.size

/-- Reads the selectors of a text. -/
def readSelectors (text : String) : Reading (List Selector) :=
  readList .strict {} (Token.nest (Token.scan text))

end DocQuery.Css
