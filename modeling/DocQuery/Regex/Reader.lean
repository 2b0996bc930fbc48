import DocQuery.Regex.Error
import DocQuery.Text.Blank
import DocQuery.Unicode.Derived
/-! Reading a pattern.  The reader is a position in the pattern with what was met so far: whether
blanks and comments are skipped, and the groups.  Every loop takes a character in each round, so a
bound by the length of the pattern is never met; the first error ends the reading. -/

namespace DocQuery.Regex

/-- A place in a pattern, with what was met before it. -/
structure Reader where
  rest : List Char
  offset : Nat := 0
  ignoreBlank : Bool := false
  groups : Nat := 0
  names : List (String × Span) := []

/-- Reading a part of a pattern. -/
abbrev Read : Type → Type := StateT Reader (Except Fault)

namespace Reader

/-- Fails with a problem at a place. -/
def fail (problem : Problem) (start stop : Nat) : Read α :=
  throw { problem, span := ⟨start, stop⟩ }

/-- The next character. -/
def peek? : Read (Option Char) := return (← get).rest.head?

/-- Number of characters read. -/
def offset? : Read Nat := return (← get).offset

/-- Moves forward. -/
def drop (n : Nat) : Read Unit :=
  modify fun r => { r with rest := r.rest.drop n, offset := r.offset + min n r.rest.length }

/-- Number of characters of the blanks and comments at the start. -/
def blankLength (inComment : Bool) : List Char → Nat
  | [] => 0
  | c :: cs =>
    if inComment then 1 + blankLength (c != '\n') cs
    else if Text.isBlank c then 1 + blankLength false cs
    else if c = '#' then 1 + blankLength true cs
    else 0

/-- Moves over blanks and comments where they do not count. -/
def skipBlank : Read Unit := do
  if (← get).ignoreBlank then drop (blankLength false (← get).rest)

/-- Moves over a character and the blanks after it. -/
def bump : Read Unit := do
  drop 1
  skipBlank

/-- Takes a text that stands next. -/
def take? (text : String) : Read Bool := do
  if text.toList.isPrefixOf (← get).rest then
    drop text.length
    return true
  else return false

/-- The first character that is no blank, one number sign apart. -/
def firstSolid? (hashAllowed : Bool) : List Char → Option Char
  | [] => none
  | c :: cs =>
    if Text.isBlank c then firstSolid? hashAllowed cs
    else if hashAllowed && c == '#' then firstSolid? false cs
    else some c

/-- The character after the next one.  Where blanks do not count, it is the first solid one, if
there is any; what stands in a comment counts. -/
def peekAfter? : Read (Option Char) := do
  let r ← get
  let cs := r.rest.drop 1
  return if r.ignoreBlank then (firstSolid? true cs).or cs.head? else cs.head?

/-! ### Escapes -/

/-- Characters with a meaning of their own. -/
def isMeta (c : Char) : Bool := "\\.+*?()|[]\x7b\x7d^$#&-~".toList.contains c

/-- Characters that may stand after a backslash for themselves. -/
def isEscapable (c : Char) : Bool :=
  isMeta c || (c.toNat < 0x80 && !c.isAlphanum && c != '<' && c != '>')

def hexDigit? (c : Char) : Option Nat :=
  if c.isDigit then some (c.toNat - 48)
  else if 'a' ≤ c ∧ c ≤ 'f' then some (c.toNat - 87)
  else if 'A' ≤ c ∧ c ≤ 'F' then some (c.toNat - 55)
  else none

/-- The character of a number, if there is one. -/
def charOf? (n : Nat) : Option Char :=
  if h : n.isValidChar then some (Char.ofNatAux n h) else none

/-- Reads `count` hexadecimal digits. -/
def readHexDigits : (count : Nat) → (value : Nat) → Read Nat
  | 0, value => return value
  | count + 1, value => do
    let at? ← offset?
    match ← peek? with
    | none => fail .escapeAtEnd at? at?
    | some c =>
      match hexDigit? c with
      | none => fail .hexDigit at? (at? + 1)
      | some d =>
        bump
        readHexDigits count (16 * value + d)

/-- Reads hexadecimal digits up to a closing brace.  A value beyond all characters stays beyond. -/
def readBracedDigits (open? : Nat) : (fuel : Nat) → (count value : Nat) → Read (Nat × Nat)
  | 0, count, value => return (count, value)
  | fuel + 1, count, value => do
    let at? ← offset?
    match ← peek? with
    | none => fail .escapeAtEnd open? at?
    | some '\x7d' => return (count, value)
    | some c =>
      match hexDigit? c with
      | none => fail .hexDigit at? (at? + 1)
      | some d =>
        bump
        readBracedDigits open? fuel (count + 1) (min (16 * value + d) 0x110000)

/-- Reads a character by its number, after the letter that announces `digits` digits. -/
def readHex (start : Nat) (digits : Nat) : Read Literal := do
  bump
  let first ← offset?
  match ← peek? with
  | none => fail .escapeAtEnd first first
  | some '\x7b' =>
    bump
    let (count, value) ← readBracedDigits first (← get).rest.length.succ 0 0
    let last ← offset?
    bump
    if count = 0 then fail .hexEmpty first (← offset?)
    match charOf? value with
    | none => fail .hexInvalid (first + 1) last
    | some char => return { char, span := ⟨start, ← offset?⟩ }
  | some _ =>
    let value ← readHexDigits digits 0
    match charOf? value with
    | none => fail .hexInvalid first (← offset?)
    | some char => return { char, byteForm := digits = 2, span := ⟨start, ← offset?⟩ }

/-- Reads the name of a class up to the closing brace. -/
def readBracedName : (fuel : Nat) → List Char → Read String
  | 0, name => return String.ofList name.reverse
  | fuel + 1, name => do
    match ← peek? with
    | none => fail .escapeAtEnd (← offset?) (← offset?)
    | some '\x7d' =>
      drop 1
      return String.ofList name.reverse
    | some c =>
      bump
      readBracedName fuel (c :: name)

/-- The two sides of the first occurrence of a mark. -/
def splitAt? (mark : List Char) (before : List Char) : List Char → Option (String × String)
  | [] => none
  | c :: cs =>
    if mark.isPrefixOf (c :: cs) then
      some (String.ofList before.reverse, String.ofList ((c :: cs).drop mark.length))
    else splitAt? mark (c :: before) cs

/-- The class that a name between braces means, and whether it is its complement. -/
def classNameOf (name : String) : Bool × ClassName :=
  match splitAt? "!=".toList [] name.toList with
  | some (p, v) => (true, .valued p v)
  | none =>
    match splitAt? ":".toList [] name.toList with
    | some (p, v) => (false, .valued p v)
    | none =>
      match splitAt? "=".toList [] name.toList with
      | some (p, v) => (false, .valued p v)
      | none => (false, .single name)

/-- Reads a class of Unicode after its backslash. -/
def readUnicodeClass (start : Nat) (negated : Bool) : Read SetItem := do
  bump
  match ← peek? with
  | none => fail .escapeAtEnd (← offset?) (← offset?)
  | some '\x7b' =>
    bump
    let (opposite, name) := classNameOf (← readBracedName (← get).rest.length.succ [])
    return .named (negated != opposite) name ⟨start, ← offset?⟩
  | some '\\' => fail .unicodeClass (← offset?) ((← offset?) + 1)
  | some c =>
    bump
    return .named negated (.single (String.ofList [c])) ⟨start, ← offset?⟩

/-- The class of a letter, and whether the letter means its complement. -/
def letterClass? : Char → Option (Bool × LetterClass)
  | 'd' => some (false, .digit)
  | 's' => some (false, .space)
  | 'w' => some (false, .word)
  | 'D' => some (true, .digit)
  | 'S' => some (true, .space)
  | 'W' => some (true, .word)
  | _ => none

/-- The character that a letter after a backslash stands for. -/
def controlOf? : Char → Option Char
  | 'a' => some '\x07'
  | 'f' => some '\x0c'
  | 't' => some '\t'
  | 'n' => some '\n'
  | 'r' => some '\r'
  | 'v' => some '\x0b'
  | _ => none

/-- Letters in the names of word boundaries. -/
def isBoundaryChar (c : Char) : Bool := c.isAlpha || c == '-'

/-- Reads the letters of the name of a word boundary. -/
def readBoundaryName : (fuel : Nat) → List Char → Read String
  | 0, name => return String.ofList name.reverse
  | fuel + 1, name => do
    match ← peek? with
    | some c =>
      if isBoundaryChar c then
        bump
        readBoundaryName fuel (c :: name)
      else return String.ofList name.reverse
    | none => return String.ofList name.reverse

/-- Reads what kind of word boundary is meant, if braces follow that do not count repetitions. -/
def readBoundary (start : Nat) : Read Assertion := do
  let before ← get
  if before.rest.head? != some '\x7b' then return .wordBoundary
  bump
  match ← peek? with
  | none => fail .boundaryAtEnd start (← offset?)
  | some c =>
    if !isBoundaryChar c then
      set before
      return .wordBoundary
    let first ← offset?
    let name ← readBoundaryName before.rest.length []
    let last ← offset?
    if (← peek?) != some '\x7d' then fail .boundaryUnclosed before.offset last
    drop 1
    match name with
    | "start" => return .wordStart
    | "end" => return .wordEnd
    | "start-half" => return .wordStartHalf
    | "end-half" => return .wordEndHalf
    | _ => fail .unknownBoundary first last

/-- Something that stands for itself, for a set or for a place. -/
inductive Primitive where
  | literal (l : Literal)
  | item (i : SetItem)
  | assertion (a : Assertion) (span : Span)

/-- Reads an escape. -/
def readEscape : Read Primitive := do
  let start ← offset?
  drop 1
  match ← peek? with
  | none => fail .escapeAtEnd start (← offset?)
  | some c =>
    if c.isDigit then fail .backreference start (start + 2)
    if c = 'x' then return .literal (← readHex start 2)
    if c = 'u' then return .literal (← readHex start 4)
    if c = 'U' then return .literal (← readHex start 8)
    if c = 'p' then return .item (← readUnicodeClass start false)
    if c = 'P' then return .item (← readUnicodeClass start true)
    drop 1
    let span : Span := ⟨start, start + 2⟩
    match letterClass? c with
    | some (negated, letter) => return .item (.letter negated letter span)
    | none =>
      if isEscapable c then return .literal { char := c, span }
      match controlOf? c with
      | some char => return .literal { char, span }
      | none =>
        match c with
        | 'A' => return .assertion .textStart span
        | 'z' => return .assertion .textEnd span
        | 'b' =>
          let a ← readBoundary start
          return .assertion a ⟨start, ← offset?⟩
        | 'B' => return .assertion .notWordBoundary span
        | '<' => return .assertion .wordStart span
        | '>' => return .assertion .wordEnd span
        | _ => fail .unknownEscape start (start + 2)

/-! ### Sets -/

/-- Reads a member of a set or an end of a range. -/
def readSetPrimitive (c : Char) : Read Primitive := do
  if c = '\\' then readEscape
  else
    let start ← offset?
    drop 1
    return .literal { char := c, span := ⟨start, start + 1⟩ }

/-- A member of a set. -/
def memberOf : Primitive → Read SetItem
  | .literal l => return .literal l
  | .item i => return i
  | .assertion _ span => fail .classEscape span.start span.stop

/-- Place of a primitive. -/
def Primitive.span : Primitive → Span
  | .literal l => l.span
  | .item i => i.span
  | .assertion _ span => span

/-- An end of a range. -/
def endOf : Primitive → Read Literal
  | .literal l => return l
  | p => fail .classRangeEnd p.span.start p.span.stop

/-- Reads a member or a range of a set whose opening was `opening`. -/
def readSetRange (opening : Span) (c : Char) : Read SetItem := do
  let first ← readSetPrimitive c
  skipBlank
  match ← peek? with
  | none => fail .classUnclosed opening.start opening.stop
  | some '-' =>
    let after ← peekAfter?
    if after == some ']' || after == some '-' then memberOf first
    else
      bump
      match ← peek? with
      | none => fail .classUnclosed opening.start opening.stop
      | some c =>
        let last ← readSetPrimitive c
        let low ← endOf first
        let high ← endOf last
        if high.char < low.char then fail .classRange low.span.start high.span.stop
        return .range low high
  | some _ => memberOf first

/-- Names of the classes of ASCII. -/
def asciiNames : List String :=
  ["alnum", "alpha", "ascii", "blank", "cntrl", "digit", "graph", "lower", "print", "punct",
    "space", "upper", "word", "xdigit"]

/-- A class of ASCII between its own brackets: whether it is negated, its name and its length. -/
def asciiClass? (cs : List Char) : Option (Bool × String × Nat) :=
  match cs with
  | '[' :: ':' :: rest =>
    let (negated, rest') := match rest with
      | '^' :: rest' => (true, rest')
      | rest' => (false, rest')
    let name := String.ofList (rest'.takeWhile (· != ':'))
    let after := rest'.dropWhile (· != ':')
    if asciiNames.contains name ∧ [':', ']'].isPrefixOf after then
      some (negated, name, cs.length - after.length + 2)
    else none
  | _ => none

/-- Reads hyphens at the start of a set, which stand for themselves. -/
def readHyphens (start : Nat) : (fuel : Nat) → List SetItem → Read (List SetItem)
  | 0, items => return items
  | fuel + 1, items => do
    if (← peek?) == some '-' then
      let at? ← offset?
      bump
      if (← peek?).isNone then fail .classUnclosed start start
      readHyphens start fuel (.literal { char := '-', span := ⟨at?, at? + 1⟩ } :: items)
    else return items

/-- Reads the opening of a set: whether its complement is meant, where the members start, and the
members, last first, that could not stand elsewhere. -/
def readSetOpening : Read (Bool × Nat × List SetItem) := do
  let start ← offset?
  bump
  if (← peek?).isNone then fail .classUnclosed start (← offset?)
  let negated := (← peek?) == some '^'
  if negated then
    bump
    if (← peek?).isNone then fail .classUnclosed start (← offset?)
  let place ← offset?
  let items ← readHyphens start (← get).rest.length []
  if items.isEmpty && (← peek?) == some ']' then
    let at? ← offset?
    bump
    if (← peek?).isNone then fail .classUnclosed start (← offset?)
    return (negated, place, [.literal { char := ']', span := ⟨at?, at? + 1⟩ }])
  return (negated, place, items)

/-- The operator that two equal characters are. -/
def setOperator? : List Char → Option SetOperator
  | '&' :: '&' :: _ => some .intersection
  | '-' :: '-' :: _ => some .difference
  | '~' :: '~' :: _ => some .symmetricDifference
  | _ => none

/-- The set before an operator together with the members after it, which are given last first and
start at a place. -/
def applySetOperator (left : Option (SetOperator × SetExpr)) (place : Nat) (items : List SetItem) :
    SetExpr :=
  let right : SetExpr := .union items.reverse ⟨place, place⟩
  match left with
  | none => right
  | some (operator, l) => .operation operator l right

/-- Reads a set up to its closing bracket; `items` are its last members, last first, which start at
`place`, and `left` is what stands before them with an operator. -/
def readSetBody : (fuel : Nat) → (place : Nat) → (opening : Span) →
    (left : Option (SetOperator × SetExpr)) → (items : List SetItem) → Read SetExpr
  | 0, place, _, left, items => return applySetOperator left place items
  | fuel + 1, place, opening, left, items => do
    skipBlank
    let r ← get
    match r.rest, setOperator? r.rest with
    | [], _ => fail .classUnclosed opening.start opening.stop
    | ']' :: _, _ =>
      drop 1
      return applySetOperator left place items
    | _, some operator =>
      drop 2
      let set := applySetOperator left place items
      readSetBody fuel (r.offset + 2) opening (some (operator, set)) []
    | '[' :: _, none =>
      match asciiClass? r.rest with
      | some (negated, name, length) =>
        drop length
        let span : Span := ⟨r.offset, r.offset + length⟩
        readSetBody fuel place opening left (.ascii negated name span :: items)
      | none =>
        let (negated, first, inner) ← readSetOpening
        let body ← readSetBody fuel first ⟨r.offset, ← offset?⟩ none inner
        let span : Span := ⟨r.offset, ← offset?⟩
        readSetBody fuel place opening left (.bracketed negated body span :: items)
    | c :: _, none =>
      let item ← readSetRange opening c
      readSetBody fuel place opening left (item :: items)

/-- Reads a set. -/
def readSet : Read SetItem := do
  let start ← offset?
  let (negated, place, first) ← readSetOpening
  let opening : Span := ⟨start, ← offset?⟩
  let body ← readSetBody (← get).rest.length.succ place opening none first
  return .bracketed negated body ⟨start, ← offset?⟩

/-! ### Repetitions -/

/-- Reads a question mark that makes a repetition lazy. -/
def readGreed : Read Bool := do
  if (← peek?) == some '?' then
    drop 1
    return false
  else return true

/-- Moves over blanks, which are allowed around numbers. -/
def skipNumberBlanks : Read Unit := do
  drop ((← get).rest.takeWhile Text.isBlank).length

/-- Reads digits, between which blanks may stand where they do not count. -/
def readDigits : (fuel : Nat) → List Char → Read (List Char)
  | 0, digits => return digits.reverse
  | fuel + 1, digits => do
    match ← peek? with
    | some c =>
      if c.isDigit then
        bump
        readDigits fuel (c :: digits)
      else return digits.reverse
    | none => return digits.reverse

/-- Reads a number below `2 ^ 32`.  That there is none is told apart from other errors. -/
def readDecimal : Read (Except Fault Nat) := do
  skipNumberBlanks
  let start ← offset?
  let digits ← readDigits (← get).rest.length []
  let stop ← offset?
  skipNumberBlanks
  let value := digits.foldl (fun n c => 10 * n + (c.toNat - 48)) 0
  if digits.isEmpty then return .error { problem := .countEmpty, span := ⟨start, stop⟩ }
  else if value < 0x100000000 then return .ok value
  else return .error { problem := .decimalInvalid, span := ⟨start, stop⟩ }

/-- The counts of a repetition: the least, and the greatest if there is one. -/
def readCounts (start : Nat) : Read (Nat × Option Nat) := do
  bump
  if (← peek?).isNone then fail .countUnclosed start (← offset?)
  let least ← readDecimal
  match ← peek? with
  | none => fail .countUnclosed start (← offset?)
  | some ',' =>
    bump
    match ← peek? with
    | none => fail .countUnclosed start (← offset?)
    | some '\x7d' => return (← liftExcept least, none)
    | some _ =>
      let low ← liftExcept least
      let high ← liftExcept (← readDecimal)
      return (low, some high)
  | some _ =>
    let n ← liftExcept least
    return (n, some n)
where
  /-- A number that has to be there. -/
  liftExcept : Except Fault Nat → Read Nat
    | .ok n => return n
    | .error f => throw f

/-- Puts a repetition in place of the last item, which has to be something that can be repeated. -/
def repeatLast (items : List Pattern) (read : Nat → Read (Nat × Option Nat × Bool)) :
    Read (List Pattern) := do
  let start ← offset?
  match items with
  | [] | .flags _ _ :: _ | .empty :: _ => fail .nothingToRepeat start start
  | p :: ps =>
    let (min, max, greedy) ← read start
    return .repetition min max greedy p ⟨p.span.start, ← offset?⟩ :: ps

/-- Reads a repetition that is written with one sign. -/
def readSign (min : Nat) (max : Option Nat) (_start : Nat) : Read (Nat × Option Nat × Bool) := do
  drop 1
  return (min, max, ← readGreed)

/-- Reads a repetition that is written with its counts. -/
def readCounted (start : Nat) : Read (Nat × Option Nat × Bool) := do
  let (min, max) ← readCounts start
  if (← peek?) != some '\x7d' then fail .countUnclosed start (← offset?)
  bump
  let greedy ← readGreed
  if max.any (· < min) then fail .countRange start (← offset?)
  return (min, max, greedy)

/-! ### Groups -/

/-- Letters in the sense of Unicode. -/
def isLetter (c : Char) : Bool :=
  c.isAlpha || (0x80 ≤ c.toNat && Unicode.everyLetter.contains c.toNat)

/-- Numbers in the sense of Unicode. -/
def isNumber (c : Char) : Bool :=
  c.isDigit || (0x80 ≤ c.toNat && Unicode.everyNumber.contains c.toNat)

/-- Characters of the name of a group. -/
def isNameChar (first : Bool) (c : Char) : Bool :=
  c == '_' || isLetter c || (!first && (c == '.' || c == '[' || c == ']' || isNumber c))

/-- Reads the characters of the name of a group. -/
def readNameChars : (fuel : Nat) → List Char → Read (List Char)
  | 0, name => return name.reverse
  | fuel + 1, name => do
    match ← peek? with
    | none => fail .nameAtEnd (← offset?) (← offset?)
    | some '>' => return name.reverse
    | some c =>
      if !isNameChar name.isEmpty c then fail .nameChar (← offset?) ((← offset?) + 1)
      drop 1
      readNameChars fuel (c :: name)

/-- Reads the name of a group. -/
def readName : Read Unit := do
  let start ← offset?
  let name ← readNameChars ((← get).rest.length + 1) []
  let span : Span := ⟨start, ← offset?⟩
  drop 1
  if name.isEmpty then fail .emptyName start start
  let name := String.ofList name
  match (← get).names.find? fun n => n.1 == name with
  | some (_, earlier) => throw { problem := .duplicateName, span, earlier := some earlier }
  | none => modify fun r => { r with names := (name, span) :: r.names }

/-- The flag of a letter. -/
def flagOf? : Char → Option Flag
  | 'i' => some .ignoreCase
  | 'm' => some .multiLine
  | 's' => some .dotAll
  | 'U' => some .swapGreed
  | 'u' => some .unicode
  | 'R' => some .crlf
  | 'x' => some .ignoreBlank
  | _ => none

/-- Reads a list of flags with the places where they stand, last first. -/
def readFlags : (fuel : Nat) → List (Option Flag × Nat) → Read FlagList
  | 0, items => return (items.map Prod.fst).reverse
  | fuel + 1, items => do
    let at? ← offset?
    match ← peek? with
    | none => fail .flagAtEnd at? at?
    | some c =>
      if c = ':' ∨ c = ')' then
        match items with
        | (none, place) :: _ => fail .danglingNegation place (place + 1)
        | _ => return (items.map Prod.fst).reverse
      let item ← if c = '-' then pure none else
        match flagOf? c with
        | some flag => pure (some flag)
        | none => fail .unknownFlag at? (at? + 1)
      match items.find? fun i => i.1 == item with
      | some (_, place) =>
        throw { problem := if item.isNone then .repeatedNegation else .duplicateFlag,
                span := ⟨at?, at? + 1⟩, earlier := some ⟨place, place + 1⟩ }
      | none =>
        drop 1
        readFlags fuel ((item, at?) :: items)

/-- The opening of a group. -/
inductive Opening where
  | flags (items : FlagList)
  | capture (index : Nat)
  | group (flags : FlagList)

/-- Takes the start of a look-around, if it stands next. -/
def takeLookAround? : Read Bool := do
  if ← take? "?=" then return true
  if ← take? "?!" then return true
  if ← take? "?<=" then return true
  take? "?<!"

/-- Takes the next number of a group. -/
def nextGroup : Read Nat := do
  modify fun r => { r with groups := r.groups + 1 }
  return (← get).groups

/-- Reads the opening of a group. -/
def readOpening : Read Opening := do
  let start ← offset?
  bump
  if ← takeLookAround? then fail .lookAround start (← offset?)
  let inner ← offset?
  if (← take? "?P<") || (← take? "?<") then
    let index ← nextGroup
    if (← peek?).isNone then fail .nameAtEnd (← offset?) (← offset?)
    readName
    return .capture index
  if ← take? "?" then
    if (← peek?).isNone then fail .groupUnclosed start (start + 1)
    let flags ← readFlags (← get).rest.length.succ []
    let isGroup := (← peek?) == some ':'
    drop 1
    if isGroup then return .group flags
    if flags.isEmpty then fail .nothingToRepeat inner inner
    return .flags flags
  return .capture (← nextGroup)

/-! ### Patterns -/

/-- Pattern of a primitive. -/
def patternOf : Primitive → Pattern
  | .literal l => .literal l
  | .item i => .set i
  | .assertion a span => .assertion a span

/-- Reads branches up to the end of the group or of the pattern.  The branches before and the items
of the open branch are given last first; `first` and `start` are where the branches and the open
one start. -/
def readBranches : (fuel : Nat) → (first start : Nat) → (branches items : List Pattern) →
    Read Pattern
  | 0, _, _, _, _ => return .empty
  | fuel + 1, first, start, branches, items => do
    skipBlank
    let at? ← offset?
    let close : Pattern := .concat ⟨start, at?⟩ items.reverse
    let done : Pattern := .alternate ⟨first, at?⟩ (close :: branches).reverse
    match ← peek? with
    | none | some ')' => return done
    | some '|' =>
      drop 1
      readBranches fuel first (← offset?) (close :: branches) []
    | some '(' =>
      let outer := (← get).ignoreBlank
      match ← readOpening with
      | .flags flags =>
        modify fun r =>
          { r with ignoreBlank := (flags.setting? .ignoreBlank).getD r.ignoreBlank }
        readBranches fuel first start branches (.flags flags ⟨at?, ← offset?⟩ :: items)
      | .capture index =>
        let body ← readBranches fuel (← offset?) (← offset?) [] []
        let span ← closeGroup at? outer
        readBranches fuel first start branches (.capture index body span :: items)
      | .group flags =>
        modify fun r => { r with ignoreBlank := (flags.setting? .ignoreBlank).getD outer }
        let body ← readBranches fuel (← offset?) (← offset?) [] []
        let span ← closeGroup at? outer
        readBranches fuel first start branches (.group flags body span :: items)
    | some '[' =>
      let set ← readSet
      readBranches fuel first start branches (.set set :: items)
    | some '?' => readBranches fuel first start branches (← repeatLast items (readSign 0 (some 1)))
    | some '*' => readBranches fuel first start branches (← repeatLast items (readSign 0 none))
    | some '+' => readBranches fuel first start branches (← repeatLast items (readSign 1 none))
    | some '\x7b' => readBranches fuel first start branches (← repeatLast items readCounted)
    | some '\\' =>
      let p ← readEscape
      readBranches fuel first start branches (patternOf p :: items)
    | some c =>
      drop 1
      let p : Pattern := match c with
        | '.' => .dot ⟨at?, at? + 1⟩
        | '^' => .assertion .lineStart ⟨at?, at? + 1⟩
        | '$' => .assertion .lineEnd ⟨at?, at? + 1⟩
        | c => .literal { char := c, span := ⟨at?, at? + 1⟩ }
      readBranches fuel first start branches (p :: items)
where
  /-- Takes the parenthesis that closes a group. -/
  closeGroup (start : Nat) (outer : Bool) : Read Span := do
    if (← peek?).isNone then fail .groupUnclosed start (start + 1)
    modify fun r => { r with ignoreBlank := outer }
    drop 1
    return ⟨start, ← offset?⟩

end Reader

/-- How deep parts of a pattern may stand in others. -/
def maxDepth : Nat := 250

/-- Reads a pattern. -/
def readPattern (text : String) : Except Fault Pattern := do
  let cs := text.toList
  let (pattern, r) ← (Reader.readBranches (cs.length + 1) 0 0 [] []).run { rest := cs }
  if !r.rest.isEmpty then
    throw { problem := .groupUnopened, span := ⟨r.offset, r.offset + 1⟩ }
  match pattern.tooDeep? maxDepth with
  | some span => throw { problem := .tooDeep maxDepth, span }
  | none => return pattern

end DocQuery.Regex
