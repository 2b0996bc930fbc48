import DocQuery.Html.Node
import DocQuery.Html.Reference
/-! Tokens of HTML markup.  `Token.scan` reads the next token of a text; what it reads depends on
the kind of content that it stands in.  Scanning never fails: markup that is not well formed is
read as characters or as a comment, and a tag that is not finished at the end of the text is
dropped. -/

namespace DocQuery.Html

/-- A start tag or an end tag. -/
structure Tag where
  name : String
  attributes : List (String × String) := []
  selfClosing : Bool := false
  deriving DecidableEq, Repr, Inhabited

/-- A document type declaration. -/
structure Doctype where
  name : String := ""
  publicId : Option String := none
  systemId : Option String := none
  forceQuirks : Bool := false
  deriving DecidableEq, Repr, Inhabited

/-- A piece of markup. -/
inductive Token where
  | char (c : Char)
  /-- Markup that is not well formed and stands for nothing. -/
  | fault
  | startTag (tag : Tag)
  | endTag (tag : Tag)
  | comment (text : String)
  | doctype (doctype : Doctype)
  | endOfText
  deriving DecidableEq, Repr, Inhabited

/-- How far script content is commented out. -/
inductive ScriptLevel where
  | plain
  | escaped
  | doublyEscaped
  deriving DecidableEq, Repr, Inhabited

/-- The kind of content that a token stands in.  In script content, `dashes` counts the hyphens just
read, up to two. -/
inductive Content where
  | data
  | escapable
  | raw
  | plain
  | script (level : ScriptLevel) (dashes : Nat)
  deriving DecidableEq, Repr, Inhabited

/-- Tab, line feed, form feed, carriage return and space. -/
def isSpace (c : Char) : Bool :=
  c == '\t' || c == '\n' || c == '\x0c' || c == '\r' || c == ' '

/-- The replacement character in place of NUL. -/
def replaceNul (c : Char) : Char := if c = '\x00' then '\ufffd' else c

/-- A name in lower case. -/
def nameOf (cs : List Char) : String := String.ofList (cs.map fun c => (replaceNul c).toLower)

namespace Token

/-! ### Character references -/

/-- What the numbers of the C1 controls stand for, in order from `0x80`; zero where they stand for
themselves. -/
def controlReplacements : List Nat :=
  [0x20ac, 0, 0x201a, 0x192, 0x201e, 0x2026, 0x2020, 0x2021, 0x2c6, 0x2030, 0x160, 0x2039, 0x152, 0,
    0x17d, 0, 0, 0x2018, 0x2019, 0x201c, 0x201d, 0x2022, 0x2013, 0x2014, 0x2dc, 0x2122, 0x161,
    0x203a, 0x153, 0, 0x17e, 0x178]

/-- The character of a numeric reference. -/
def referencedChar (n : Nat) : Char :=
  if n = 0 ∨ 0x10ffff < n ∨ (0xd800 ≤ n ∧ n ≤ 0xdfff) then '\ufffd'
  else if 0x80 ≤ n ∧ n ≤ 0x9f then
    match controlReplacements.getD (n - 0x80) 0 with
    | 0 => Char.ofNat n
    | m => Char.ofNat m
  else Char.ofNat n

/-- Value of a hexadecimal digit in any case. -/
def hexDigit? (c : Char) : Option Nat :=
  if c.isDigit then some (c.toNat - 48)
  else if 'a' ≤ c ∧ c ≤ 'f' then some (c.toNat - 87)
  else if 'A' ≤ c ∧ c ≤ 'F' then some (c.toNat - 55)
  else none

/-- What a character reference stands for, whether a semicolon closes it, and what follows it. -/
structure Reference where
  chars : List Char
  closed : Bool := true
  rest : List Char

/-- Reads the digits of a numeric reference and a semicolon behind them. -/
def scanNumber (base : Nat) (isDigit : Char → Bool) (cs : List Char) :
    Option Reference :=
  let digits := cs.takeWhile isDigit
  if digits.isEmpty then none
  else
    let n := digits.foldl (fun n c => min (base * n + (hexDigit? c).getD 0) 0x110000) 0
    match cs.dropWhile isDigit with
    | ';' :: rest => some { chars := [referencedChar n], rest }
    | rest => some { chars := [referencedChar n], closed := false, rest }

/-- Reads a named reference.  In an attribute a name without semicolon is none if the text goes on
with a letter, a digit or an equals sign. -/
def scanNamed (inAttribute : Bool) (cs : List Char) : Option Reference :=
  match findReference cs with
  | none => none
  | some (chars, length) =>
    let rest := cs.drop length
    let closed := cs[length - 1]? == some ';'
    let goesOn := rest.head?.any fun c => c == '=' || c.isAlphanum
    if inAttribute && !closed && goesOn then none else some { chars, closed, rest }

/-- Reads a character reference after its ampersand; an ampersand that starts none stands for
itself. -/
def scanReference (inAttribute : Bool) (cs : List Char) : Reference :=
  let found := match cs with
    | '#' :: 'x' :: rest | '#' :: 'X' :: rest => scanNumber 16 (fun c => (hexDigit? c).isSome) rest
    | '#' :: rest => scanNumber 10 Char.isDigit rest
    | cs => scanNamed inAttribute cs
  found.getD { chars := ['&'], rest := cs }

/-- The tokens of a character reference; one that is not closed is at fault. -/
def Reference.tokens (r : Reference) : List Token :=
  if r.closed then r.chars.map .char else .fault :: r.chars.map .char

/-- Resolves the character references in the value of an attribute; every round takes a character.
-/
def resolveReferences : (fuel : Nat) → List Char → List Char
  | 0, _ => []
  | _, [] => []
  | fuel + 1, c :: cs =>
    if c = '&' then
      let r := scanReference true cs
      r.chars ++ resolveReferences fuel r.rest
    else replaceNul c :: resolveReferences fuel cs

/-- The value of an attribute. -/
def valueOf (cs : List Char) : String := String.ofList (resolveReferences cs.length cs)

/-! ### Tags -/

/-- Characters that end the name of a tag. -/
def endsTagName (c : Char) : Bool := isSpace c || c == '/' || c == '>'

/-- Characters that end the name of an attribute. -/
def endsAttributeName (c : Char) : Bool := endsTagName c || c == '='

/-- Reads the value of an attribute after the equals sign, or nothing if the text ends inside. -/
def scanValue (cs : List Char) : Option (String × List Char) :=
  match cs.dropWhile isSpace with
  | [] => none
  | '\x22' :: rest =>
    match rest.dropWhile (· != '\x22') with
    | [] => none
    | _ :: after => some (valueOf (rest.takeWhile (· != '\x22')), after)
  | '\x27' :: rest =>
    match rest.dropWhile (· != '\x27') with
    | [] => none
    | _ :: after => some (valueOf (rest.takeWhile (· != '\x27')), after)
  | '>' :: rest => some ("", '>' :: rest)
  | cs =>
    let isEnd c := isSpace c || c == '>'
    some (valueOf (cs.takeWhile (!isEnd ·)), cs.dropWhile (!isEnd ·))

/-- The attributes with one more, unless there is one of its name. -/
def addAttribute (name value : String) (attributes : List (String × String)) :
    List (String × String) :=
  if attributes.any (·.1 == name) then attributes else attributes ++ [(name, value)]

/-- Reads attributes up to the end of the tag, or nothing if the text ends inside.  Every round
takes a character. -/
def scanAttributes (tag : Tag) : (fuel : Nat) → List Char → Option (Tag × List Char)
  | 0, _ => none
  | fuel + 1, cs =>
    match cs.dropWhile isSpace with
    | [] => none
    | '>' :: rest => some (tag, rest)
    | '/' :: '>' :: rest => some ({ tag with selfClosing := true }, rest)
    | '/' :: rest => scanAttributes tag fuel rest
    | c :: rest =>
      -- an equals sign in front belongs to the name
      let name := nameOf (c :: rest.takeWhile (!endsAttributeName ·))
      let after := rest.dropWhile (!endsAttributeName ·)
      match after.dropWhile isSpace with
      | '=' :: rest =>
        match scanValue rest with
        | none => none
        | some (value, rest) =>
          scanAttributes { tag with attributes := addAttribute name value tag.attributes } fuel rest
      | rest =>
        scanAttributes { tag with attributes := addAttribute name "" tag.attributes } fuel rest

/-- Reads a tag from its name on, or nothing if the text ends inside. -/
def scanTag (cs : List Char) : Option (Tag × List Char) :=
  let name := nameOf (cs.takeWhile (!endsTagName ·))
  scanAttributes { name } cs.length (cs.dropWhile (!endsTagName ·))

/-! ### Comments and declarations -/

/-- Text of a comment and what follows the comment.  A comment that the text does not end is ended
by the text, and hyphens in front of that end do not belong to it. -/
def commentBody : List Char → List Char × List Char
  | [] => ([], [])
  | ['-'] => ([], [])
  | ['-', '-'] => ([], [])
  | ['-', '-', '!'] => ([], [])
  | '-' :: '-' :: '>' :: rest => ([], rest)
  | '-' :: '-' :: '!' :: '>' :: rest => ([], rest)
  | c :: cs =>
    let (body, rest) := commentBody cs
    (replaceNul c :: body, rest)

/-- Reads a comment after its opening. -/
def scanComment : List Char → Token × List Char
  | '>' :: rest => (.comment "", rest)
  | '-' :: '>' :: rest => (.comment "", rest)
  | cs =>
    let (body, rest) := commentBody cs
    (.comment (String.ofList body), rest)

/-- Reads what is taken for a comment: all up to the next `>`. -/
def scanBogusComment (cs : List Char) : Token × List Char :=
  (.comment (String.ofList ((cs.takeWhile (· != '>')).map replaceNul)),
    (cs.dropWhile (· != '>')).drop 1)

/-- Whether the characters start with a word in any case. -/
def startsWith (word : List Char) (cs : List Char) : Bool :=
  (cs.take word.length).map Char.toLower == word

/-- Reads an identifier in quotes, if a quote opens here.  One that is not closed before the next
`>` spoils the declaration. -/
def scanIdentifier (cs : List Char) : Option (String × Bool × List Char) :=
  match cs with
  | q :: rest =>
    if q = '\x22' ∨ q = '\x27' then
      let inside c := c != q && c != '>'
      let text := String.ofList ((rest.takeWhile inside).map replaceNul)
      match rest.dropWhile inside with
      | c :: after => if c = q then some (text, true, after) else some (text, false, c :: after)
      | [] => some (text, false, [])
    else none
  | [] => none

/-- Drops what is left of a declaration. -/
def endDoctype (doctype : Doctype) (cs : List Char) : Token × List Char :=
  (.doctype doctype, (cs.dropWhile (· != '>')).drop 1)

/-- Ends a declaration behind its last identifier. -/
def finishDoctype (doctype : Doctype) (cs : List Char) : Token × List Char :=
  let cs := cs.dropWhile isSpace
  endDoctype (if cs.isEmpty then { doctype with forceQuirks := true } else doctype) cs

/-- Reads the system identifier of a declaration.  Whether it is required depends on what stands
before it. -/
def scanSystem (doctype : Doctype) (required : Bool) (cs : List Char) : Token × List Char :=
  match scanIdentifier (cs.dropWhile isSpace) with
  | some (text, true, rest) => finishDoctype { doctype with systemId := some text } rest
  | some (text, false, rest) =>
    endDoctype { doctype with systemId := some text, forceQuirks := true } rest
  | none =>
    let cs := cs.dropWhile isSpace
    if !required && cs.head? == some '>' then (.doctype doctype, cs.drop 1)
    else endDoctype { doctype with forceQuirks := true } cs

/-- Reads a document type declaration after its keyword. -/
def scanDoctype (cs : List Char) : Token × List Char :=
  match cs.dropWhile isSpace with
  | [] => (.doctype { forceQuirks := true }, [])
  | '>' :: rest => (.doctype { forceQuirks := true }, rest)
  | cs =>
    let isEnd c := isSpace c || c == '>'
    let doctype : Doctype := { name := nameOf (cs.takeWhile (!isEnd ·)) }
    let cs := (cs.dropWhile (!isEnd ·)).dropWhile isSpace
    if startsWith ['p', 'u', 'b', 'l', 'i', 'c'] cs then
      match scanIdentifier ((cs.drop 6).dropWhile isSpace) with
      | some (text, true, rest) => scanSystem { doctype with publicId := some text } false rest
      | some (text, false, rest) =>
        endDoctype { doctype with publicId := some text, forceQuirks := true } rest
      | none => endDoctype { doctype with forceQuirks := true } ((cs.drop 6).dropWhile isSpace)
    else if startsWith ['s', 'y', 's', 't', 'e', 'm'] cs then
      scanSystem doctype true (cs.drop 6)
    else
      match cs with
      | '>' :: rest => (.doctype doctype, rest)
      | cs => endDoctype { doctype with forceQuirks := true } cs

/-- Reads a CDATA section after its opening. -/
def cdataBody : List Char → List Char × List Char
  | [] => ([], [])
  | ']' :: ']' :: '>' :: rest => ([], rest)
  | c :: cs =>
    let (body, rest) := cdataBody cs
    (c :: body, rest)

/-- Reads what follows `<!`.  CDATA sections are known in foreign content only. -/
def scanDeclaration (foreign : Bool) (cs : List Char) : List Token × List Char :=
  let one (r : Token × List Char) : List Token × List Char := ([r.1], r.2)
  match cs with
  | '-' :: '-' :: rest => one (scanComment rest)
  | cs =>
    if startsWith ['d', 'o', 'c', 't', 'y', 'p', 'e'] cs then one (scanDoctype (cs.drop 7))
    else if foreign && ['[', 'C', 'D', 'A', 'T', 'A', '['].isPrefixOf cs then
      let (body, rest) := cdataBody (cs.drop 7)
      (body.map .char, rest)
    else one (scanBogusComment cs)

/-! ### Scanning -/

/-- Reads markup after its `<` in ordinary content. -/
def scanMarkup (foreign : Bool) (cs : List Char) : List Token × List Char :=
  match cs with
  | '!' :: rest => scanDeclaration foreign rest
  | '?' :: _ =>
    let (token, rest) := scanBogusComment cs
    ([token], rest)
  | '/' :: '>' :: rest => ([.fault], rest)
  | ['/'] => ([.char '<', .char '/'], [])
  | '/' :: c :: rest =>
    if c.isAlpha then
      match scanTag (c :: rest) with
      | some (tag, rest) => ([.endTag tag], rest)
      | none => ([], [])
    else
      let (token, rest) := scanBogusComment (c :: rest)
      ([token], rest)
  | c :: rest =>
    if c.isAlpha then
      match scanTag (c :: rest) with
      | some (tag, rest) => ([.startTag tag], rest)
      | none => ([], [])
    else ([.char '<'], c :: rest)
  | [] => ([.char '<'], [])

/-- Reads the end tag of the open element, after its `</`.  If it is not that end tag, nothing is
read; if the text ends inside the tag, there is no token. -/
def scanOwnEndTag (name : String) (cs : List Char) : Option (List Token × List Char) :=
  let letters := cs.takeWhile Char.isAlpha
  let rest := cs.dropWhile Char.isAlpha
  if nameOf letters == name && rest.head?.any endsTagName then
    match scanTag cs with
    | some (tag, rest) => some ([.endTag tag], rest)
    | none => some ([], [])
  else none

/-- Whether the word `script` stands here with a character that ends a tag's name. -/
def atScriptWord (cs : List Char) : Bool :=
  nameOf (cs.takeWhile Char.isAlpha) == "script" &&
    (cs.dropWhile Char.isAlpha).head?.any endsTagName

/-- Number of characters of the word `script` and the character behind it. -/
def scriptWordLength : Nat := 7

/-- Reads in script content: tokens, what follows them, and the content that it stands in. -/
def scanScript (level : ScriptLevel) (dashes : Nat) (name : String) (c : Char)
    (cs : List Char) : List Token × List Char × Content :=
  let chars (n : Nat) (content : Content) : List Token × List Char × Content :=
    ((c :: cs.take n).map fun c => .char (replaceNul c), cs.drop n, content)
  let ownEndTag : Option (List Token × List Char × Content) :=
    match cs with
    | '/' :: rest =>
      if level = .doublyEscaped then none
      else (scanOwnEndTag name rest).map fun (tokens, rest) => (tokens, rest, .script .plain 0)
    | _ => none
  if c = '<' then
    match ownEndTag with
    | some result => result
    | none =>
      match level with
      | .plain =>
        if ['!', '-', '-'].isPrefixOf cs then chars 3 (.script .escaped 2)
        else chars 0 (.script .plain 0)
      | .escaped =>
        if atScriptWord cs then chars scriptWordLength (.script .doublyEscaped 0)
        else chars 0 (.script .escaped 0)
      | .doublyEscaped =>
        match cs with
        | '/' :: rest =>
          if atScriptWord rest then chars (scriptWordLength + 1) (.script .escaped 0)
          else chars 1 (.script .doublyEscaped 0)
        | _ => chars 0 (.script .doublyEscaped 0)
  else
    match level with
    | .plain => chars 0 (.script .plain 0)
    | level =>
      if c = '-' then chars 0 (.script level (min 2 (dashes + 1)))
      else if c = '>' ∧ dashes = 2 then chars 0 (.script .plain 0)
      else chars 0 (.script level 0)

/-- Reads on in a text: tokens, what follows them, and the content that it stands in.  `name` is the
name of the last start tag; in foreign content CDATA sections are known. -/
def scan (content : Content) (name : String) (foreign : Bool) (c : Char) (cs : List Char) :
    List Token × List Char × Content :=
  match content with
  | .data =>
    if c = '&' then
      let r := scanReference false cs
      (r.tokens, r.rest, content)
    else if c = '<' then
      let (tokens, rest) := scanMarkup foreign cs
      (tokens, rest, content)
    else ([.char c], cs, content)
  | .escapable =>
    if c = '&' then
      let r := scanReference false cs
      (r.tokens, r.rest, content)
    else scanRaw c
  | .raw => scanRaw c
  | .plain => ([.char (replaceNul c)], cs, content)
  | .script level dashes => scanScript level dashes name c cs
where
  /-- Reads in content where nothing but the end tag is markup. -/
  scanRaw (c : Char) : List Token × List Char × Content :=
    match c, cs with
    | '<', '/' :: rest =>
      match scanOwnEndTag name rest with
      | some (tokens, rest) => (tokens, rest, .data)
      | none => ([.char c], cs, content)
    | c, cs => ([.char (replaceNul c)], cs, content)

end Token

/-- The text with every line break written as a line feed, and without a byte order mark. -/
def normalizeLines : List Char → List Char
  | [] => []
  | '\r' :: '\n' :: cs => '\n' :: normalizeLines cs
  | c :: cs => (if c = '\r' then '\n' else c) :: normalizeLines cs

end DocQuery.Html
