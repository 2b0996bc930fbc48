import DocQuery.Css.Numeral
import DocQuery.Tree.Forest
/-! Tokens of style sheets.  `Token.scan` cuts a text into tokens and drops comments; `Token.nest`
puts what stands between brackets below the bracket that opens it.  Neither fails: what is not well
formed has tokens of its own, a bracket that closes nothing is a token like others, and what is
open at the end of the text is closed there. -/

namespace DocQuery.Css

/-- Kinds of brackets. -/
inductive Bracket where
  | round
  | square
  | curly
  deriving DecidableEq, Repr

/-- A token. -/
inductive Token where
  | ident (name : String)
  | atKeyword (name : String)
  /-- A name after a number sign; `isId` tells whether it could stand alone. -/
  | hash (name : String) (isId : Bool)
  | string (text : String)
  | url (text : String)
  | brokenString (text : String)
  | brokenUrl (text : String)
  | delim (c : Char)
  | number (n : Numeral)
  | percentage (n : Numeral)
  | dimension (n : Numeral) (unit : String)
  | blank (text : String)
  | colon
  | semicolon
  | comma
  | includes
  | dashMatch
  | startsWith
  | endsWith
  | substring
  | commentOpen
  | commentClose
  /-- A name with an opening parenthesis. -/
  | function (name : String)
  | opening (bracket : Bracket)
  | closing (bracket : Bracket)
  deriving DecidableEq, Repr

namespace Token

def isBlankChar (c : Char) : Bool :=
  c == ' ' || c == '\t' || c == '\n' || c == '\x0c' || c == '\r'

def isNewline (c : Char) : Bool := c == '\n' || c == '\x0c' || c == '\r'

def isNameChar (c : Char) : Bool :=
  c.isAlphanum || c == '_' || c == '-' || 0x80 ≤ c.toNat

/-- Characters that start a name, an escape apart. -/
def isNameStart (c : Char) : Bool :=
  c.isAlpha || c == '_' || c == '\x00' || 0x80 ≤ c.toNat

/-- Whether a text starts with a name. -/
def startsName : List Char → Bool
  | '-' :: c :: _ => isNameStart c || c == '-' || c == '\\'
  | '\\' :: c :: _ => !isNewline c
  | ['\\'] => true
  | c :: _ => isNameStart c
  | [] => false

/-- Whether a text starts with an unsigned number. -/
def startsDigits : List Char → Bool
  | '.' :: c :: _ => c.isDigit
  | c :: _ => c.isDigit
  | [] => false

/-- Value of a hexadecimal digit in any case. -/
def hexDigit? (c : Char) : Option Nat :=
  if c.isDigit then some (c.toNat - 48)
  else if 'a' ≤ c ∧ c ≤ 'f' then some (c.toNat - 87)
  else if 'A' ≤ c ∧ c ≤ 'F' then some (c.toNat - 55)
  else none

/-- Reads up to `count` hexadecimal digits. -/
def scanHex : (count : Nat) → (value : Nat) → List Char → Nat × List Char
  | count + 1, value, c :: cs =>
    match hexDigit? c with
    | some d => scanHex count (16 * value + d) cs
    | none => (value, c :: cs)
  | _, value, cs => (value, cs)

/-- The text after one blank; a carriage return and a line feed are one. -/
def skipBlank : List Char → List Char
  | '\r' :: '\n' :: cs => cs
  | c :: cs => if isBlankChar c then cs else c :: cs
  | [] => []

/-- Reads an escape after its backslash. -/
def scanEscape : List Char → Char × List Char
  | [] => ('\ufffd', [])
  | c :: cs =>
    if (hexDigit? c).isSome then
      let (value, rest) := scanHex 6 0 (c :: cs)
      let valid := value ≠ 0 ∧ value ≤ 0x10ffff ∧ ¬(0xd800 ≤ value ∧ value ≤ 0xdfff)
      (if valid then Char.ofNat value else '\ufffd', skipBlank rest)
    else (if c = '\x00' then '\ufffd' else c, cs)

/-- Whether a backslash before the text starts an escape. -/
def isEscape : List Char → Bool
  | c :: _ => !isNewline c
  | [] => true

/-- Reads the characters of a name; every round takes at least one. -/
def scanName : (fuel : Nat) → List Char → List Char × List Char
  | 0, cs => ([], cs)
  | _, [] => ([], [])
  | fuel + 1, c :: cs =>
    if isNameChar c then
      let (name, rest) := scanName fuel cs
      (c :: name, rest)
    else if c = '\x00' then
      let (name, rest) := scanName fuel cs
      ('\ufffd' :: name, rest)
    else if c = '\\' && isEscape cs then
      let (e, rest) := scanEscape cs
      let (name, rest) := scanName fuel rest
      (e :: name, rest)
    else ([], c :: cs)

/-- Reads a name. -/
def readName (cs : List Char) : String × List Char :=
  let (name, rest) := scanName cs.length cs
  (String.ofList name, rest)

/-- Reads a string after its opening quote, and tells whether no line end broke it off. -/
def scanString (quote : Char) : (fuel : Nat) → List Char → List Char × Bool × List Char
  | 0, cs => ([], true, cs)
  | _, [] => ([], true, [])
  | fuel + 1, c :: cs =>
    if c = quote then ([], true, cs)
    else if isNewline c then ([], false, c :: cs)
    else if c = '\\' then
      match cs with
      | [] => ([], true, [])
      | d :: _ =>
        if isNewline d then scanString quote fuel (skipBlank cs)
        else
          let (e, rest) := scanEscape cs
          let (text, whole, rest) := scanString quote fuel rest
          (e :: text, whole, rest)
    else
      let (text, whole, rest) := scanString quote fuel cs
      ((if c = '\x00' then '\ufffd' else c) :: text, whole, rest)

/-- Reads a string after its opening quote. -/
def readString (quote : Char) (cs : List Char) : Token × List Char :=
  let (text, whole, rest) := scanString quote cs.length cs
  (if whole then .string (String.ofList text) else .brokenString (String.ofList text), rest)

/-- Reads an exponent, if the text starts with one. -/
def scanExponent : List Char → Option (Int × List Char)
  | e :: cs =>
    if e = 'e' ∨ e = 'E' then
      let (negative, digits) := match cs with
        | '-' :: ds => (true, ds)
        | '+' :: ds => (false, ds)
        | ds => (false, ds)
      if (digits.head?.any Char.isDigit) then
        let n : Nat := (digits.takeWhile Char.isDigit).foldl
          (fun n c => min (10 * n + (c.toNat - 48)) 100000) 0
        some (if negative then -(n : Int) else n, digits.dropWhile Char.isDigit)
      else none
    else none
  | [] => none

/-- Reads a number, a percentage or a dimension. -/
def scanNumeric (cs : List Char) : Token × List Char :=
  let (sign, cs) := match cs with
    | '+' :: cs => (some '+', cs)
    | '-' :: cs => (some '-', cs)
    | cs => (none, cs)
  let integral := cs.takeWhile Char.isDigit
  let cs := cs.dropWhile Char.isDigit
  let (fraction, cs) := match cs with
    | '.' :: c :: rest =>
      if c.isDigit then
        ((c :: rest).takeWhile Char.isDigit, (c :: rest).dropWhile Char.isDigit)
      else ([], '.' :: c :: rest)
    | cs => ([], cs)
  let (exponent, cs) := match scanExponent cs with
    | some (e, cs) => (some e, cs)
    | none => (none, cs)
  match cs with
  | '%' :: cs => (.percentage (.ofDigits sign integral fraction exponent true), cs)
  | cs =>
    let n := Numeral.ofDigits sign integral fraction exponent false
    if startsName cs then
      let (unit, cs) := readName cs
      (.dimension n unit, cs)
    else (.number n, cs)

/-- The text after the parenthesis that ends an address; `length` counts what is passed over. -/
def skipBrokenUrl (length : Nat) : List Char → Nat × List Char
  | [] => (length, [])
  | ')' :: cs => (length, cs)
  | '\\' :: ')' :: cs => skipBrokenUrl (length + 2) cs
  | '\\' :: '\\' :: cs => skipBrokenUrl (length + 2) cs
  | _ :: cs => skipBrokenUrl (length + 1) cs

/-- Reads the rest of an address without quotes.  If it is broken, what stands behind the character
that breaks it is left. -/
def scanUrl : (fuel : Nat) → List Char → Except (List Char) (List Char × List Char)
  | 0, cs => .ok ([], cs)
  | _, [] => .ok ([], [])
  | fuel + 1, c :: cs =>
    if c = ')' then .ok ([], cs)
    else if isBlankChar c then
      match cs.dropWhile isBlankChar with
      | [] => .ok ([], [])
      | ')' :: rest => .ok ([], rest)
      | _ :: rest => .error rest
    else if c = '\\' then
      if isEscape cs then
        let (e, rest) := scanEscape cs
        (scanUrl fuel rest).map fun r => (e :: r.1, r.2)
      else .error cs
    else if c = '\x00' then (scanUrl fuel cs).map fun r => ('\ufffd' :: r.1, r.2)
    else if c = '\x22' || c = '\x27' || c = '(' || c.toNat < 0x20 || c = '\x7f' then .error cs
    else (scanUrl fuel cs).map fun r => (c :: r.1, r.2)

/-- Reads an address after its name and parenthesis, unless it stands in quotes. -/
def readUrl (cs : List Char) : Option (Token × List Char) :=
  match cs.dropWhile isBlankChar with
  | '\x22' :: _ | '\x27' :: _ => none
  | rest =>
    match scanUrl rest.length rest with
    | .ok (text, rest) => some (.url (String.ofList text), rest)
    | .error left =>
      let (length, after) := skipBrokenUrl (rest.length - left.length) left
      some (.brokenUrl (String.ofList (rest.take length)), after)

/-- Reads a name or a function. -/
def scanIdent (cs : List Char) : Token × List Char :=
  match readName cs with
  | (name, '(' :: rest) =>
    if name.toLower == "url" then (readUrl rest).getD (.function name, rest)
    else (.function name, rest)
  | (name, rest) => (.ident name, rest)

/-- The text after a comment. -/
def skipComment : List Char → List Char
  | '*' :: '/' :: cs => cs
  | _ :: cs => skipComment cs
  | [] => []

/-- Reads a character that is a token, or a pair that an equals sign ends. -/
def scanDelim : List Char → Option (Token × List Char)
  | [] => none
  | '$' :: '=' :: cs => some (.endsWith, cs)
  | '*' :: '=' :: cs => some (.substring, cs)
  | '^' :: '=' :: cs => some (.startsWith, cs)
  | '|' :: '=' :: cs => some (.dashMatch, cs)
  | '~' :: '=' :: cs => some (.includes, cs)
  | '<' :: '!' :: '-' :: '-' :: cs => some (.commentOpen, cs)
  | '(' :: cs => some (.opening .round, cs)
  | ')' :: cs => some (.closing .round, cs)
  | '[' :: cs => some (.opening .square, cs)
  | ']' :: cs => some (.closing .square, cs)
  | '\x7b' :: cs => some (.opening .curly, cs)
  | '\x7d' :: cs => some (.closing .curly, cs)
  | ',' :: cs => some (.comma, cs)
  | ':' :: cs => some (.colon, cs)
  | ';' :: cs => some (.semicolon, cs)
  | c :: cs => some (.delim c, cs)

/-- Reads a token. -/
def next (cs : List Char) : Option (Token × List Char) :=
  match cs with
  | [] => none
  | '\x22' :: rest => some (readString '\x22' rest)
  | '\x27' :: rest => some (readString '\x27' rest)
  | '-' :: '-' :: '>' :: rest => some (.commentClose, rest)
  | '#' :: rest =>
    if startsName rest || rest.head?.any (fun c => c.isDigit || c == '-') then
      let (name, after) := readName rest
      some (.hash name (startsName rest), after)
    else some (.delim '#', rest)
  | '@' :: rest =>
    if startsName rest then
      let (name, after) := readName rest
      some (.atKeyword name, after)
    else some (.delim '@', rest)
  | c :: rest =>
    if isBlankChar c then
      some (.blank (String.ofList (cs.takeWhile isBlankChar)), cs.dropWhile isBlankChar)
    else if startsDigits cs || ((c == '+' || c == '-') && startsDigits rest) then
      some (scanNumeric cs)
    else if startsName cs then some (scanIdent cs)
    else scanDelim cs

/-- Reads all tokens and drops comments; every round takes at least a character. -/
def scanAll : (fuel : Nat) → List Char → List Token
  | 0, _ => []
  | fuel + 1, cs =>
    match cs with
    | '/' :: '*' :: rest => scanAll fuel (skipComment rest)
    | cs =>
      match next cs with
      | none => []
      | some (t, rest) => t :: scanAll fuel rest

/-- Tokens of a text. -/
def scan (text : String) : List Token :=
  scanAll (text.length + 1) text.toList

/-! ### Brackets -/

/-- The bracket that a token opens. -/
def opens : Token → Option Bracket
  | function _ => some .round
  | opening b => some b
  | _ => none

/-- A bracket that is open, with the trees before it in reverse. -/
structure OpenBlock where
  token : Token
  before : List (Tree Token)

/-- The trees read so far: those of the innermost bracket in reverse, and the brackets around it,
innermost first. -/
structure Nesting where
  trees : List (Tree Token) := []
  blocks : List OpenBlock := []

namespace Nesting

/-- A forest of trees given in reverse. -/
def forest (trees : List (Tree Token)) : Forest Token :=
  trees.foldl (fun f t => t.consTo f) .nil

/-- Closes the innermost bracket. -/
def close (n : Nesting) : Nesting :=
  match n.blocks with
  | [] => n
  | b :: blocks => ⟨⟨b.token, forest n.trees⟩ :: b.before, blocks⟩

/-- Takes a token. -/
def step (n : Nesting) (t : Token) : Nesting :=
  match t.opens, t with
  | some _, _ => ⟨[], ⟨t, n.trees⟩ :: n.blocks⟩
  | none, closing b =>
    if n.blocks.head?.any fun o => o.token.opens == some b then n.close
    else { n with trees := ⟨t, .nil⟩ :: n.trees }
  | none, _ => { n with trees := ⟨t, .nil⟩ :: n.trees }

end Nesting

/-- The trees of a list of tokens. -/
def nest (tokens : List Token) : Forest Token :=
  let n := tokens.foldl Nesting.step {}
  Nesting.forest (n.blocks.foldl (fun n _ => n.close) n).trees

end Token

end DocQuery.Css
