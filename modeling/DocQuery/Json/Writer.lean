import DocQuery.Json.Basic
/-! Writing JSON, either without blanks or with two spaces of indentation.  Quotes, backslashes and
control characters are escaped and nothing else.  A double is written with the fewest digits that
read back to it, positionally from `10 ^ (-5)` up to below `10 ^ 16`, with a sign in a positive
exponent, and always with a point or an exponent. -/

namespace DocQuery.Json

/-- Decimal digits of a number. -/
def digitsOf (n : Nat) : List Char := Nat.toDigits 10 n

/-- Writes digits with the point behind the first `place` of them. -/
def writeDecimal (d : Decimal) : List Char :=
  let digits := digitsOf d.digits
  let place : Int := digits.length + d.exponent
  if 0 ≤ d.exponent ∧ place ≤ 16 then
    digits ++ List.replicate d.exponent.toNat '0' ++ ['.', '0']
  else if 0 < place ∧ place ≤ 16 then
    digits.take place.toNat ++ '.' :: digits.drop place.toNat
  else if -5 < place ∧ place ≤ 0 then
    ['0', '.'] ++ List.replicate (-place).toNat '0' ++ digits
  else
    let exponent := place - 1
    let sign := if exponent < 0 then '-' else '+'
    let fraction := if digits.length ≤ 1 then [] else '.' :: digits.drop 1
    digits.take 1 ++ fraction ++ 'e' :: sign :: digitsOf exponent.natAbs

/-- Writes a number. -/
def Number.write : Number → List Char
  | .integer n => if n < 0 then '-' :: digitsOf n.natAbs else digitsOf n.natAbs
  | .float x =>
    let magnitude := if x.isZero then ['0', '.', '0'] else writeDecimal x.shortest
    if x.isNegative then '-' :: magnitude else magnitude

/-- Hexadecimal digit in lower case. -/
def hexDigit (n : Nat) : Char := Char.ofNat (if n < 10 then 48 + n else 87 + n)

/-- Writes a character inside a string. -/
def escapeChar (c : Char) : List Char :=
  if c = '\x22' ∨ c = '\\' then ['\\', c]
  else if c = '\x08' then ['\\', 'b']
  else if c = '\x0c' then ['\\', 'f']
  else if c = '\n' then ['\\', 'n']
  else if c = '\r' then ['\\', 'r']
  else if c = '\t' then ['\\', 't']
  else if c.toNat < 0x20 then
    ['\\', 'u', '0', '0', hexDigit (c.toNat / 16), hexDigit (c.toNat % 16)]
  else [c]

/-- Writes a string. -/
def writeString (s : String) : List Char :=
  '\x22' :: s.toList.flatMap escapeChar ++ ['\x22']

/-- Whether and how lines are broken. -/
inductive Style where
  | compact
  | indented
  deriving DecidableEq, Repr

/-- What stands before an item at a depth. -/
def Style.lineBreak : Style → Nat → List Char
  | compact, _ => []
  | indented, depth => '\n' :: List.replicate (2 * depth) ' '

/-- What stands between a key and its value. -/
def Style.colon : Style → List Char
  | compact => [':']
  | indented => [':', ' ']

mutual

/-- Writes a value that stands at a depth. -/
def write (style : Style) (depth : Nat) : Json → List Char
  | null => ['n', 'u', 'l', 'l']
  | bool true => ['t', 'r', 'u', 'e']
  | bool false => ['f', 'a', 'l', 's', 'e']
  | number n => n.write
  | string s => writeString s
  | array [] => ['[', ']']
  | array (item :: items) =>
    '[' :: style.lineBreak (depth + 1) ++ write style (depth + 1) item ++
      writeItems style (depth + 1) items ++ style.lineBreak depth ++ [']']
  | object [] => ['\x7b', '\x7d']
  | object ((key, value) :: members) =>
    '\x7b' :: style.lineBreak (depth + 1) ++ writeString key ++ style.colon ++
      write style (depth + 1) value ++ writeMembers style (depth + 1) members ++
      style.lineBreak depth ++ ['\x7d']

/-- Writes the items of an array after the first. -/
def writeItems (style : Style) (depth : Nat) : List Json → List Char
  | [] => []
  | item :: items =>
    ',' :: style.lineBreak depth ++ write style depth item ++ writeItems style depth items

/-- Writes the members of an object after the first. -/
def writeMembers (style : Style) (depth : Nat) : List (String × Json) → List Char
  | [] => []
  | (key, value) :: members =>
    ',' :: style.lineBreak depth ++ writeString key ++ style.colon ++
      write style depth value ++ writeMembers style depth members

end

/-- The value without blanks. -/
def compact (value : Json) : String := String.ofList (value.write .compact 0)

/-- The value on indented lines. -/
def pretty (value : Json) : String := String.ofList (value.write .indented 0)

end DocQuery.Json
