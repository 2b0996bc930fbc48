import DocQuery.Text.Quoted
import DocQuery.Text.Utf8
import DocQuery.Url.Label
/-! Hosts of addresses: names, and numbers of four or sixteen bytes. -/

namespace DocQuery.Url

/-- Why an address cannot be resolved. -/
inductive UrlError where
  | emptyHost
  | badName
  | badPort
  | badIpv4
  | badIpv6
  | badHostChar
  | noBase
  | opaqueBase
  deriving DecidableEq, Repr

/-- Wording of the error. -/
def UrlError.message : UrlError → String
  | emptyHost => "empty host"
  | badName => "invalid international domain name"
  | badPort => "invalid port number"
  | badIpv4 => "invalid IPv4 address"
  | badIpv6 => "invalid IPv6 address"
  | badHostChar => "invalid domain character"
  | noBase => "relative URL without a base"
  | opaqueBase => "relative URL with a cannot-be-a-base base"

/-- A host. -/
inductive Host where
  /-- A name; it is empty where an address has the place of a host but no host. -/
  | name (name : String)
  | ipv4 (number : Nat)
  /-- Eight numbers of two bytes. -/
  | ipv6 (pieces : List Nat)
  deriving DecidableEq, Repr, Inhabited

/-! ### Percent encoding -/

/-- Value of a hexadecimal digit in any case. -/
def hexDigit? (c : Char) : Option Nat :=
  if c.isDigit then some (c.toNat - 48)
  else if 'a' ≤ c ∧ c ≤ 'f' then some (c.toNat - 87)
  else if 'A' ≤ c ∧ c ≤ 'F' then some (c.toNat - 55)
  else none

/-- The bytes that a text with percent signs stands for. -/
def percentDecode : List Char → List UInt8
  | '%' :: a :: b :: cs =>
    match hexDigit? a, hexDigit? b with
    | some h, some l => UInt8.ofNat (16 * h + l) :: percentDecode cs
    | _, _ => Utf8.encode "%" ++ percentDecode (a :: b :: cs)
  | c :: cs => Utf8.encode (String.ofList [c]) ++ percentDecode cs
  | [] => []

/-- Hexadecimal digits of a byte in upper case. -/
def byteDigits (b : UInt8) : List Char :=
  let digits := (Nat.toDigits 16 b.toNat).map Char.toUpper
  if digits.length < 2 then '0' :: digits else digits

/-- Writes a character by its bytes with percent signs. -/
def percentEncode (c : Char) : List Char :=
  (Utf8.encode (String.ofList [c])).flatMap fun b => '%' :: byteDigits b

/-- Writes a character, encoded if it is a control character, outside ASCII or in the given set. -/
def encodeChar (set : String) (c : Char) : List Char :=
  if c.toNat < 0x20 || 0x7f ≤ c.toNat || set.toList.contains c then percentEncode c else [c]

/-! ### Numbers -/

/-- Value of digits in a base, none of them out of range. -/
def readNumber? (base : Nat) (digits : List Char) : Option Nat :=
  digits.foldl (fun n c => n.bind fun n =>
    (hexDigit? c).bind fun d => if d < base then some (base * n + d) else none) (some 0)

/-- A number of an address: decimal, or after `0x` hexadecimal, or after `0` octal. -/
def readPart? (part : List Char) : Option Nat :=
  match part with
  | [] => none
  | '0' :: 'x' :: ds | '0' :: 'X' :: ds => readNumber? 16 ds
  | '0' :: d :: ds => readNumber? 8 (d :: ds)
  | ds => readNumber? 10 ds

/-- Whether the last part of a name is a number, so that the name has to be an address. -/
def endsInNumber (name : List Char) : Bool :=
  let parts := (name.splitOnP (· == '.')).reverse
  let last := match parts with
    | [] :: last :: _ => last
    | [] :: [] => []
    | last :: _ => last
    | [] => []
  (!last.isEmpty && last.all Char.isDigit) || (readPart? last).isSome

/-- Reads an address of four bytes; its last part fills the bytes that are left. -/
def readIpv4 (name : List Char) : Except UrlError Host :=
  let parts := name.splitOnP (· == '.')
  let parts := if parts.getLast? == some [] then parts.dropLast else parts
  match parts.mapM readPart? with
  | none => .error .badIpv4
  | some numbers =>
    let front := numbers.dropLast
    let last := numbers.getLastD 0
    let room := Nat.pow 256 (4 - front.length)
    if 3 < front.length ∨ front.any (255 < ·) ∨ room ≤ last then .error .badIpv4
    else .ok (.ipv4 (front.foldl (fun n part => 256 * n + part) 0 * room + last))

/-- A decimal number of a byte without zeros before it. -/
def readByte? (digits : List Char) : Option Nat :=
  match digits with
  | [] => none
  | '0' :: _ :: _ => none
  | ds => (readNumber? 10 ds).filter (· < 256)

/-- The numbers of a group of up to four hexadecimal digits, or of a dotted address in the end. -/
def readGroup? (isLast : Bool) (group : List Char) : Option (List Nat) :=
  if isLast && group.contains '.' then
    match (group.splitOnP (· == '.')).mapM readByte? with
    | some [a, b, c, d] => some [256 * a + b, 256 * c + d]
    | _ => none
  else if group.isEmpty || 4 < group.length then none
  else (readNumber? 16 group).map ([·])

/-- The numbers of groups with colons between them. -/
def readGroups? (cs : List Char) : Option (List Nat) :=
  if cs.isEmpty then some []
  else
    let groups := cs.splitOnP (· == ':')
    (groups.zipIdx.mapM fun (g, i) => readGroup? (i + 1 == groups.length) g).map List.flatten

/-- The text before the first double colon and the text after it. -/
def splitColons (before : List Char) : List Char → Option (List Char × List Char)
  | ':' :: ':' :: cs => some (before.reverse, cs)
  | c :: cs => splitColons (c :: before) cs
  | [] => none

/-- Reads an address of sixteen bytes; a double colon stands for the zeros that are missing. -/
def readIpv6 (cs : List Char) : Except UrlError Host :=
  let pieces := match splitColons [] cs with
    | none => (readGroups? cs).filter (·.length = 8)
    | some (front, back) =>
      match readGroups? front, readGroups? back with
      | some f, some b =>
        if f.length + b.length < 8 ∧ ¬ front.contains '.' then
          some (f ++ List.replicate (8 - f.length - b.length) 0 ++ b)
        else none
      | _, _ => none
  match pieces with
  | some pieces => .ok (.ipv6 pieces)
  | none => .error .badIpv6

/-! ### Names -/

/-- Characters of ASCII that no name has. -/
def isForbidden (c : Char) : Bool :=
  c.toNat ≤ 0x20 || c == '\x7f' || "%#/:<>?@[\\]^|".toList.contains c

/-- A name in ASCII. -/
def nameToAscii? (bytes : List UInt8) : Option (List Char) := do
  let text ← (Utf8.decode bytes).toOption
  let mapped ← mapHost text.toList
  let labels ← (mapped.splitOnP (· == '.')).mapM Label.ofChars?
  let name := ['.'].intercalate (labels.map Label.written)
  if Label.makeName labels && !name.any isForbidden then some name else none

namespace Host

/-- The text between square brackets, if it starts with one. -/
def bracketed? (cs : List Char) : Option (Except UrlError Host) :=
  match cs with
  | '[' :: rest =>
    if rest.getLast? == some ']' then some (readIpv6 rest.dropLast) else some (.error .badIpv6)
  | _ => none

/-- Reads a host. -/
def ofChars (cs : List Char) : Except UrlError Host :=
  match bracketed? cs with
  | some host => host
  | none => do
    let some text := nameToAscii? (percentDecode cs) | throw .badName
    if text.isEmpty then .error .emptyHost
    else if endsInNumber text then readIpv4 text
    else .ok (.name (String.ofList text))

/-- Characters that no host has whose scheme gives it no meaning. -/
def isForbiddenOpaque (c : Char) : Bool :=
  "\x00\t\n\r #/:<>?@[\\]^|".toList.contains c

/-- Reads a host whose scheme gives it no meaning. -/
def ofOpaque (cs : List Char) : Except UrlError Host :=
  match bracketed? cs with
  | some host => host
  | none =>
    if cs.any isForbiddenOpaque then .error .badHostChar
    else .ok (.name (String.ofList (cs.flatMap (encodeChar ""))))

/-- Start and length of the first longest run of zeros. -/
def zeroRun (pieces : List Nat) : Nat × Nat :=
  let length (i : Nat) : Nat := ((pieces.drop i).takeWhile (· == 0)).length
  (List.range pieces.length).foldl (fun best i =>
    if best.2 < length i then (i, length i) else best) (0, 0)

/-- Numbers with colons between them. -/
def colonText (pieces : List Nat) : String :=
  ":".intercalate (pieces.map Text.hex)

/-- A host as addresses write it. -/
def source : Host → String
  | name n => n
  | ipv4 n =>
    ".".intercalate ([n / 0x1000000, n / 0x10000 % 256, n / 0x100 % 256, n % 256].map Nat.repr)
  | ipv6 pieces =>
    let (start, length) := zeroRun pieces
    if length < 2 then "[" ++ colonText pieces ++ "]"
    else
      let rest := pieces.drop (start + length)
      "[" ++ colonText (pieces.take start) ++ "::" ++ colonText rest ++ "]"

end Host

end DocQuery.Url
