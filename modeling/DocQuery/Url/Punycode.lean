/-! Punycode: a text written in ASCII.  The ASCII characters come first, and after a hyphen the
others by their numbers and places, as differences written in a base of 36 with digits of varying
weight. -/

namespace DocQuery.Url.Punycode

/-- The digit of a value below 36. -/
def digitOf (value : Nat) : Char :=
  Char.ofNat (if value < 26 then 97 + value else 22 + value)

/-- Value of a digit. -/
def valueOf? (c : Char) : Option Nat :=
  if 'a' ≤ c ∧ c ≤ 'z' then some (c.toNat - 97)
  else if 'A' ≤ c ∧ c ≤ 'Z' then some (c.toNat - 65)
  else if c.isDigit then some (c.toNat - 22)
  else none

/-- Halves a difference until it is small enough, counting the rounds. -/
def settle : (fuel : Nat) → (delta k : Nat) → Nat
  | 0, delta, k => k + 36 * delta / (delta + 38)
  | fuel + 1, delta, k =>
    if 455 < delta then settle fuel (delta / 35) (k + 36) else k + 36 * delta / (delta + 38)

/-- The bias after a difference. -/
def adapt (delta count : Nat) (first : Bool) : Nat :=
  let delta := if first then delta / 700 else delta / 2
  settle delta (delta + delta / count) 0

/-- The threshold of a digit. -/
def threshold (k bias : Nat) : Nat :=
  if k ≤ bias then 1 else if bias + 26 ≤ k then 26 else k - bias

/-- Writes a difference. -/
def writeDelta (bias : Nat) : (fuel : Nat) → (k q : Nat) → List Char
  | 0, _, q => [digitOf q]
  | fuel + 1, k, q =>
    let t := threshold k bias
    if q < t then [digitOf q]
    else digitOf (t + (q - t) % (36 - t)) :: writeDelta bias fuel (k + 36) ((q - t) / (36 - t))

/-- State of an encoder: the next number, the difference so far, the bias, and how many characters
are written. -/
structure Encoder where
  number : Nat := 128
  delta : Nat := 0
  bias : Nat := 72
  written : Nat

/-- Writes the characters of the number that is due, walking over all characters. -/
def encodeNumber (basic : Nat) : Encoder → List Nat → List Char × Encoder
  | e, [] => ([], e)
  | e, c :: cs =>
    if c < e.number then encodeNumber basic { e with delta := e.delta + 1 } cs
    else if c = e.number then
      let digits := writeDelta e.bias (e.delta + 1) 36 e.delta
      let bias := adapt e.delta (e.written + 1) (e.written == basic)
      let (more, e) :=
        encodeNumber basic { e with delta := 0, bias, written := e.written + 1 } cs
      (digits ++ more, e)
    else encodeNumber basic e cs

/-- Writes the characters by their numbers, least first. -/
def encodeNumbers (basic : Nat) (cs : List Nat) : Encoder → List Nat → List Char
  | _, [] => []
  | e, n :: ns =>
    let e := { e with delta := e.delta + (n - e.number) * (e.written + 1), number := n }
    let (digits, e) := encodeNumber basic e cs
    digits ++ encodeNumbers basic cs { e with delta := e.delta + 1, number := n + 1 } ns

/-- Writes a text. -/
def encode (text : List Char) : List Char :=
  let basic := text.filter (·.toNat < 128)
  let numbers := ((text.map Char.toNat).filter (128 ≤ ·)).eraseDups.mergeSort
  let front := if basic.isEmpty then [] else basic ++ ['-']
  front ++ encodeNumbers basic.length (text.map Char.toNat) { written := basic.length } numbers

/-- Reads a difference: its value and the digits after it. -/
def readDelta (bias : Nat) : (k weight value : Nat) → List Char → Option (Nat × List Char)
  | _, _, _, [] => none
  | k, weight, value, c :: cs =>
    match valueOf? c with
    | none => none
    | some digit =>
      let value := value + digit * weight
      let t := threshold k bias
      if 0x7fffffff < value then none
      else if digit < t then some (value, cs)
      else readDelta bias (k + 36) (weight * (36 - t)) value cs

/-- Reads characters by their differences and puts them into a text. -/
def decodeNumbers : (fuel : Nat) → (number place bias : Nat) → (text : List Char) → List Char →
    Option (List Char)
  | 0, _, _, _, text, _ => some text
  | _, _, _, _, text, [] => some text
  | fuel + 1, number, place, bias, text, digits =>
    match readDelta bias 36 1 0 digits with
    | none => none
    | some (delta, rest) =>
      let length := text.length + 1
      let i := place + delta
      let number := number + i / length
      if h : number.isValidChar then
        decodeNumbers fuel number (i % length + 1) (adapt delta length (place == 0))
          (text.insertIdx (i % length) (Char.ofNatAux number h)) rest
      else none

/-- The part before the last hyphen and the part after it. -/
def splitLast (cs : List Char) : List Char × List Char :=
  let after := (cs.reverse.takeWhile (· != '-')).reverse
  (cs.take (cs.length - after.length - 1), after)

/-- Reads a text.  A hyphen with nothing before it is no digit. -/
def decode (cs : List Char) : Option (List Char) :=
  let (basic, digits) := if (cs.drop 1).contains '-' then splitLast cs else ([], cs)
  if basic.all (·.toNat < 128) then decodeNumbers digits.length 128 0 72 basic digits else none

end DocQuery.Url.Punycode
