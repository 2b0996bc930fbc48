import DocQuery.Json.Basic
import DocQuery.Json.Fault
/-! Reading JSON.  A reader takes characters and gives a value with the characters after it, which
are fewer.  Arrays and objects may nest 127 levels deep. -/

namespace DocQuery.Json

/-- Reading stops at the first fault. -/
abbrev Reading : Type → Type := Except Fault

/-- A value with the characters after it. -/
abbrev Ahead (cs : List Char) (α : Type) : Type :=
  { r : α × List Char // r.2.length < cs.length }

/-- A fault where characters have just been taken. -/
def faultAfter (cause : Cause) (rest : List Char) : Fault := ⟨cause, rest, 0⟩

/-- A fault at the character that is next. -/
def faultAt (cause : Cause) (rest : List Char) : Fault := ⟨cause, rest, min 1 rest.length⟩

/-- Blanks between tokens. -/
def isBlank (c : Char) : Bool := c == ' ' || c == '\n' || c == '\t' || c == '\r'

/-- The characters after blanks. -/
def skipBlanks (cs : List Char) : List Char := cs.dropWhile isBlank

/-- Skipping blanks does not lengthen what is left. -/
theorem length_skipBlanks_le (cs : List Char) : (skipBlanks cs).length ≤ cs.length :=
  (List.dropWhile_sublist _).length_le

/-- The next character after blanks and what follows it. -/
def next? (cs : List Char) : Option (Ahead cs Char) :=
  match h : skipBlanks cs with
  | [] => none
  | c :: rest => some ⟨(c, rest), by have := length_skipBlanks_le cs; rw [h] at this; exact this⟩

/-! ### Words and numbers -/

/-- Takes the characters of a word. -/
def readWord (cs : List Char) : List Char → Reading { rest : List Char // rest.length ≤ cs.length }
  | [] => .ok ⟨cs, Nat.le_refl _⟩
  | expected :: word =>
    match cs with
    | [] => .error (faultAfter .endInValue [])
    | c :: cs =>
      if c = expected then do
        let ⟨rest, h⟩ ← readWord cs word
        .ok ⟨rest, by simp only [List.length_cons]; omega⟩
      else .error (faultAfter .expectedIdent cs)

/-- Largest integer of 64 bits. -/
def maxInteger : Nat := 0xffffffffffffffff

/-- A value with the characters after it, which are no more than there were. -/
abbrev NotBehind (cs : List Char) (α : Type) : Type :=
  { r : α × List Char // r.2.length ≤ cs.length }

/-- Takes digits as long as their value stays within 64 bits.  Gives the value and the number of
digits taken. -/
def takeDigits (value taken : Nat) (cs : List Char) : NotBehind cs (Nat × Nat) :=
  match cs with
  | [] => ⟨((value, taken), []), Nat.le_refl _⟩
  | c :: rest =>
    let next := 10 * value + (c.toNat - 48)
    if c.isDigit && next ≤ maxInteger then
      let ⟨r, h⟩ := takeDigits next (taken + 1) rest
      ⟨r, Nat.le_succ_of_le h⟩
    else ⟨((value, taken), c :: rest), Nat.le_refl _⟩

/-- Takes digits whatever their value, and counts them. -/
def dropDigits (cs : List Char) : NotBehind cs Nat :=
  ⟨((cs.takeWhile Char.isDigit).length, cs.dropWhile Char.isDigit),
    (List.dropWhile_sublist _).length_le⟩

/-- Number read from a significand and a power of ten.  The significand and the power are rounded
to doubles and then multiplied or divided, with rounding; an exponent below `-308` is applied in
steps.  `none` stands for a number that is too large. -/
def assemble (negative : Bool) (significand : Nat) (exponent : Int) : Option Binary64 :=
  let power (n : Nat) := Binary64.ofDecimal false 1 n
  let rec shrink (fuel : Nat) (x : Binary64) (exponent : Int) : Option Binary64 :=
    if -308 ≤ exponent then
      if 0 ≤ exponent then
        if 308 < exponent then if x.isZero then some x else none
        else
          let y := x.mul (power exponent.toNat)
          if y.isFinite then some y else none
      else some (x.div (power (-exponent).toNat))
    else if x.isZero then some x
    else match fuel with
      | 0 => some (.zero false)
      | fuel + 1 => shrink fuel (x.div (power 308)) (exponent + 308)
  (shrink 4 (.ofRatio false significand 1) exponent).map fun x => if negative then x.neg else x

/-- Finishes a number without integer form. -/
def finish (negative : Bool) (significand : Nat) (exponent : Int) (rest : List Char) :
    Reading (NotBehind rest Number) :=
  match assemble negative significand exponent with
  | some x => .ok ⟨(.float x, rest), Nat.le_refl _⟩
  | none => .error (faultAfter .numberOutOfRange rest)

/-- Largest exponent that is computed with. -/
def maxExponent : Nat := 0x7fffffff

/-- Takes the digits of an exponent; `none` if their value is too large. -/
def takeExponent (value : Nat) (cs : List Char) : NotBehind cs (Option Nat) :=
  match cs with
  | [] => ⟨(some value, []), Nat.le_refl _⟩
  | c :: rest =>
    if c.isDigit then
      let next := 10 * value + (c.toNat - 48)
      if next ≤ maxExponent then
        let ⟨r, h⟩ := takeExponent next rest
        ⟨r, Nat.le_succ_of_le h⟩
      else ⟨(none, rest), Nat.le_succ _⟩
    else ⟨(some value, c :: rest), Nat.le_refl _⟩

/-- Takes the sign of an exponent; tells whether it is a minus. -/
def takeSign (cs : List Char) : NotBehind cs Bool :=
  match cs with
  | '+' :: rest => ⟨(false, rest), Nat.le_succ _⟩
  | '-' :: rest => ⟨(true, rest), Nat.le_succ _⟩
  | cs => ⟨(false, cs), Nat.le_refl _⟩

/-- Reads an exponent after its letter. -/
def readExponent (negative : Bool) (significand : Nat) (start : Int) (cs : List Char) :
    Reading (NotBehind cs Number) :=
  let ⟨(down, cs1), h1⟩ := takeSign cs
  match cs1.head? with
  | none => .error (faultAfter .endInValue [])
  | some c =>
    if !c.isDigit then .error (faultAfter .invalidNumber cs1.tail)
    else match takeExponent 0 cs1 with
      | ⟨(some n, r), h2⟩ => do
        let ⟨x, h3⟩ ← finish negative significand (if down then start - n else start + n) r
        .ok ⟨x, Nat.le_trans h3 (Nat.le_trans h2 h1)⟩
      | ⟨(none, r), h2⟩ =>
        if significand ≠ 0 ∧ !down then .error (faultAfter .numberOutOfRange r)
        else
          let ⟨(_, r'), h3⟩ := dropDigits r
          .ok ⟨(.float (.zero negative), r'), Nat.le_trans h3 (Nat.le_trans h2 h1)⟩

/-- Reads what may follow the digits of a significand: an exponent. -/
def readScale (negative : Bool) (significand : Nat) (exponent : Int) (cs : List Char) :
    Reading (NotBehind cs Number) :=
  match cs with
  | [] => finish negative significand exponent []
  | c :: rest =>
    if c = 'e' ∨ c = 'E' then do
      let ⟨x, h⟩ ← readExponent negative significand exponent rest
      .ok ⟨x, Nat.le_succ_of_le h⟩
    else finish negative significand exponent (c :: rest)

/-- Reads a fraction after its point.  Digits beyond 64 bits are dropped. -/
def readFraction (negative : Bool) (significand : Nat) (exponent : Int) (cs : List Char) :
    Reading (NotBehind cs Number) :=
  let ⟨((value, taken), r1), h1⟩ := takeDigits significand 0 cs
  let ⟨(dropped, r2), h2⟩ := dropDigits r1
  if taken = 0 ∧ dropped = 0 then
    .error (faultAt (if r1.isEmpty then .endInValue else .invalidNumber) r1)
  else do
    let ⟨x, h3⟩ ← readScale negative value (exponent - taken) r2
    .ok ⟨x, Nat.le_trans h3 (Nat.le_trans h2 h1)⟩

/-- The integer with a sign, or the nearest double where 64 bits have no room for it.  Negative
zero is a double. -/
def integer (negative : Bool) (value : Nat) : Number :=
  if !negative then .integer value
  else if value = 0 ∨ 0x8000000000000000 < value then .float (.ofRatio true value 1)
  else .integer (-value)

/-- Reads a number after its sign. -/
def readNumber (negative : Bool) (cs : List Char) : Reading (Ahead cs Number) :=
  match cs with
  | [] => .error (faultAfter .endInValue [])
  | c :: rest =>
    if !c.isDigit then .error (faultAfter .invalidNumber rest)
    else if c = '0' ∧ rest.head?.any Char.isDigit then .error (faultAt .invalidNumber rest)
    else do
      let ⟨((value, _), r1), h1⟩ := takeDigits (c.toNat - 48) 1 rest
      let ⟨(dropped, r2), h2⟩ := dropDigits r1
      let ⟨x, h3⟩ ← (match r2 with
        | '.' :: r3 => do
          let ⟨x, h⟩ ← readFraction negative value dropped r3
          .ok ⟨x, Nat.le_succ_of_le h⟩
        | r2 =>
          if dropped = 0 ∧ !(r2.head?.any fun c => c = 'e' ∨ c = 'E') then
            .ok ⟨(integer negative value, r2), Nat.le_refl _⟩
          else readScale negative value dropped r2 : Reading (NotBehind r2 Number))
      .ok ⟨x, Nat.lt_succ_of_le (Nat.le_trans h3 (Nat.le_trans h2 h1))⟩

/-! ### Strings -/

/-- Value of four hexadecimal digits in any case. -/
def hexValue? (digits : List Char) : Option Nat :=
  digits.foldl (fun n c => do
    let n ← n
    let d ← if c.isDigit then some (c.toNat - 48)
      else if 'a' ≤ c ∧ c ≤ 'f' then some (c.toNat - 87)
      else if 'A' ≤ c ∧ c ≤ 'F' then some (c.toNat - 55)
      else none
    some (16 * n + d)) (some 0)

/-- Takes four hexadecimal digits. -/
def readHex (cs : List Char) : Reading (Ahead cs Nat) :=
  match cs with
  | a :: b :: c :: d :: rest =>
    match hexValue? [a, b, c, d] with
    | some n => .ok ⟨(n, rest), by simp only [List.length_cons]; omega⟩
    | none => .error ⟨.invalidEscape, a :: b :: c :: d :: rest, 4⟩
  | cs =>
    if byteCount cs < 4 then .error (faultAfter .endInString [])
    else .error ⟨.invalidEscape, cs, 4⟩

/-- Takes a character that is required inside an escape. -/
def readEscapeChar (expected : Char) (cs : List Char) : Reading (Ahead cs Unit) :=
  match cs with
  | [] => .error (faultAfter .endInString [])
  | c :: rest =>
    if c = expected then .ok ⟨((), rest), Nat.lt_succ_self _⟩
    else .error (faultAt .unfinishedHexEscape (c :: rest))

/-- Reads an escaped code point after `\u`; two surrogates make one. -/
def readCodePoint (cs : List Char) : Reading (Ahead cs Char) := do
  let ⟨(high, r1), h1⟩ ← readHex cs
  if 0xdc00 ≤ high ∧ high ≤ 0xdfff then .error (faultAfter .loneSurrogate r1)
  else if high < 0xd800 ∨ 0xdbff < high then .ok ⟨(Char.ofNat high, r1), h1⟩
  else
    let ⟨(_, r2), h2⟩ ← readEscapeChar '\\' r1
    let ⟨(_, r3), h3⟩ ← readEscapeChar 'u' r2
    let ⟨(low, r4), h4⟩ ← readHex r3
    if low < 0xdc00 ∨ 0xdfff < low then .error (faultAfter .loneSurrogate r4)
    else
      .ok ⟨(Char.ofNat (0x10000 + (high - 0xd800) * 0x400 + (low - 0xdc00)), r4), by
        simp only at h1 h2 h3 h4 ⊢; omega⟩

/-- Reads an escape after its backslash. -/
def readEscape (cs : List Char) : Reading (Ahead cs Char) :=
  match cs with
  | [] => .error (faultAfter .endInString [])
  | c :: rest =>
    let simple (r : Char) : Reading (Ahead (c :: rest) Char) :=
      .ok ⟨(r, rest), Nat.lt_succ_self _⟩
    if c = '\x22' ∨ c = '\\' ∨ c = '/' then simple c
    else if c = 'b' then simple '\x08'
    else if c = 'f' then simple '\x0c'
    else if c = 'n' then simple '\n'
    else if c = 'r' then simple '\r'
    else if c = 't' then simple '\t'
    else if c = 'u' then do
      let ⟨r, h⟩ ← readCodePoint rest
      .ok ⟨r, Nat.lt_succ_of_lt h⟩
    else .error (faultAfter .invalidEscape rest)

/-- Reads the characters of a string up to its closing quote. -/
def readStringTail (cs : List Char) : Reading (Ahead cs (List Char)) :=
  match cs with
  | [] => .error (faultAfter .endInString [])
  | c :: rest =>
    if c = '\x22' then .ok ⟨([], rest), Nat.lt_succ_self _⟩
    else if c = '\\' then do
      let ⟨(d, r1), h1⟩ ← readEscape rest
      have : r1.length < rest.length := h1
      let ⟨(ds, r2), h2⟩ ← readStringTail r1
      .ok ⟨(d :: ds, r2), by simp only [List.length_cons] at h2 ⊢; omega⟩
    else if c.toNat < 0x20 then .error (faultAfter .controlCharacter rest)
    else do
      let ⟨(ds, r1), h1⟩ ← readStringTail rest
      .ok ⟨(c :: ds, r1), Nat.lt_succ_of_lt h1⟩
termination_by cs.length

/-- Reads a string after its opening quote. -/
def readString (cs : List Char) : Reading (Ahead cs String) := do
  let ⟨(ds, rest), h⟩ ← readStringTail cs
  .ok ⟨(String.ofList ds, rest), h⟩

/-! ### Arrays and objects -/

/-- Reads the items of an array up to its bracket; `first` tells whether none has been read. -/
def readItems (readItem : (cs : List Char) → Reading (Ahead cs α)) (first : Bool)
    (cs : List Char) : Reading (Ahead cs (List α)) :=
  match next? cs with
  | none => .error (faultAt .endInList [])
  | some ⟨(c, r1), h1⟩ =>
    have h1 : r1.length < cs.length := h1
    if c = ']' then .ok ⟨([], r1), h1⟩
    else if first then do
      let ⟨(item, r2), h2⟩ ← readItem cs
      have h2 : r2.length < cs.length := h2
      let ⟨(items, r3), h3⟩ ← readItems readItem false r2
      .ok ⟨(item :: items, r3), Nat.lt_trans h3 h2⟩
    else if c = ',' then
      match next? r1 with
      | none => .error (faultAt .endInValue [])
      | some ⟨(c', r'), _⟩ =>
        if c' = ']' then .error (faultAt .trailingComma (c' :: r'))
        else do
          let ⟨(item, r2), h2⟩ ← readItem r1
          have h2 : r2.length < cs.length := Nat.lt_trans h2 h1
          let ⟨(items, r3), h3⟩ ← readItems readItem false r2
          .ok ⟨(item :: items, r3), Nat.lt_trans h3 h2⟩
    else .error (faultAt .expectedCommaOrBracket (c :: r1))
termination_by cs.length

/-- Reads the colon between a key and its value. -/
def readColon (cs : List Char) : Reading (Ahead cs Unit) :=
  match next? cs with
  | none => .error (faultAt .endInObject [])
  | some ⟨(c, rest), h⟩ =>
    if c = ':' then .ok ⟨((), rest), h⟩ else .error (faultAt .expectedColon (c :: rest))

/-- Takes the opening quote of the next key, or the brace that ends the object. -/
def nextKey (first : Bool) (cs : List Char) : Reading (Ahead cs Bool) :=
  match next? cs with
  | none => .error (faultAt .endInObject [])
  | some ⟨(c, r1), h1⟩ =>
    if c = '\x7d' then .ok ⟨(false, r1), h1⟩
    else if first then
      if c = '\x22' then .ok ⟨(true, r1), h1⟩ else .error (faultAt .keyNotString (c :: r1))
    else if c = ',' then
      match next? r1 with
      | none => .error (faultAt .endInValue [])
      | some ⟨(c', r2), h2⟩ =>
        if c' = '\x22' then .ok ⟨(true, r2), Nat.lt_trans h2 h1⟩
        else if c' = '\x7d' then .error (faultAt .trailingComma (c' :: r2))
        else .error (faultAt .keyNotString (c' :: r2))
    else .error (faultAt .expectedCommaOrBrace (c :: r1))

/-- Reads the members of an object up to its brace; `first` tells whether none has been read. -/
def readMembers (readItem : (cs : List Char) → Reading (Ahead cs α)) (first : Bool)
    (cs : List Char) : Reading (Ahead cs (List (String × α))) := do
  let ⟨(more, r1), h1⟩ ← nextKey first cs
  if more then
    let ⟨(key, r2), h2⟩ ← readString r1
    let ⟨(_, r3), h3⟩ ← readColon r2
    let ⟨(value, r4), h4⟩ ← readItem r3
    have h4 : r4.length < cs.length := by simp only at h1 h2 h3 h4; omega
    let ⟨(members, r5), h5⟩ ← readMembers readItem false r4
    .ok ⟨((key, value) :: members, r5), Nat.lt_trans h5 h4⟩
  else .ok ⟨([], r1), h1⟩
termination_by cs.length

/-! ### Values -/

/-- Reads a value that may nest below `depth` levels. -/
def readValue (depth : Nat) (cs : List Char) : Reading (Ahead cs Json) :=
  match next? cs with
  | none => .error (faultAt .endInValue [])
  | some ⟨(c, rest), h⟩ =>
    have h : rest.length < cs.length := h
    let word (w : List Char) (value : Json) : Reading (Ahead cs Json) := do
      let ⟨r, hr⟩ ← readWord rest w
      .ok ⟨(value, r), Nat.lt_of_le_of_lt hr h⟩
    if c = 'n' then word ['u', 'l', 'l'] .null
    else if c = 't' then word ['r', 'u', 'e'] (.bool true)
    else if c = 'f' then word ['a', 'l', 's', 'e'] (.bool false)
    else if c = '-' then do
      let ⟨(n, r), hr⟩ ← readNumber true rest
      .ok ⟨(.number n, r), Nat.lt_trans hr h⟩
    else if c.isDigit then do
      let ⟨(n, r), hr⟩ ← readNumber false (c :: rest)
      .ok ⟨(.number n, r), Nat.lt_of_lt_of_le hr h⟩
    else if c = '\x22' then do
      let ⟨(s, r), hr⟩ ← readString rest
      .ok ⟨(.string s, r), Nat.lt_trans hr h⟩
    else if c = '[' then
      match depth with
      | 0 => .error (faultAt .tooDeep (c :: rest))
      | depth + 1 => do
        let ⟨(items, r), hr⟩ ← readItems (readValue depth) true rest
        .ok ⟨(.array items, r), Nat.lt_trans hr h⟩
    else if c = '\x7b' then
      match depth with
      | 0 => .error (faultAt .tooDeep (c :: rest))
      | depth + 1 => do
        let ⟨(members, r), hr⟩ ← readMembers (readValue depth) true rest
        .ok ⟨(.ofMembers members, r), Nat.lt_trans hr h⟩
    else .error (faultAt .expectedValue (c :: rest))

/-- Number of levels that arrays and objects may nest. -/
def maxDepth : Nat := 127

/-- Ends a text after which only blanks may stand. -/
def readEnd (cs : List Char) : Reading Unit :=
  match next? cs with
  | none => .ok ()
  | some ⟨(c, rest), _⟩ => .error (faultAt .trailingCharacters (c :: rest))

/-- Reads a text that is one value. -/
def ofText (text : String) : Reading Json := do
  let ⟨(value, rest), _⟩ ← readValue maxDepth text.toList
  readEnd rest
  return value

end DocQuery.Json
