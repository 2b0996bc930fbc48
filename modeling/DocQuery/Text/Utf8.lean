/-! Reading UTF-8.  `decode` accepts well-formed bytes only and otherwise says where they stop being
well formed; `decodeLossy` replaces every longest truncated sequence by one replacement character
and goes on.  Both walk the bytes with a count of bytes that belong to the character just read. -/

namespace DocQuery.Utf8

/-- Where a byte string stops being UTF-8.  Without a length the bytes end inside a character. -/
structure Fault where
  offset : Nat
  length : Option Nat
  deriving DecidableEq, Repr

/-- Wording of a fault. -/
def Fault.message (fault : Fault) : String :=
  match fault.length with
  | some n => s!"invalid utf-8 sequence of {n} bytes from index {fault.offset}"
  | none => s!"incomplete utf-8 byte sequence from index {fault.offset}"

/-- The character that the bytes start with. -/
def firstChar? (bytes : List UInt8) : Option Char :=
  (bytes.take 4).toByteArray.utf8DecodeChar? 0

/-- Range of the byte that may follow a leading byte, and the number of bytes after that one. -/
def followers (lead : UInt8) : Option (UInt8 × UInt8 × Nat) :=
  if 0xc2 ≤ lead ∧ lead ≤ 0xdf then some (0x80, 0xbf, 0)
  else if lead = 0xe0 then some (0xa0, 0xbf, 1)
  else if lead = 0xed then some (0x80, 0x9f, 1)
  else if 0xe1 ≤ lead ∧ lead ≤ 0xef then some (0x80, 0xbf, 1)
  else if lead = 0xf0 then some (0x90, 0xbf, 2)
  else if 0xf1 ≤ lead ∧ lead ≤ 0xf3 then some (0x80, 0xbf, 2)
  else if lead = 0xf4 then some (0x80, 0x8f, 2)
  else none

/-- Number of leading continuation bytes, at most `limit`. -/
def continuations (limit : Nat) (bytes : List UInt8) : Nat :=
  ((bytes.take limit).takeWhile fun b => 0x80 ≤ b ∧ b ≤ 0xbf).length

/-- Length of the longest beginning of the bytes that also begins a character, at least one, and
whether the bytes end before the character does.  Used where no character can be read. -/
def truncated : List UInt8 → Nat × Bool
  | [] => (1, false)
  | lead :: rest =>
    match followers lead, rest with
    | none, _ => (1, false)
    | some _, [] => (1, true)
    | some (low, high, more), second :: rest =>
      if low ≤ second ∧ second ≤ high then
        let n := continuations more rest
        (2 + n, rest.length = n)
      else (1, false)

/-- Decodes from a position inside the bytes; `skip` bytes belong to the character before. -/
def decodeFrom (offset skip : Nat) : List UInt8 → Except Fault (List Char)
  | [] => .ok []
  | b :: bs =>
    match skip with
    | skip + 1 => decodeFrom (offset + 1) skip bs
    | 0 =>
      match firstChar? (b :: bs) with
      | some c => (c :: ·) <$> decodeFrom (offset + 1) (c.utf8Size - 1) bs
      | none =>
        let (length, cut) := truncated (b :: bs)
        .error { offset, length := if cut then none else some length }

/-- The text written by the bytes. -/
def decode (bytes : List UInt8) : Except Fault String :=
  String.ofList <$> decodeFrom 0 0 bytes

/-- Decodes with replacement; `skip` bytes belong to the character before. -/
def lossyFrom (skip : Nat) : List UInt8 → List Char
  | [] => []
  | b :: bs =>
    match skip with
    | skip + 1 => lossyFrom skip bs
    | 0 =>
      match firstChar? (b :: bs) with
      | some c => c :: lossyFrom (c.utf8Size - 1) bs
      | none => '\ufffd' :: lossyFrom ((truncated (b :: bs)).1 - 1) bs

/-- The text written by the bytes, with replacement characters where they are not UTF-8. -/
def decodeLossy (bytes : List UInt8) : String :=
  String.ofList (lossyFrom 0 bytes)

/-- The bytes of a text. -/
def encode (text : String) : List UInt8 :=
  text.toList.flatMap String.utf8EncodeChar

end DocQuery.Utf8
