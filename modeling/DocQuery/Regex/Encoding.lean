import DocQuery.Unicode.Ranges
/-! Sets of characters as sequences of bytes.  A range of characters is cut where the length of
their encodings changes and at the borders of blocks, until the encodings of each piece are all
sequences with bytes from given ranges. -/

namespace DocQuery.Regex

open Unicode (Ranges)

/-- The bytes from one to another. -/
structure ByteRange where
  first : UInt8
  last : UInt8
  deriving DecidableEq, Hashable, Repr

namespace Encoding

/-- Ranges of characters with encodings of one length.  Surrogates are no characters. -/
def widths : List (Nat × Nat) :=
  [(0, 0x7f), (0x80, 0x7ff), (0x800, 0xd7ff), (0xe000, 0xffff), (0x10000, 0x10ffff)]

/-- The pieces of a range by the lengths of the encodings. -/
def byWidth (low high : Nat) : List (Nat × Nat) :=
  widths.filterMap fun (l, h) =>
    let (low, high) := (max low l, min high h)
    if low ≤ high then some (low, high) else none

/-- Cuts off what stands in the last block that a range comes into, unless it is all of the block
or all of the range. -/
def cutEnd (block low high : Nat) : List (Nat × Nat) :=
  if low / block = high / block ∨ high % block = block - 1 then [(low, high)]
  else [(low, high / block * block - 1), (high / block * block, high)]

/-- Cuts a range into whole blocks and what stands before and after them. -/
def cut (block low high : Nat) : List (Nat × Nat) :=
  if low / block = high / block then [(low, high)]
  else if low % block = 0 then cutEnd block low high
  else
    let next := (low / block + 1) * block
    (low, next - 1) :: cutEnd block next high

/-- Numbers of characters that share all bytes of their encodings but the last, the last two, and
the last three. -/
def blocks : List Nat := [0x40, 0x1000, 0x40000]

/-- The pieces of a range whose encodings are sequences with bytes from given ranges. -/
def pieces (low high : Nat) : List (Nat × Nat) :=
  blocks.foldl (fun ps block => ps.flatMap fun (l, h) => cut block l h) (byWidth low high)

/-- The encodings of a piece. -/
def sequenceOf (low high : Nat) : List ByteRange :=
  List.zipWith ByteRange.mk (String.utf8EncodeChar (Char.ofNat low))
    (String.utf8EncodeChar (Char.ofNat high))

/-- The encodings of a set of characters, in order. -/
def sequences (r : Ranges) : List (List ByteRange) :=
  r.bounds.toList.flatMap fun (l, h) => (pieces l h).map fun (l, h) => sequenceOf l h

end Encoding

end DocQuery.Regex
