/-! Sets of code points as sorted ranges.  Tables are written as text: hexadecimal numbers and
ranges of them with a hyphen, separated by blanks and line breaks. -/

namespace DocQuery.Unicode

/-- The entries of a table: what stands between blanks and line breaks. -/
def words (text : String) : List String :=
  (text.splitToList Char.isWhitespace).filter (!·.isEmpty)

/-- A set of code points, given by disjoint ranges in increasing order, ends included. -/
structure Ranges where
  bounds : Array (Nat × Nat)
  deriving DecidableEq, Repr, Inhabited

namespace Ranges

/-- Value of a hexadecimal digit in lower case. -/
def hexDigit (c : Char) : Nat :=
  if c.isDigit then c.toNat - 48 else c.toNat - 87

/-- Value of hexadecimal digits. -/
def hexValue (digits : List Char) : Nat :=
  digits.foldl (fun n c => 16 * n + hexDigit c) 0

/-- Reader state: the ranges so far, the start of an open range, and the number being read. -/
structure Reading where
  bounds : Array (Nat × Nat) := #[]
  low : Option Nat := none
  number : Option Nat := none

namespace Reading

/-- Closes the range being read. -/
def close (r : Reading) : Reading :=
  match r.number with
  | none => r
  | some high => { bounds := r.bounds.push (r.low.getD high, high) }

/-- Reads one character of a table. -/
def step (r : Reading) (c : Char) : Reading :=
  if c.isWhitespace then r.close
  else if c = '-' then { r with low := r.number, number := none }
  else { r with number := some (16 * r.number.getD 0 + hexDigit c) }

end Reading

/-- Reads a table. -/
def ofText (text : String) : Ranges :=
  ⟨((text.toList.foldl Reading.step {}).close).bounds⟩

/-- Searches the ranges from `low` up to `high` for one that holds `n`; each round halves them. -/
def search (bounds : Array (Nat × Nat)) (n : Nat) : (fuel low high : Nat) → Bool
  | 0, _, _ => false
  | fuel + 1, low, high =>
    if low < high then
      let middle := (low + high) / 2
      let (first, last) := bounds.getD middle (0, 0)
      if n < first then search bounds n fuel low middle
      else if last < n then search bounds n fuel (middle + 1) high
      else true
    else false

/-- Whether a code point is in the set. -/
def contains (r : Ranges) (n : Nat) : Bool :=
  search r.bounds n (r.bounds.size.log2 + 2) 0 r.bounds.size

/-! ### Algebra -/

/-- The greatest code point. -/
def maxPoint : Nat := 0x10ffff

/-- Joins ranges that are in the order of their starts and touch or overlap. -/
def join (low high : Nat) : List (Nat × Nat) → List (Nat × Nat)
  | [] => [(low, high)]
  | (l, h) :: rest =>
    if l ≤ high + 1 then join low (max high h) rest else (low, high) :: join l h rest

/-- The set of the given ranges, in any order. -/
def ofBounds (bounds : List (Nat × Nat)) : Ranges :=
  match bounds.mergeSort fun a b => a.1 ≤ b.1 with
  | [] => ⟨#[]⟩
  | (l, h) :: rest => ⟨(join l h rest).toArray⟩

/-- The set of one range. -/
def ofPair (low high : Nat) : Ranges := ⟨#[(low, high)]⟩

/-- Gaps before and between ranges, from `start` on. -/
def gaps (start : Nat) : List (Nat × Nat) → List (Nat × Nat)
  | [] => if start ≤ maxPoint then [(start, maxPoint)] else []
  | (l, h) :: rest => if start < l then (start, l - 1) :: gaps (h + 1) rest else gaps (h + 1) rest

/-- All code points outside a set. -/
def complement (r : Ranges) : Ranges := ⟨(gaps 0 r.bounds.toList).toArray⟩

def union (r s : Ranges) : Ranges := ofBounds (r.bounds.toList ++ s.bounds.toList)

def inter (r s : Ranges) : Ranges := (r.complement.union s.complement).complement

def diff (r s : Ranges) : Ranges := r.inter s.complement

/-- Code points in exactly one of two sets. -/
def symmetricDiff (r s : Ranges) : Ranges := (r.union s).diff (r.inter s)

end Ranges

end DocQuery.Unicode
