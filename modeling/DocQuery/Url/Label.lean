import DocQuery.Unicode.Direction
import DocQuery.Unicode.Joining
import DocQuery.Url.HostMapping
import DocQuery.Url.Punycode
/-! Labels of host names, the parts between the dots.  A label is shown in all of Unicode and
written in ASCII.  Which labels there are follows from how they are seen: no mark stands alone,
joiners stand where they make a difference, and names with letters that are written from right to
left have labels of one direction each. -/

namespace DocQuery.Url

open Unicode (Direction Ranges)

/-- A label of a host name. -/
structure Label where
  /-- The characters that are shown. -/
  shown : List Char
  /-- How they are written in ASCII. -/
  written : List Char
  deriving DecidableEq, Repr

namespace Label

/-- Whether all characters are of ASCII. -/
def isAscii (cs : List Char) : Bool := cs.all (·.toNat < 0x80)

/-! ### Joiners -/

/-- Whether the first character that keeps letters apart is of a set. -/
def meets (set : Ranges) (cs : List Char) : Bool :=
  (cs.find? fun c => !Unicode.transparent.contains c.toNat).any fun c => set.contains c.toNat

/-- Whether a character may stand between those before it, given in reverse, and those after it.
Both joiners may stand after a sign that ties consonants together, and the one that parts letters
also between letters that would join. -/
def fitsBetween (before : List Char) (c : Char) (after : List Char) : Bool :=
  let isTied := before.head?.any fun b => Unicode.markClass b.toNat == 9
  if c = '\u200d' then isTied
  else if c = '\u200c' then
    isTied || (meets Unicode.joinsAfter before && meets Unicode.joinsBefore after)
  else true

/-- Whether all joiners have their places, after characters that are given in reverse. -/
def joinersFit (before : List Char) : List Char → Bool
  | [] => true
  | c :: cs => fitsBetween before c cs && joinersFit (c :: before) cs

/-! ### Directions -/

/-- Whether a text has characters that are written from right to left. -/
def hasRightToLeft (cs : List Char) : Bool :=
  (cs.map (Unicode.direction ·.toNat)).any fun d => d = .rightToLeft || d = .arabicNumber

/-- Whether characters after the first one, given from the last one on, are in order for a label
that is written from left to right. -/
def endsLeftToRight : List Direction → Bool
  | [] => true
  | last :: inner =>
    [.leftToRight, .europeanNumber].contains last &&
      inner.all fun d => !([.rightToLeft, .arabicNumber].contains d)

/-- Whether characters after the first one, given from the last one on, are in order for a label
that is written from right to left.  Numbers are all of one kind. -/
def endsRightToLeft : List Direction → Bool
  | [] => true
  | last :: inner =>
    [.rightToLeft, .europeanNumber, .arabicNumber].contains last && !inner.contains .leftToRight &&
      !((last :: inner).contains .europeanNumber && (last :: inner).contains .arabicNumber)

/-- Whether a label is of one direction.  It starts with a letter, and marks in the end do not
count. -/
def isDirected (cs : List Char) : Bool :=
  match cs.map (Unicode.direction ·.toNat) with
  | [] => true
  | first :: rest =>
    let rest := rest.reverse.dropWhile (· = .nonspacing)
    match first with
    | .leftToRight => endsLeftToRight rest
    | .rightToLeft => endsRightToLeft rest
    | _ => false

/-! ### Labels -/

/-- The greatest number of characters of a label that is not of ASCII. -/
def maxShown : Nat := 1000

/-- The greatest number of characters that are read as the ASCII of others. -/
def maxWritten : Nat := 2000

/-- Whether a label may be shown. -/
def isShown (cs : List Char) : Bool :=
  cs.length ≤ maxShown && !(cs.head?.any fun c => Unicode.everyMark.contains c.toNat) &&
    joinersFit [] cs

/-- What the ASCII of a label starts with if it stands for other characters. -/
def mark : List Char := ['x', 'n', '-', '-']

/-- The label that is written as a mark and a code. -/
def ofCode? (code : List Char) : Option Label :=
  if !isAscii code || maxWritten < code.length then none
  else (Punycode.decode code).bind fun cs =>
    if !isAscii cs && isShown cs && mapHost cs == some cs then
      some { shown := cs, written := mark ++ code }
    else none

/-- The label of characters after replacement, if there is one. -/
def ofChars? (cs : List Char) : Option Label :=
  if mark.isPrefixOf cs then ofCode? (cs.drop mark.length)
  else if isAscii cs then some { shown := cs, written := cs }
  else if isShown cs then some { shown := cs, written := mark ++ Punycode.encode cs }
  else none

/-- Whether labels make up a name. -/
def makeName (labels : List Label) : Bool :=
  !(labels.any fun l => hasRightToLeft l.shown) || labels.all fun l => isDirected l.shown

end Label

end DocQuery.Url
