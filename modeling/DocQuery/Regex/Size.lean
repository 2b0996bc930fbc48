import DocQuery.Regex.Encoding
import DocQuery.Regex.Expr
import Std.Data.HashMap
/-! How much room the automaton of an expression takes up when it reads bytes.  There are two of
them, one that reads forwards and notes groups, and one that reads backwards from the end of a
match; a pattern is too large if either of them is. -/

namespace DocQuery.Regex

open Unicode (Ranges)

/-- The order in which an automaton reads. -/
inductive Direction where
  | forward
  | backward
  deriving DecidableEq, Repr

namespace Size

/-- Bytes of a state. -/
def state : Nat := 32

/-- Bytes of a state that chooses among other states. -/
def choice (ways : Nat) : Nat := state + 4 * ways

/-- Bytes of a state that takes a byte from one of several ranges. -/
def taking (ranges : Nat) : Nat := state + 8 * ranges

/-! ### Sets -/

/-- Nodes that were met, by the ranges that lead out of them and the numbers of the nodes behind,
with their size. -/
structure Nodes where
  numbers : Std.HashMap (List (ByteRange × Nat)) Nat := ∅
  size : Nat := 0

/-- The number of a node; one that was met before is used again. -/
def Nodes.number (node : List (ByteRange × Nat)) : StateM Nodes Nat := do
  let nodes ← get
  match nodes.numbers[node]? with
  | some n => return n
  | none =>
    let n := nodes.numbers.size + 1
    let size := nodes.size + taking node.length
    set ({ numbers := nodes.numbers.insert node n, size } : Nodes)
    return n

/-- Puts the rests of neighbours that start alike together. -/
def groupStarts : List (List ByteRange) → List (ByteRange × List (List ByteRange))
  | [] => []
  | [] :: seqs => groupStarts seqs
  | (r :: rest) :: seqs =>
    match groupStarts seqs with
    | (s, rests) :: groups =>
      if r = s then (r, rest :: rests) :: groups else (r, [rest]) :: (s, rests) :: groups
    | [] => [(r, [rest])]

/-- Numbers the node where some sequences of at most `length` bytes start, after those behind it.
The node behind all sequences has the number `0`. -/
def numberNodes : (length : Nat) → List (List ByteRange) → StateM Nodes Nat
  | 0, _ => return 0
  | length + 1, seqs =>
    match groupStarts seqs with
    | [] => return 0
    | groups => do
      Nodes.number (← groups.mapM fun (r, rests) => return (r, ← numberNodes length rests))

/-- Number of bytes that two sequences start with in common. -/
def sharedLength : List ByteRange → List ByteRange → Nat
  | r :: rs, s :: ss => if r = s then sharedLength rs ss + 1 else 0
  | _, _ => 0

/-- Number of bytes of sequences that are not shared with the sequence before. -/
def ownLength (before : List ByteRange) : List (List ByteRange) → Nat
  | [] => 0
  | seq :: seqs => seq.length - sharedLength before seq + ownLength seq seqs

/-- Size of a set.  Forwards, sequences share what they end with; backwards, what they start
with. -/
def ofSet (d : Direction) (r : Ranges) : Nat :=
  if r.bounds.all fun b => b.2 < 0x80 then state + taking r.bounds.size
  else
    let seqs := Encoding.sequences r
    match d with
    | .forward => state + ((numberNodes 4 seqs).run {}).2.size
    | .backward => choice seqs.length + state + state * ownLength [] seqs

/-! ### Texts -/

/-- The bytes of a text in the order in which they are read. -/
def bytesOf (d : Direction) (cs : List Char) : List UInt8 :=
  let bytes := cs.flatMap String.utf8EncodeChar
  match d with
  | .forward => bytes
  | .backward => bytes.reverse

/-- Adds up a measure of the members of a list. -/
def total (size : α → Nat) (xs : List α) : Nat := xs.foldl (fun n x => n + size x) 0

/-- The words between those that end here. -/
def cutAtEnds : List (List UInt8) → List (List (List UInt8))
  | [] => [[]]
  | [] :: words => [] :: cutAtEnds words
  | word :: words =>
    match cutAtEnds words with
    | chunk :: chunks => (word :: chunk) :: chunks
    | [] => [[word]]

/-- The words between those that end here; words that end here before all others count once. -/
def chunksOf : List (List UInt8) → List (List (List UInt8))
  | [] :: words => [] :: cutAtEnds (words.dropWhile List.isEmpty)
  | words => cutAtEnds words

/-- The rests of the words that start with a byte. -/
def restsAfter (b : UInt8) (words : List (List UInt8)) : List (List UInt8) :=
  words.filterMap fun
    | [] => none
    | c :: rest => if b = c then some rest else none

/-- The rests of words by the bytes that they start with. -/
def byFirst (words : List (List UInt8)) : List (List (List UInt8)) :=
  ((words.filterMap List.head?).eraseDups).map (restsAfter · words)

/-- Size of the node where some words of at most `length` bytes start.  It chooses among the words
between those that end here and the ends; a node where words only end is none. -/
def ofNode : (length : Nat) → List (List UInt8) → Nat
  | 0, _ => 0
  | length + 1, words =>
    if words.all List.isEmpty then 0
    else
      let chunks := chunksOf words
      let starts := chunks.map byFirst |>.filter (!·.isEmpty)
      choice (starts.length + (chunks.length - 1)) + total (fun children =>
        (if children.length = 1 then state else taking children.length) +
          total (ofNode length) children) starts

/-- Size of branches that are all texts. -/
def ofTexts (d : Direction) (texts : List (List Char)) : Nat :=
  let words := texts.map (bytesOf d)
  state + ofNode ((words.map List.length).foldl max 0 + 1) words

/-! ### Expressions -/

/-- The texts that expressions are, if they are all texts. -/
def texts? : List Expr → Option (List (List Char))
  | [] => some []
  | .text cs :: es => (texts? es).map (cs :: ·)
  | _ => none

/-- Size of `count` copies of a body. -/
def copies (count body : Nat) : Nat := if count = 0 then state else count * body

/-- Size of a repetition of a body of a given size.  Without a greatest count there is a loop, which
needs more care around a body that may match no character. -/
def ofRepetition (min : Nat) (max : Option Nat) (mayBeEmpty : Bool) (body : Nat) : Nat :=
  match min, max with
  | 0, some 1 => choice 2 + body + state
  | 0, none => if mayBeEmpty then body + 2 * choice 2 + state else choice 2 + body
  | min, none => copies min body + choice 2
  | min, some max =>
    copies min body + if min = max then 0 else state + (max - min) * (choice 2 + body)

mutual

/-- Size of an expression. -/
def ofExpr (d : Direction) : Expr → Nat
  | .empty | .look _ => state
  | .text cs => state * (bytesOf d cs).length
  | .set r => ofSet d r
  | .repetition min max _ body => ofRepetition min max body.mayBeEmpty (ofExpr d body)
  | .capture _ body => if d = .forward then ofExpr d body + 2 * state else ofExpr d body
  | .concat items => ofExprs d items
  | .alternate branches =>
    match texts? branches with
    | some texts => ofTexts d texts
    | none => choice branches.length + ofExprs d branches + state

/-- Size of some expressions. -/
def ofExprs (d : Direction) : List Expr → Nat
  | [] => 0
  | e :: es => ofExpr d e + ofExprs d es

end

mutual

/-- Whether an expression matches only from one end of the whole text on. -/
def isAnchored (d : Direction) : Expr → Bool
  | .look l => l == if d = .forward then .textStart else .textEnd
  | .repetition min _ _ body => min != 0 && isAnchored d body
  | .capture _ body => isAnchored d body
  | .concat items => match d with
    | .forward => isFirstAnchored items
    | .backward => isLastAnchored items
  | .alternate branches => areAnchored d branches
  | _ => false

/-- Whether one of the first expressions, before any that takes a character, is anchored at the
start. -/
def isFirstAnchored : List Expr → Bool
  | [] => false
  | e :: es => isAnchored .forward e || (e.isAlwaysEmpty && isFirstAnchored es)

/-- Whether one of the last expressions, after any that takes a character, is anchored at the
end. -/
def isLastAnchored : List Expr → Bool
  | [] => false
  | e :: es => isLastAnchored es || (Expr.areAlwaysEmpty es && isAnchored .backward e)

/-- Whether all expressions are anchored. -/
def areAnchored (d : Direction) : List Expr → Bool
  | [] => true
  | e :: es => isAnchored d e && areAnchored d es

end

/-- Size of what stands before an expression so that a match may start anywhere: a loop over any
byte. -/
def ofStart (d : Direction) (e : Expr) : Nat :=
  if isAnchored d e then state else choice 2 + state + taking 1

/-- Size of the automaton of an expression, with the notes of the whole match and its end. -/
def ofAutomaton (d : Direction) (e : Expr) : Nat :=
  ofStart d e + ofExpr d (.capture 0 e) + state

end Size

/-- The greatest size of an automaton. -/
def sizeLimit : Nat := 10485760

/-- Whether the automata of an expression are small enough. -/
def Expr.fits (e : Expr) : Bool :=
  Size.ofAutomaton .forward e ≤ sizeLimit && Size.ofAutomaton .backward e ≤ sizeLimit

end DocQuery.Regex
