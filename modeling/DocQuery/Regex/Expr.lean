import DocQuery.Regex.Pattern
import DocQuery.Unicode.Ranges
/-! Regular expressions in a plain form.  Characters that follow each other are one text, one
expression after another holds no such expression itself, branches that are characters or sets are
one set, and what all branches start with stands before them. -/

namespace DocQuery.Regex

open Unicode (Ranges)

/-- A place between characters, as the flags have it. -/
inductive Look where
  | textStart
  | textEnd
  /-- After a line end; with `crlf`, a carriage return ends a line too. -/
  | lineStart (crlf : Bool)
  | lineEnd (crlf : Bool)
  /-- A border of a word, in the sense of Unicode or of ASCII. -/
  | word (border : Assertion) (unicode : Bool)
  deriving DecidableEq, Repr

/-- A regular expression. -/
inductive Expr where
  | empty
  | text (cs : List Char)
  | set (r : Ranges)
  | look (l : Look)
  | repetition (min : Nat) (max : Option Nat) (greedy : Bool) (body : Expr)
  | capture (index : Nat) (body : Expr)
  | concat (items : List Expr)
  | alternate (branches : List Expr)
  deriving Inhabited

namespace Expr

/-! ### Measures -/

/-- The length of a text made of two, if both have one. -/
def addLengths? (m n : Option Nat) : Option Nat := m.bind fun m => n.map (m + ·)

/-- The shorter of two lengths, if both are there. -/
def minLength? (m n : Option Nat) : Option Nat := m.bind fun m => n.map (Nat.min m)

mutual

/-- The least number of characters that are matched, if the form tells that there is a match. -/
def leastLength? : Expr → Option Nat
  | empty | look _ => some 0
  | text cs => some cs.length
  | set r => if r.bounds.isEmpty then none else some 1
  | repetition min _ _ body => body.leastLength?.map (min * ·)
  | capture _ body => body.leastLength?
  | concat items => leastLengthOfAll? items
  | alternate branches => leastLengthOfAny? branches

/-- The least number of characters that are matched one after the other. -/
def leastLengthOfAll? : List Expr → Option Nat
  | [] => some 0
  | e :: es => addLengths? e.leastLength? (leastLengthOfAll? es)

/-- The least number of characters that a branch matches. -/
def leastLengthOfAny? : List Expr → Option Nat
  | [] => none
  | [e] => e.leastLength?
  | e :: es => minLength? e.leastLength? (leastLengthOfAny? es)

end

/-- Whether no character may be matched, as far as the form tells. -/
def mayBeEmpty (e : Expr) : Bool := !e.leastLength?.any (0 < ·)

mutual

/-- Whether no character is ever matched. -/
def isAlwaysEmpty : Expr → Bool
  | empty | look _ => true
  | text cs => cs.isEmpty
  | set _ => false
  | repetition _ _ _ body | capture _ body => body.isAlwaysEmpty
  | concat items | alternate items => areAlwaysEmpty items

/-- Whether some expressions never match a character. -/
def areAlwaysEmpty : List Expr → Bool
  | [] => true
  | e :: es => e.isAlwaysEmpty && areAlwaysEmpty es

end

mutual

/-- The greatest number of a group. -/
def lastGroup : Expr → Nat
  | empty | text _ | set _ | look _ => 0
  | repetition _ _ _ body => body.lastGroup
  | capture index body => Nat.max index body.lastGroup
  | concat items | alternate items => lastGroupOf items

/-- The greatest number of a group in some expressions. -/
def lastGroupOf : List Expr → Nat
  | [] => 0
  | e :: es => Nat.max e.lastGroup (lastGroupOf es)

end

mutual

/-- Number of parts. -/
def parts : Expr → Nat
  | empty | text _ | set _ | look _ => 1
  | repetition _ _ _ body | capture _ body => body.parts + 1
  | concat items | alternate items => partsOf items + 1

/-- Number of parts of some expressions. -/
def partsOf : List Expr → Nat
  | [] => 0
  | e :: es => e.parts + partsOf es

end

/-- The expressions that an expression is one after the other. -/
def items : Expr → List Expr
  | empty => []
  | concat es => es
  | e => [e]

/-- The branches of an expression. -/
def branches : Expr → List Expr
  | alternate es => es
  | e => [e]

mutual

/-- Whether two expressions have the same form. -/
def same : Expr → Expr → Bool
  | empty, empty => true
  | text s, text t => s == t
  | set r, set s => r == s
  | look k, look l => k == l
  | repetition min max greedy e, repetition min' max' greedy' f =>
    min == min' && max == max' && greedy == greedy' && e.same f
  | capture i e, capture j f => i == j && e.same f
  | concat es, concat fs | alternate es, alternate fs => areSame es fs
  | _, _ => false

/-- Whether expressions have the same form one by one. -/
def areSame : List Expr → List Expr → Bool
  | [], [] => true
  | e :: es, f :: fs => e.same f && areSame es fs
  | _, _ => false

end

/-! ### Plain forms -/

/-- Code points that are no characters. -/
def surrogates : Ranges := .ofPair 0xd800 0xdfff

/-- The characters of a set; a single one is a text. -/
def ofRanges (r : Ranges) : Expr :=
  let r := if r.contains 0xd800 then r.diff surrogates else r
  match r.bounds.toList with
  | [(low, high)] => if low = high then text [Char.ofNat low] else set r
  | _ => set r

/-- A repetition.  One that can match no character is done at most once. -/
def repeated (min : Nat) (max : Option Nat) (greedy : Bool) (body : Expr) : Expr :=
  let (min, max) :=
    if body.isAlwaysEmpty then (Nat.min min 1, some ((max.map (Nat.min 1)).getD 1)) else (min, max)
  match min, max with
  | 0, some 0 => empty
  | 1, some 1 => body
  | min, max => repetition min max greedy body

/-- Joins texts that follow each other. -/
def joinTexts : List Expr → List Expr
  | [] => []
  | text s :: es =>
    match joinTexts es with
    | text t :: fs => text (s ++ t) :: fs
    | fs => text s :: fs
  | e :: es => e :: joinTexts es

/-- Expressions one after the other. -/
def ofItems (es : List Expr) : Expr :=
  match joinTexts (es.flatMap items) with
  | [] => empty
  | [e] => e
  | es => concat es

/-- The set of the characters that some branches are, if each is a single one. -/
def characters? : List Expr → Option (List (Nat × Nat))
  | [] => some []
  | text [c] :: es => (characters? es).map ((c.toNat, c.toNat) :: ·)
  | _ => none

/-- The ranges of the sets that some branches are, if each is a set. -/
def setBounds? : List Expr → Option (List (Nat × Nat))
  | [] => some []
  | set r :: es => (setBounds? es).map (r.bounds.toList ++ ·)
  | _ => none

/-- What two lists of expressions start with. -/
def commonStart : List Expr → List Expr → List Expr
  | e :: es, f :: fs => if e.same f then e :: commonStart es fs else []
  | _, _ => []

/-- What all branches start with, if each is several expressions one after the other. -/
def sharedStart : List Expr → List Expr
  | [] => []
  | [concat es] => es
  | concat es :: bs => commonStart es (sharedStart bs)
  | _ => []

/-- One of several branches, within a bound on how often a start is taken out of them. -/
def ofBranchesWithin (bound : Nat) (es : List Expr) : Expr :=
  match es.flatMap branches with
  | [e] => e
  | es =>
    match (characters? es).or (setBounds? es) with
    | some bounds => ofRanges (.ofBounds bounds)
    | none =>
      match bound, sharedStart es with
      | 0, _ | _, [] => alternate es
      | bound + 1, start =>
        let rests := es.map fun e => ofItems (e.items.drop start.length)
        ofItems (start ++ [ofBranchesWithin bound rests])

/-- One of several branches.  Each start that is taken out of them leaves fewer parts. -/
def ofBranches (es : List Expr) : Expr := ofBranchesWithin (partsOf es) es

end Expr

end DocQuery.Regex
