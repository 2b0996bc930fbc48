/-! Patterns of regular expressions as they are written.  A pattern keeps the places of its parts,
since some of what is wrong with a pattern is found only when its meaning is worked out. -/

namespace DocQuery.Regex

/-- A part of a pattern, by the numbers of its first character and of the one after its last. -/
structure Span where
  start : Nat
  stop : Nat
  deriving DecidableEq, Repr, Inhabited

/-- What can be switched inside a pattern. -/
inductive Flag where
  | ignoreCase
  | multiLine
  | dotAll
  | swapGreed
  | unicode
  | crlf
  | ignoreBlank
  deriving DecidableEq, Repr

/-- A list of flags as written; `none` is the hyphen, after which flags are switched off. -/
abbrev FlagList : Type := List (Option Flag)

/-- How a list sets a flag, if it does. -/
def FlagList.setting? (flags : FlagList) (flag : Flag) : Option Bool :=
  if (flags.takeWhile (·.isSome)).contains (some flag) then some true
  else if flags.contains (some flag) then some false
  else none

/-- A place between characters. -/
inductive Assertion where
  | lineStart
  | lineEnd
  | textStart
  | textEnd
  | wordBoundary
  | notWordBoundary
  | wordStart
  | wordEnd
  | wordStartHalf
  | wordEndHalf
  deriving DecidableEq, Repr

/-- A character that stands for itself.  `byteForm` tells whether it was written with two
hexadecimal digits. -/
structure Literal where
  char : Char
  byteForm : Bool := false
  span : Span
  deriving DecidableEq, Repr

/-- Classes with a letter of their own. -/
inductive LetterClass where
  | digit
  | space
  | word
  deriving DecidableEq, Repr

/-- How a class of Unicode is named. -/
inductive ClassName where
  | single (name : String)
  | valued (property value : String)
  deriving DecidableEq, Repr

/-- Operators between sets. -/
inductive SetOperator where
  | intersection
  | difference
  | symmetricDifference
  deriving DecidableEq, Repr

mutual

/-- What stands between brackets. -/
inductive SetExpr where
  /-- Members one after the other; the place is where they would stand if there are none. -/
  | union (items : List SetItem) (span : Span)
  | operation (operator : SetOperator) (left right : SetExpr)

/-- A member of a set. -/
inductive SetItem where
  | literal (l : Literal)
  | range (first last : Literal)
  | named (negated : Bool) (name : ClassName) (span : Span)
  | letter (negated : Bool) (c : LetterClass) (span : Span)
  | ascii (negated : Bool) (name : String) (span : Span)
  | bracketed (negated : Bool) (set : SetExpr) (span : Span)

end

/-- The place of a member of a set. -/
def SetItem.span : SetItem → Span
  | literal l => l.span
  | range first last => ⟨first.span.start, last.span.stop⟩
  | named _ _ span | letter _ _ span | ascii _ _ span | bracketed _ _ span => span

/-- The place of a set: from its first member to its last one. -/
def SetExpr.span : SetExpr → Span
  | union items span =>
    ⟨(items.head?.map (·.span.start)).getD span.start,
      (items.getLast?.map (·.span.stop)).getD span.stop⟩
  | operation _ left right => ⟨left.span.start, right.span.stop⟩

/-- A part at a place with more inside: the place, if no depth is left, or what is found inside. -/
def deeper? (limit : Nat) (span : Span) (inside : Nat → Option Span) : Option Span :=
  match limit with
  | 0 => some span
  | limit + 1 => inside limit

mutual

/-- The place of the first part of a set that stands in more than `limit` others.  A member that
stands alone is no part of its own. -/
def SetExpr.tooDeep? (limit : Nat) : SetExpr → Option Span
  | .union [] _ => none
  | .union [item] _ => item.tooDeep? limit
  | .union items span =>
    deeper? limit (SetExpr.union items span).span (SetItem.tooDeepIn? · items)
  | .operation operator left right =>
    deeper? limit (SetExpr.operation operator left right).span fun limit =>
      (left.tooDeep? limit).or (right.tooDeep? limit)

/-- The place of the first part of a member that stands in more than `limit` others. -/
def SetItem.tooDeep? (limit : Nat) : SetItem → Option Span
  | .bracketed _ set span => deeper? limit span (set.tooDeep? ·)
  | _ => none

/-- The place of the first part of some members that stands in more than `limit` others. -/
def SetItem.tooDeepIn? (limit : Nat) : List SetItem → Option Span
  | [] => none
  | item :: items => (item.tooDeep? limit).or (SetItem.tooDeepIn? limit items)

end

/-- A pattern. -/
inductive Pattern where
  | empty
  /-- Flags for the rest of the group. -/
  | flags (items : FlagList) (span : Span)
  | literal (l : Literal)
  | dot (span : Span)
  | assertion (a : Assertion) (span : Span)
  | set (item : SetItem)
  /-- A body as often as is wanted; the place is that of the body and of the sign after it. -/
  | repetition (min : Nat) (max : Option Nat) (greedy : Bool) (body : Pattern) (span : Span)
  /-- A group that captures under a number. -/
  | capture (index : Nat) (body : Pattern) (span : Span)
  | group (flags : FlagList) (body : Pattern) (span : Span)
  | alternation (branches : List Pattern) (span : Span)
  | concatenation (items : List Pattern) (span : Span)

namespace Pattern

/-- Items one after the other; one item is itself. -/
def concat (span : Span) : List Pattern → Pattern
  | [] => empty
  | [p] => p
  | ps => concatenation ps span

/-- One of several branches; one branch is itself. -/
def alternate (span : Span) : List Pattern → Pattern
  | [p] => p
  | ps => alternation ps span

/-- The place of a pattern. -/
def span : Pattern → Span
  | empty => ⟨0, 0⟩
  | literal l => l.span
  | set item => item.span
  | flags _ span | dot span | assertion _ span | repetition _ _ _ _ span | capture _ _ span
  | group _ _ span | alternation _ span | concatenation _ span => span

mutual

/-- The place of the first part that stands in more than `limit` others. -/
def tooDeep? (limit : Nat) : Pattern → Option Span
  | repetition _ _ _ body span | capture _ body span | group _ body span =>
    deeper? limit span (body.tooDeep? ·)
  | alternation ps span | concatenation ps span => deeper? limit span (tooDeepIn? · ps)
  | set item => item.tooDeep? limit
  | _ => none

/-- The place of the first part of a list that stands in more than `limit` others. -/
def tooDeepIn? (limit : Nat) : List Pattern → Option Span
  | [] => none
  | p :: ps => (p.tooDeep? limit).or (tooDeepIn? limit ps)

end

end Pattern

end DocQuery.Regex
