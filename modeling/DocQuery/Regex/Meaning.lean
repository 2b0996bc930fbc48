import DocQuery.Regex.Class
import DocQuery.Regex.Expr
import DocQuery.Regex.Reader
/-! What a pattern means once its flags are applied: sets of characters, places between characters,
and their combinations.  Where flags make a pattern match single bytes, only ASCII is left to it.
-/

namespace DocQuery.Regex

open Unicode (Ranges)

/-- The flags that are on. -/
structure Flags where
  ignoreCase : Bool := false
  multiLine : Bool := false
  dotAll : Bool := false
  swapGreed : Bool := false
  unicode : Bool := true
  crlf : Bool := false
  deriving DecidableEq, Repr

/-- The flags after a list of flags. -/
def Flags.apply (flags : Flags) (items : FlagList) : Flags where
  ignoreCase := (items.setting? .ignoreCase).getD flags.ignoreCase
  multiLine := (items.setting? .multiLine).getD flags.multiLine
  dotAll := (items.setting? .dotAll).getD flags.dotAll
  swapGreed := (items.setting? .swapGreed).getD flags.swapGreed
  unicode := (items.setting? .unicode).getD flags.unicode
  crlf := (items.setting? .crlf).getD flags.crlf

namespace Flags

/-- A set with the letters of the other case, if case does not count. -/
def fold (flags : Flags) (r : Ranges) : Ranges :=
  if !flags.ignoreCase then r
  else if flags.unicode then r.closeFolds
  else foldAscii r

/-- Whether a set can be matched byte by byte. -/
def isAscii (r : Ranges) : Bool := r.bounds.all fun b => b.2 < 0x80

/-- A set or its complement. -/
def finish (flags : Flags) (negated : Bool) (span : Span) (r : Ranges) : Except Fault Ranges :=
  let r := if negated then r.complement else r
  if flags.unicode || isAscii r then .ok r else .error { problem := .notUtf8, span }

/-- The characters that a literal in a set stands for. -/
def literalRange (flags : Flags) (l : Literal) : Except Fault Nat :=
  if flags.unicode || l.char.toNat < 0x80 then .ok l.char.toNat
  else if l.byteForm then .error { problem := .notUtf8, span := l.span }
  else .error { problem := .unicodeNotAllowed, span := l.span }

mutual

/-- The characters of a set. -/
def setRanges (flags : Flags) : SetExpr → Except Fault Ranges
  | .union items _ => flags.itemsRanges items
  | .operation operator left right => do
    let l ← flags.setRanges left
    let r ← flags.setRanges right
    let l := flags.fold l
    let r := flags.fold r
    return match operator with
      | .intersection => l.inter r
      | .difference => l.diff r
      | .symmetricDifference => l.symmetricDiff r

/-- The characters of the members of a set. -/
def itemsRanges (flags : Flags) : List SetItem → Except Fault Ranges
  | [] => .ok ⟨#[]⟩
  | item :: items => do
    let r ← flags.itemRanges item
    return r.union (← flags.itemsRanges items)

/-- The characters of a member of a set. -/
def itemRanges (flags : Flags) : SetItem → Except Fault Ranges
  | .literal l => do
    let n ← flags.literalRange l
    return .ofPair n n
  | .range first last => do
    let l ← flags.literalRange first
    let h ← flags.literalRange last
    return .ofPair l h
  | .named negated name span =>
    if flags.unicode then
      match name.ranges with
      | .ok r => flags.finish negated span (flags.fold r)
      | .error problem => .error { problem, span }
    else .error { problem := .unicodeNotAllowed, span }
  | .letter negated c span => flags.finish negated span (c.ranges flags.unicode)
  | .ascii negated name span => flags.finish negated span (flags.fold (asciiClass name))
  | .bracketed negated set span => do
    let r ← flags.setRanges set
    flags.finish negated span (flags.fold r)

end

/-- The expression of a literal. -/
def literalExpr (flags : Flags) (l : Literal) : Except Fault Expr :=
  if !flags.unicode && l.byteForm && 0x80 ≤ l.char.toNat then
    .error { problem := .notUtf8, span := l.span }
  else .ok (.ofRanges (flags.fold (.ofPair l.char.toNat l.char.toNat)))

/-- The expression of a dot. -/
def dotExpr (flags : Flags) (span : Span) : Except Fault Expr :=
  if !flags.unicode then .error { problem := .notUtf8, span }
  else if flags.dotAll then .ok (.ofRanges (.ofPair 0 Ranges.maxPoint))
  else if flags.crlf then .ok (.ofRanges (Ranges.ofBounds [(10, 10), (13, 13)]).complement)
  else .ok (.ofRanges (Ranges.ofPair 10 10).complement)

/-- The place that an assertion means. -/
def lookOf (flags : Flags) : Assertion → Look
  | .lineStart => if flags.multiLine then .lineStart flags.crlf else .textStart
  | .lineEnd => if flags.multiLine then .lineEnd flags.crlf else .textEnd
  | .textStart => .textStart
  | .textEnd => .textEnd
  | border => .word border flags.unicode

end Flags

namespace Pattern

/-- Working out the meaning of parts of a pattern; flags hold up to the end of their group. -/
abbrev Translate : Type → Type := StateT Flags (Except Fault)

mutual

/-- The meaning of a pattern. -/
def meaning : Pattern → Translate Expr
  | empty => return .empty
  | flags items _ => do
    modify (·.apply items)
    return .empty
  | literal l => do (← get).literalExpr l
  | dot span => do (← get).dotExpr span
  | assertion a _ => return .look ((← get).lookOf a)
  | set item => do
    let r ← (← get).itemRanges item
    return .ofRanges r
  | repetition min max greedy body _ => do
    let e ← body.meaning
    return .repeated min max (greedy != (← get).swapGreed) e
  | capture index body _ => do
    let outer ← get
    let e ← body.meaning
    MonadStateOf.set outer
    return .capture index e
  | group items body _ => do
    let outer ← get
    MonadStateOf.set (outer.apply items)
    let e ← body.meaning
    MonadStateOf.set outer
    return e
  | alternation branches _ => return .ofBranches (← meanings branches)
  | concatenation items _ => return .ofItems (← meanings items)

/-- The meanings of patterns one after the other. -/
def meanings : List Pattern → Translate (List Expr)
  | [] => return []
  | p :: ps => do
    let e ← p.meaning
    return e :: (← meanings ps)

end

end Pattern

/-- Reads a pattern and works out what it means with the given flags. -/
def Expr.ofText (flags : Flags) (text : String) : Except Fault Expr := do
  let pattern ← readPattern text
  let (e, _) ← pattern.meaning.run flags
  return e

end DocQuery.Regex
