import DocQuery.Expression.Error
import DocQuery.Expression.Signal
/-! A cursor over the bytes of an expression.  The bytes before the cursor and those after it are
kept apart, so a cursor is always inside its expression.  Blanks between tokens are skipped by
`next?` and the peeking functions. -/

namespace DocQuery.Expression

/-- A place in an expression. -/
structure Cursor where
  /-- The bytes before the place, the nearest first. -/
  before : List UInt8
  /-- The bytes after the place. -/
  rest : List UInt8
  deriving DecidableEq, Repr, Inhabited

namespace Cursor

/-- The start of an expression. -/
def start (bytes : List UInt8) : Cursor := ⟨[], bytes⟩

/-- The whole expression. -/
def bytes (c : Cursor) : List UInt8 := c.before.reverse ++ c.rest

/-- Number of bytes before the place. -/
def position (c : Cursor) : Nat := c.before.length

/-- Moves to a position, at most to the end. -/
def seek (c : Cursor) (position : Nat) : Cursor :=
  ⟨(c.bytes.take position).reverse, c.bytes.drop position⟩

/-- Moves to the end. -/
def toEnd (c : Cursor) : Cursor := ⟨c.rest.reverse ++ c.before, []⟩

/-- Moves over the bytes that satisfy `p`. -/
def skipWhile (c : Cursor) (p : UInt8 → Bool) : Cursor :=
  ⟨(c.rest.takeWhile p).reverse ++ c.before, c.rest.dropWhile p⟩

/-- Moves over blanks. -/
def skipBlanks (c : Cursor) : Cursor := c.skipWhile isBlankByte

/-- Takes the next byte that is not blank. -/
def next? (c : Cursor) : Option (UInt8 × Cursor) :=
  match c.skipBlanks with
  | ⟨_, []⟩ => none
  | ⟨before, b :: rest⟩ => some (b, ⟨b :: before, rest⟩)

/-- Moves one byte back. -/
def unread (c : Cursor) : Cursor :=
  match c.before with
  | [] => c
  | b :: before => ⟨before, b :: c.rest⟩

/-- The next byte that is not blank. -/
def peek? (c : Cursor) : Option UInt8 := c.skipBlanks.rest.head?

/-- The construct that the next byte opens. -/
def signal (c : Cursor) : Signal := .ofByte? c.peek?

/-- Takes the name bytes at the place. -/
def readName (c : Cursor) : String × Cursor :=
  (String.ofList ((c.rest.takeWhile isNameByte).map fun b => Char.ofNat b.toNat),
    c.skipWhile isNameByte)

/-- The byte at the place, blank or not. -/
def current? (c : Cursor) : Option UInt8 := c.rest.head?

/-- Takes the bytes before the next `delimiter`, and the delimiter. -/
def readUntil? (c : Cursor) (delimiter : UInt8) : Option (List UInt8 × Cursor) :=
  match c.skipWhile (· != delimiter) with
  | ⟨_, []⟩ => none
  | ⟨before, b :: rest⟩ => some (c.rest.takeWhile (· != delimiter), ⟨b :: before, rest⟩)

/-- The bytes at most `radius` away, as text, and how many of them lie before the place. -/
def window (c : Cursor) (radius : Nat) : Nat × String :=
  let near := c.before.take radius
  (near.length, Utf8.decodeLossy (near.reverse ++ c.rest.take radius))

/-- An error at the place. -/
def error (c : Cursor) (operation : String) (cause : CompileCause) : CompileError where
  operation
  cause
  offset := c.position
  column := (c.window 10).1
  parsing := (c.window 10).2
  context := (c.window 50).2

/-- An error for a byte that was required. -/
def mismatch (c : Cursor) (operation : String) (expected : UInt8) (found : Option UInt8) :
    CompileError :=
  c.error operation (.mismatch expected found)

/-- An error for a byte where no construct can start. -/
def unexpected (c : Cursor) (operation : String) (found : Option UInt8) : CompileError :=
  c.error operation (.unexpected found)

theorem length_skipWhile_le (c : Cursor) (p : UInt8 → Bool) :
    (c.skipWhile p).rest.length ≤ c.rest.length :=
  (List.dropWhile_sublist p).length_le

/-- Skipping blanks does not lengthen what is left. -/
theorem length_skipBlanks_le (c : Cursor) : c.skipBlanks.rest.length ≤ c.rest.length :=
  c.length_skipWhile_le _

/-- Taking a byte shortens what is left. -/
theorem length_next?_lt {c c' : Cursor} {b : UInt8} (h : c.next? = some (b, c')) :
    c'.rest.length < c.rest.length := by
  have hle := c.length_skipBlanks_le
  unfold next? at h
  split at h
  · cases h
  · rename_i before b rest heq
    simp only [Option.some.injEq, Prod.mk.injEq] at h
    obtain ⟨_, rfl⟩ := h
    rw [heq] at hle
    exact hle

/-- A name that is not empty shortens what is left. -/
theorem length_readName_lt {c : Cursor} {b : UInt8} (h : c.current? = some b)
    (hb : isNameByte b) : c.readName.2.rest.length < c.rest.length := by
  obtain ⟨before, rest⟩ := c
  cases rest with
  | nil => simp [current?] at h
  | cons b' rest =>
    simp only [current?, List.head?_cons, Option.some.injEq] at h
    subst h
    simp only [readName, skipWhile, List.dropWhile_cons, hb, if_true, List.length_cons]
    exact Nat.lt_succ_of_le (List.dropWhile_sublist _).length_le

/-- A delimiter shortens what is left. -/
theorem length_readUntil?_lt {c c' : Cursor} {d : UInt8} {part : List UInt8}
    (h : c.readUntil? d = some (part, c')) : c'.rest.length < c.rest.length := by
  have hle := c.length_skipWhile_le (· != d)
  unfold readUntil? at h
  split at h
  · cases h
  · rename_i before b rest heq
    simp only [Option.some.injEq, Prod.mk.injEq] at h
    obtain ⟨_, rfl⟩ := h
    rw [heq] at hle
    exact hle

end Cursor

end DocQuery.Expression
