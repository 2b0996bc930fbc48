import DocQuery.Proofs.Bounds.Progress

/-! Moves of a scanner in any order.  A scanner can take a byte, step back, skip blanks, read a
name, read up to a delimiter and be set to any position.  A step back at the start and a position
behind the end are clamped, so no sequence of moves leaves the expression, and a cursor that makes
the same moves stands where the scanner stands.  Wherever that is, looking ahead tells what the next
byte will be. -/

namespace DocQuery

namespace Expression.Cursor

/-- The cursor after a byte is taken, if there is one. -/
def afterNext (c : Cursor) : Cursor := (c.next?.map (·.2)).getD c

/-- The cursor after the bytes up to a delimiter are taken, if there is one. -/
def afterUntil (c : Cursor) (delimiter : UInt8) : Cursor :=
  ((c.readUntil? delimiter).map (·.2)).getD c

/-! ### Looking ahead with a cursor -/

theorem bytes_unread (c : Cursor) : c.unread.bytes = c.bytes := by
  obtain ⟨_ | ⟨b, before⟩, rest⟩ := c
  · rfl
  · simp [unread, bytes]

theorem position_unread (c : Cursor) : c.unread.position = c.position - 1 := by
  obtain ⟨_ | ⟨b, before⟩, rest⟩ := c <;> rfl

theorem next?_skipBlanks (c : Cursor) : c.skipBlanks.next? = c.next? := by
  rw [next?, next?, Indexed.skipBlanks_skipBlanks]

theorem peek?_skipBlanks (c : Cursor) : c.skipBlanks.peek? = c.peek? := by
  rw [peek?, peek?, Indexed.skipBlanks_skipBlanks]

/-- The byte before the place is not blank, so it is what is taken after a step back. -/
theorem next?_unread {c c' : Cursor} {b : UInt8} (h : c.next? = some (b, c')) :
    c'.unread.next? = some (b, c') := by
  have hback : c'.unread = c.skipBlanks := by
    rw [next?] at h
    split at h
    · cases h
    · rename_i hskip
      cases h
      exact hskip.symm
  rw [hback, next?_skipBlanks, h]

end Expression.Cursor

namespace Indexed

open Scan Expression

/-! ### Moves -/

/-- A move of a scanner. -/
inductive Move where
  | next
  | unread
  | skipBlanks
  | readName
  | readUntil (delimiter : UInt8)
  | seek (position : Nat)
  deriving DecidableEq, Repr

/-- The move by position.  What is read on the way is dropped. -/
def Move.scan (input : List UInt8) : Move → Scan CompileError Unit
  | .next => do let _ ← next? input
  | .unread => Indexed.unread
  | .skipBlanks => Indexed.skipBlanks input
  | .readName => do let _ ← Indexed.readName input
  | .readUntil delimiter => do let _ ← readUntil? input delimiter
  | .seek position => Indexed.seek input position

/-- The move of a cursor. -/
def Move.cursor (c : Cursor) : Move → Cursor
  | .next => c.afterNext
  | .unread => c.unread
  | .skipBlanks => c.skipBlanks
  | .readName => c.readName.2
  | .readUntil delimiter => c.afterUntil delimiter
  | .seek position => c.seek position

/-- What the scan gives, wherever it ends. -/
def outcome (scan : Scan CompileError α) (position : Nat) : Option (Except CompileError α) :=
  (scan.runAt position).map (·.map (·.1))

/-- Looking ahead from a position and taking agree. -/
structure LooksAhead (input : List UInt8) (position : Nat) : Prop where
  /-- What is seen is what would be taken, and seeing it moves nothing. -/
  peek : ∃ found stop, (next? input).runAt position = some (.ok (found, stop)) ∧
    (peek? input).runAt position = some (.ok (found, position))
  /-- A byte that was taken is taken again after a step back. -/
  again : ∀ b stop, (next? input).runAt position = some (.ok (some b, stop)) →
    (do unread; next? input).runAt stop = some (.ok (some b, stop))
  /-- Where no byte is left nothing moves. -/
  next_none : ∀ stop, (next? input).runAt position = some (.ok (none, stop)) → stop = position
  /-- Where a delimiter is missing nothing moves. -/
  until_none : ∀ delimiter stop,
    (readUntil? input delimiter).runAt position = some (.ok (none, stop)) → stop = position
  /-- Blanks are nothing to see and nothing to take. -/
  blanks : ∃ stop, (skipBlanks input).runAt position = some (.ok ((), stop)) ∧
    outcome (peek? input) stop = outcome (peek? input) position ∧
    outcome (next? input) stop = outcome (next? input) position

theorem runAt_unread (position : Nat) : unread.runAt position = some (.ok ((), position - 1)) := rfl

section

variable {input : List UInt8} {c : Cursor} (hc : c.bytes = input)
include hc

theorem bytes_move (move : Move) : (move.cursor c).bytes = input := by
  rw [← hc]
  cases move with
  | next =>
    rw [Move.cursor, Cursor.afterNext]
    cases hnext : c.next? with
    | none => rfl
    | some found => exact (Cursor.bytes_next? hnext).1
  | unread => exact c.bytes_unread
  | skipBlanks => exact c.bytes_skipWhile _
  | readName => exact c.bytes_skipWhile _
  | readUntil delimiter =>
    rw [Move.cursor, Cursor.afterUntil]
    cases huntil : c.readUntil? delimiter with
    | none => rfl
    | some found => exact (Cursor.bytes_readUntil? huntil).1
  | seek position => exact c.bytes_seek position

/-- A move never leaves the expression. -/
theorem runAt_move (move : Move) :
    (move.scan input).runAt c.position = some (.ok ((), (move.cursor c).position)) := by
  cases move with
  | next =>
    rw [Move.scan, Move.cursor, Cursor.afterNext, runAt_bind_ok (runAt_next? hc), runAt_pure]
    cases c.next? <;> rfl
  | unread => rw [Move.scan, Move.cursor, runAt_unread, Cursor.position_unread]
  | skipBlanks => exact runAt_skipBlanks hc
  | readName => rw [Move.scan, runAt_bind_ok (runAt_readName hc), runAt_pure]; rfl
  | readUntil delimiter =>
    rw [Move.scan, Move.cursor, Cursor.afterUntil, runAt_bind_ok (runAt_readUntil? hc delimiter),
      runAt_pure]
    cases c.readUntil? delimiter <;> rfl
  | seek position => exact runAt_seek hc position c.position

/-- Nor does any sequence of moves. -/
theorem runAt_moves (moves : List Move) :
    (forM moves (Move.scan input)).runAt c.position =
        some (.ok ((), (moves.foldl Move.cursor c).position)) ∧
      (moves.foldl Move.cursor c).bytes = input := by
  induction moves generalizing c with
  | nil => exact ⟨rfl, hc⟩
  | cons move moves ih =>
    obtain ⟨hrun, hbytes⟩ := ih (bytes_move hc move)
    refine ⟨?_, hbytes⟩
    rw [List.forM_cons, runAt_bind_ok (runAt_move hc move)]
    exact hrun

theorem outcome_next? : outcome (next? input) c.position = some (.ok (c.next?.map (·.1))) := by
  rw [outcome, runAt_next? hc]
  rfl

theorem outcome_peek? : outcome (peek? input) c.position = some (.ok c.peek?) := by
  rw [outcome, runAt_peek? hc]
  rfl

/-- A scanner at the place of a cursor looks ahead as the cursor does. -/
theorem looksAhead : LooksAhead input c.position where
  peek := by
    refine ⟨_, _, runAt_next? hc, ?_⟩
    rw [runAt_peek? hc, peek?_eq]
  again := by
    intro b stop hrun
    cases hnext : c.next? with
    | none =>
      rw [runAt_next?_none hc hnext] at hrun
      cases hrun
    | some found =>
      obtain ⟨b', c'⟩ := found
      have hbytes : c'.bytes = input := (Cursor.bytes_next? hnext).1.trans hc
      rw [runAt_next?_some hc hnext] at hrun
      cases hrun
      rw [runAt_bind_ok (runAt_unread _), ← Cursor.position_unread]
      exact runAt_next?_some (c'.bytes_unread.trans hbytes) (Cursor.next?_unread hnext)
  next_none := by
    intro stop hrun
    cases hnext : c.next? with
    | none =>
      rw [runAt_next?_none hc hnext] at hrun
      cases hrun
      rfl
    | some found =>
      rw [runAt_next?_some hc hnext] at hrun
      cases hrun
  until_none := by
    intro delimiter stop hrun
    rw [runAt_readUntil? hc] at hrun
    cases huntil : c.readUntil? delimiter with
    | none =>
      rw [huntil] at hrun
      cases hrun
      rfl
    | some found =>
      rw [huntil] at hrun
      cases hrun
  blanks := by
    have hskip := bytes_skipBlanks hc
    refine ⟨_, runAt_skipBlanks hc, ?_, ?_⟩
    · rw [outcome_peek? hskip, outcome_peek? hc, Cursor.peek?_skipBlanks]
    · rw [outcome_next? hskip, outcome_next? hc, Cursor.next?_skipBlanks]

end

/-- After any moves from its start a scanner is at a position of the expression, at which a cursor
that has made the same moves stands.  There, looking ahead agrees with taking, for the scanner and
for the cursor, and the excerpts of an error can be cut out. -/
theorem moves_valid (input : List UInt8) (moves : List Move) :
    let c := moves.foldl Move.cursor (.start input)
    ((forM moves (Move.scan input)).runAt 0 = some (.ok ((), c.position)) ∧
      c.bytes = input ∧ c.position ≤ input.length) ∧
    LooksAhead input c.position ∧
    (c.peek? = c.next?.map (·.1) ∧
      (∀ b c', c.next? = some (b, c') → c'.unread.next? = some (b, c')) ∧
      c.skipBlanks.peek? = c.peek? ∧ c.skipBlanks.next? = c.next?) ∧
    ∀ operation cause, error input operation cause c.position = some (c.error operation cause) := by
  intro c
  have hstart : (Cursor.start input).bytes = input := rfl
  obtain ⟨hrun, hbytes⟩ := runAt_moves hstart moves
  refine ⟨⟨hrun, hbytes, position_le hbytes⟩, looksAhead hbytes, ⟨peek?_eq c, ?_, ?_, ?_⟩, ?_⟩
  · exact fun b c' hnext => Cursor.next?_unread hnext
  · exact c.peek?_skipBlanks
  · exact c.next?_skipBlanks
  · exact error_eq hbytes

/-- A step back at the start and a position behind the end are clamped. -/
example : (forM [Move.unread, .seek 9, .unread, .next] (Move.scan [97, 98])).runAt 0 =
    some (.ok ((), 2)) := rfl

end Indexed

end DocQuery
