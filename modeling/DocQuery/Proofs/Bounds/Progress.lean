import DocQuery.Proofs.Bounds.Parser
import DocQuery.Proofs.Expression.Extent

/-! Progress of the parser.  The three loops of the parser that works by position, over arguments,
operations and fields, are written here as rounds.  A round may take a byte, step back over it and
look at it again; when it is over it has failed, or the position is further on.  Every reader ends
therefore, and has moved on if it has not failed.  As many steps as there are bytes left suffice, and
one more where a loop starts. -/

namespace DocQuery

/-- The trees of a list. -/
def Forest.ofTrees (trees : List (Tree α)) : Forest α := trees.foldr Tree.consTo .nil

namespace Indexed

open Scan Expression

section

variable (input : List UInt8)

/-- A round of the loop over arguments; it gives nothing at the closing parenthesis. -/
def argumentRound : Scan CompileError (Option (List String)) := do
  match ← next? input with
  | none => fail input "read_string_tuple" (.unexpected none)
  | some b =>
    if b = closeParen then return none
    else if b = quote then
      match ← readUntil? input quote with
      | none =>
        seek input input.length
        fail input "read_string_tuple" (.mismatch quote none)
      | some raw =>
        match Utf8.decode raw with
        | .error fault => fail input "read_string_tuple" (.notUtf8 fault)
        | .ok arg =>
          skipByte input comma
          return some [arg]
    else fail input "read_string_tuple" (.unexpected (some b))

/-- A round of the loop over operations.  It steps back over the first byte of an operation. -/
def callRound (steps : Nat) : Scan CompileError (Option (List Call)) := do
  match ← next? input with
  | none => fail input "read_pipelines" (.mismatch backtick none)
  | some b =>
    if b = backtick then return none
    else if b = semicolon then return some []
    else
      unread
      let call ← readCall input steps
      return some [call]

/-- A round of the loop over fields. -/
def fieldRound (operation : String) (close : UInt8) (steps : Nat) :
    Scan CompileError (Option (List (Tree Field))) := do
  match ← peek? input with
  | none => fail input operation (.mismatch close none)
  | some b =>
    if b = close then
      let _ ← next? input
      return none
    else
      let tree ← readTree input (readForest input steps) steps
      return some [tree]

/-- Rounds up to the first that gives nothing, with what those before it have found. -/
def loop (round : Nat → Scan CompileError (Option (List α))) : Nat → Scan CompileError (List α)
  | 0 => taken none
  | steps + 1 => do
    match ← round steps with
    | none => return []
    | some found => return found ++ (← loop round steps)

/-- The scan ends.  If it ends with a value it has passed a place, and is inside the expression. -/
def Passes (place : Nat) (scan : Scan CompileError α) (position : Nat) : Prop :=
  ∃ outcome, scan.runAt position = some outcome ∧
    ∀ a stop, outcome = .ok (a, stop) → place < stop ∧ stop ≤ input.length

/-- The scan ends.  If it ends with a value it has moved on, inside the expression. -/
def Advances (scan : Scan CompileError α) (position : Nat) : Prop :=
  Passes input position scan position

end

/-! ### The loops as rounds -/

variable {α β : Type} {input : List UInt8}

theorem fail_bind (operation : String) (cause : CompileCause) (next : α → Scan CompileError β) :
    fail input operation cause >>= next = fail input operation cause := by
  unfold fail
  simp only [bind_assoc]
  rfl

theorem readArguments_eq_loop :
    readArguments input = loop fun _ => argumentRound input := by
  funext steps
  induction steps with
  | zero => rfl
  | succ steps ih =>
    simp only [readArguments, loop, argumentRound, ih, bind_assoc]
    refine congrArg (next? input >>= ·) (funext fun found => ?_)
    cases found with
    | none => exact (fail_bind _ _ _).symm
    | some b =>
      dsimp only
      split
      · rfl
      split
      · rw [bind_assoc]
        refine congrArg (readUntil? input quote >>= ·) (funext fun part => ?_)
        cases part with
        | none => rw [bind_assoc, fail_bind]
        | some raw =>
          dsimp only
          cases Utf8.decode raw with
          | error fault => exact (fail_bind _ _ _).symm
          | ok arg => rw [bind_assoc]; rfl
      · exact (fail_bind _ _ _).symm

theorem readCalls_eq_loop : readCalls input = loop (callRound input) := by
  funext steps
  induction steps with
  | zero => rfl
  | succ steps ih =>
    simp only [readCalls, loop, callRound, ih, bind_assoc]
    refine congrArg (next? input >>= ·) (funext fun found => ?_)
    cases found with
    | none => exact (fail_bind _ _ _).symm
    | some b =>
      dsimp only
      split
      · rfl
      split
      · simp
      · simp

theorem readForest_eq_loop (operation : String) (close : UInt8) (steps : Nat) :
    readForest input steps operation close =
      Forest.ofTrees <$> loop (fieldRound input operation close) steps := by
  induction steps with
  | zero => rfl
  | succ steps ih =>
    simp only [readForest, loop, fieldRound, ih, bind_assoc, map_bind]
    refine congrArg (peek? input >>= ·) (funext fun found => ?_)
    cases found with
    | none => exact (fail_bind _ _ _).symm
    | some b =>
      dsimp only
      split
      · simp only [bind_assoc, pure_bind, map_pure]
        rfl
      · simp only [bind_assoc, pure_bind, map_bind, bind_map_left]
        rfl

/-! ### Moving on -/

theorem position_lt {c c' : Cursor} (hc : c.bytes = input) (hc' : c'.bytes = input)
    (hlt : c'.rest.length < c.rest.length) : c.position < c'.position := by
  have hlength := length_eq hc
  have hlength' := length_eq hc'
  omega

theorem position_le {c : Cursor} (hc : c.bytes = input) : c.position ≤ input.length := by
  have hlength := length_eq hc
  omega

theorem exists_cursor {position : Nat} (h : position ≤ input.length) :
    ∃ c : Cursor, c.bytes = input ∧ c.position = position := by
  refine ⟨⟨(input.take position).reverse, input.drop position⟩, ?_, ?_⟩
  · simp [Cursor.bytes]
  · simpa [Cursor.position] using h

namespace Passes

variable {place : Nat} {P : α × Cursor → Prop} {reading : Reading { r // P r }}

theorem pure {c : Cursor} (hc : c.bytes = input) (hplace : place < c.position) (a : α) :
    Passes input place (Pure.pure a) c.position := by
  refine ⟨_, runAt_pure a c.position, ?_⟩
  rintro _ _ ⟨⟩
  exact ⟨hplace, position_le hc⟩

theorem fail {c : Cursor} (hc : c.bytes = input) (operation : String) (cause : CompileCause) :
    Passes input place (Indexed.fail input operation cause : Scan CompileError α) c.position :=
  ⟨_, runAt_fail hc operation cause, nofun⟩

theorem step {scan : Scan CompileError β} {next : β → Scan CompileError α} {p q : Nat} {b : β}
    (h : scan.runAt p = some (.ok (b, q))) (hnext : Passes input place (next b) q) :
    Passes input place (scan >>= next) p := by
  obtain ⟨outcome, hrun, hok⟩ := hnext
  exact ⟨outcome, (runAt_bind_ok h).trans hrun, hok⟩

/-- What tracks a reading goes on where the reading stands. -/
theorem bind {scan : Scan CompileError α} {next : α → Scan CompileError β} {p : Nat}
    (h : Tracks input scan p reading) (hnext : ∀ r : { r // P r }, r.val.2.bytes = input →
      Passes input place (next r.val.1) r.val.2.position) :
    Passes input place (scan >>= next) p := by
  cases reading with
  | error e => exact ⟨_, runAt_bind_error h, nofun⟩
  | ok r =>
    obtain ⟨q, hrun, hbytes, rfl⟩ := h
    exact step hrun (hnext r hbytes)

/-- A value may be changed at the end. -/
theorem map {scan : Scan CompileError α} {later p : Nat} (h : Passes input later scan p)
    (hlater : place ≤ later) (f : α → β) :
    Passes input place (scan >>= fun a => Pure.pure (f a)) p := by
  obtain ⟨outcome, hrun, hok⟩ := h
  cases outcome with
  | error e => exact ⟨_, runAt_bind_error hrun, nofun⟩
  | ok found =>
    obtain ⟨a, stop⟩ := found
    obtain ⟨hlt, hle⟩ := hok a stop rfl
    obtain ⟨c, hc, rfl⟩ := exists_cursor hle
    exact step hrun (pure hc (Nat.lt_of_le_of_lt hlater hlt) _)

end Passes

/-- A loop whose rounds move on ends, and has moved on. -/
theorem advances_loop {round : Nat → Scan CompileError (Option (List α))}
    (hround : ∀ c : Cursor, c.bytes = input → ∀ steps, c.rest.length ≤ steps →
      Advances input (round steps) c.position)
    {c : Cursor} (hc : c.bytes = input) {steps : Nat} (hsteps : c.rest.length < steps) :
    Advances input (loop round steps) c.position := by
  induction steps generalizing c with
  | zero => omega
  | succ steps ih =>
    obtain ⟨outcome, hrun, hok⟩ := hround c hc steps (by omega)
    cases outcome with
    | error e => exact ⟨_, runAt_bind_error hrun, nofun⟩
    | ok found =>
      obtain ⟨found, stop⟩ := found
      obtain ⟨hlt, hle⟩ := hok found stop rfl
      obtain ⟨c', hc', rfl⟩ := exists_cursor hle
      refine Passes.step hrun ?_
      cases found with
      | none => exact .pure hc' hlt _
      | some items =>
        have hlength := length_eq hc
        have hlength' := length_eq hc'
        exact Passes.map (ih hc' (by omega)) (Nat.le_of_lt hlt) _

section

variable {c : Cursor} (hc : c.bytes = input)
include hc

/-- What tracks a reading that shortens what is left moves on. -/
theorem Tracks.advances {scan : Scan CompileError α} {reading : Reading (Ahead c α)}
    (h : Tracks input scan c.position reading) : Advances input scan c.position := by
  rw [← bind_pure scan]
  exact Passes.bind h fun r hr => .pure hr (position_lt hc hr r.property) _

theorem advances_argumentRound : Advances input (argumentRound input) c.position := by
  unfold argumentRound
  cases hnext : c.next? with
  | none => exact Passes.step (runAt_next?_none hc hnext) (.fail hc _ _)
  | some found =>
    obtain ⟨b, c1⟩ := found
    have hbytes : c1.bytes = input := (Cursor.bytes_next? hnext).1.trans hc
    have hlt := Cursor.length_next?_lt hnext
    refine Passes.step (runAt_next?_some hc hnext) ?_
    dsimp only
    by_cases hclose : b = closeParen
    · rw [if_pos hclose]
      exact .pure hbytes (position_lt hc hbytes hlt) _
    rw [if_neg hclose]
    by_cases hquote : b = quote
    · rw [if_pos hquote]
      refine .step (runAt_readUntil? hbytes quote) ?_
      cases huntil : c1.readUntil? quote with
      | none =>
        exact .step (runAt_seek_end hbytes _) (.fail ((Cursor.bytes_toEnd c1).trans hbytes) _ _)
      | some part =>
        obtain ⟨raw, c2⟩ := part
        have hbytes2 : c2.bytes = input := (Cursor.bytes_readUntil? huntil).1.trans hbytes
        have hlt2 := Cursor.length_readUntil?_lt huntil
        dsimp only [Option.map_some, Option.getD_some]
        cases Utf8.decode raw with
        | error fault => exact .fail hbytes2 _ _
        | ok arg =>
          have hle := (Expression.skipByte comma c2).property
          have hbytes3 := bytes_skipByte hbytes2 comma
          exact .step (runAt_skipByte hbytes2 comma)
            (.pure hbytes3 (position_lt hc hbytes3 (by omega)) _)
    · rw [if_neg hquote]
      exact .fail hbytes _ _

/-- After the step back an operation starts where its first byte was taken. -/
theorem advances_callRound {steps : Nat} (hsteps : c.rest.length ≤ steps) :
    Advances input (callRound input steps) c.position := by
  unfold callRound
  cases hnext : c.next? with
  | none => exact Passes.step (runAt_next?_none hc hnext) (.fail hc _ _)
  | some found =>
    obtain ⟨b, c1⟩ := found
    have hbytes : c1.bytes = input := (Cursor.bytes_next? hnext).1.trans hc
    have hlt := Cursor.length_next?_lt hnext
    refine Passes.step (runAt_next?_some hc hnext) ?_
    dsimp only
    by_cases hend : b = backtick
    · rw [if_pos hend]
      exact .pure hbytes (position_lt hc hbytes hlt) _
    rw [if_neg hend]
    by_cases hsemicolon : b = semicolon
    · rw [if_pos hsemicolon]
      exact .pure hbytes (position_lt hc hbytes hlt) _
    rw [if_neg hsemicolon]
    have hle := c.length_skipBlanks_le
    refine .step (runAt_modify _ _) ?_
    refine .bind (tracks_readCall_unread hc hnext hsteps) fun r hr => ?_
    have hrlt := r.property
    exact .pure hr (position_lt hc hr (by omega)) _

theorem advances_fieldRound (operation : String) (close : UInt8) {steps : Nat}
    (hsteps : c.rest.length ≤ steps) :
    Advances input (fieldRound input operation close steps) c.position := by
  unfold fieldRound
  refine Passes.step (runAt_peek? hc) ?_
  rw [peek?_eq]
  cases hnext : c.next? with
  | none => exact .fail hc _ _
  | some found =>
    obtain ⟨b, c1⟩ := found
    have hbytes : c1.bytes = input := (Cursor.bytes_next? hnext).1.trans hc
    have hlt := Cursor.length_next?_lt hnext
    dsimp only [Option.map_some]
    by_cases hclose : b = close
    · rw [if_pos hclose]
      exact .step (runAt_next?_some hc hnext) (.pure hbytes (position_lt hc hbytes hlt) _)
    · rw [if_neg hclose]
      refine .bind (tracks_readTree hc (tracks_readForest steps) hsteps hsteps) fun r hr => ?_
      exact .pure hr (position_lt hc hr r.property) _

theorem advances_readArguments {steps : Nat} (hsteps : c.rest.length < steps) :
    Advances input (readArguments input steps) c.position := by
  rw [readArguments_eq_loop]
  exact advances_loop (fun _ hc _ _ => advances_argumentRound hc) hc hsteps

theorem advances_readCalls {steps : Nat} (hsteps : c.rest.length < steps) :
    Advances input (readCalls input steps) c.position := by
  rw [readCalls_eq_loop]
  exact advances_loop (fun _ hc _ hsteps => advances_callRound hc hsteps) hc hsteps

theorem advances_readForest (operation : String) (close : UInt8) {steps : Nat}
    (hsteps : c.rest.length < steps) :
    Advances input (readForest input steps operation close) c.position := by
  have hloop := advances_loop (fun _ hc _ hsteps => advances_fieldRound hc operation close hsteps)
    hc hsteps
  rw [readForest_eq_loop, map_eq_pure_bind]
  exact Passes.map hloop (Nat.le_refl _) _

theorem advances_readTree {steps : Nat} (hsteps : c.rest.length ≤ steps) :
    Advances input (readTree input (readForest input steps) steps) c.position :=
  Tracks.advances hc (tracks_readTree hc (tracks_readForest steps) hsteps hsteps)

theorem advances_readObject {steps : Nat} (hsteps : c.rest.length ≤ steps) :
    Advances input (readObject input (readForest input steps)) c.position :=
  Tracks.advances hc (tracks_readObject hc (tracks_readForest steps) hsteps)

theorem advances_readTop {steps : Nat} (hsteps : c.rest.length ≤ steps) :
    Advances input (readTop input steps) c.position :=
  Tracks.advances hc (tracks_readTop hc hsteps)

end

/-- The loops of the parser are rounds that fail or move on, so they end.  The readers end at every
position as well, with any number of steps that is not below the number of bytes left.  A reader that
succeeds has moved on, inside the expression, and does what the reader on cursors does.  An expression
that compiles has a byte at least for each field, operation and argument it declares. -/
theorem parser_advances (input : List UInt8) :
    ((readArguments input = loop fun _ => argumentRound input) ∧
      readCalls input = loop (callRound input) ∧
      ∀ operation close steps, readForest input steps operation close =
        Forest.ofTrees <$> loop (fieldRound input operation close) steps) ∧
    (∀ position ≤ input.length, ∀ steps, input.length < position + steps →
      Advances input (readArguments input steps) position ∧
        Advances input (readCalls input steps) position ∧
        ∀ operation close, Advances input (readForest input steps operation close) position) ∧
    (∀ position ≤ input.length, ∀ steps, input.length ≤ position + steps →
      (Advances input (argumentRound input) position ∧
        Advances input (callRound input steps) position ∧
        ∀ operation close, Advances input (fieldRound input operation close steps) position) ∧
      (Advances input (readTree input (readForest input steps) steps) position ∧
        Advances input (readObject input (readForest input steps)) position ∧
        Advances input (readTop input steps) position) ∧
      ∀ c : Cursor, c.bytes = input → c.position = position →
        (readTree input (readForest input steps) steps).runAt position =
            some ((Expression.readTree c).map fun r => (r.val.1, r.val.2.position)) ∧
          (readObject input (readForest input steps)).runAt position =
            some ((Expression.readObject c).map fun r => (r.val.1, r.val.2.position)) ∧
          (readTop input steps).runAt position =
            some ((Expression.readTop c).map fun r => (r.val.1, r.val.2.position))) ∧
    ∀ program, compile input = .ok program → program.fields.pieces ≤ input.length := by
  refine ⟨⟨readArguments_eq_loop, readCalls_eq_loop, readForest_eq_loop⟩, ?_, ?_,
    fun _ => pieces_le_of_compile⟩
  · intro position hposition steps hsteps
    obtain ⟨c, hc, rfl⟩ := exists_cursor hposition
    have hlength := length_eq hc
    have hleft : c.rest.length < steps := by omega
    exact ⟨advances_readArguments hc hleft, advances_readCalls hc hleft,
      fun operation close => advances_readForest hc operation close hleft⟩
  · intro position hposition steps hsteps
    obtain ⟨c, hc, rfl⟩ := exists_cursor hposition
    have hlength := length_eq hc
    have hleft : c.rest.length ≤ steps := by omega
    refine ⟨⟨advances_argumentRound hc, advances_callRound hc hleft, fun operation close =>
      advances_fieldRound hc operation close hleft⟩, ⟨advances_readTree hc hleft,
        advances_readObject hc hleft, advances_readTop hc hleft⟩, fun c' hc' hsame => ?_⟩
    have hlength' := length_eq hc'
    have hleft' : c'.rest.length ≤ steps := by omega
    rw [← hsame]
    exact ⟨(tracks_readTree hc' (tracks_readForest steps) hleft' hleft').runAt_eq,
      (tracks_readObject hc' (tracks_readForest steps) hleft').runAt_eq,
      (tracks_readTop hc' hleft').runAt_eq⟩

/-- Two fields, an operation with an argument and a semicolon behind it. -/
def nested : List UInt8 := Utf8.encode "\x7ba`f(\"b\");`[c]\x7d"

def nestedField : Tree Field where
  label := { name := "a", type := .array, pipeline := [⟨"f", ["b"]⟩] }
  children := .cons { name := "c", type := .text, pipeline := [] } .nil .nil

theorem parser_advances_nested :
    (1 < 14 ∧ 14 ≤ nested.length) ∧
      ((Expression.readTree ⟨nested.take 1, nested.drop 1⟩).map fun r =>
        (r.val.1, r.val.2.position)) = .ok (nestedField, 14) ∧
      compile nested = .ok (.ofFields .object (nestedField.consTo .nil)) ∧
      (nestedField.consTo .nil).pieces = 4 ∧ 4 ≤ nested.length := by
  have hrun : (readTree nested (readForest nested 14) 14).runAt 1 =
      some (.ok (nestedField, 14)) := by rfl
  have hcompile : compile nested = .ok (.ofFields .object (nestedField.consTo .nil)) := by cbv
  obtain ⟨-, -, hpositions, hcount⟩ := parser_advances nested
  obtain ⟨-, ⟨⟨outcome, hends, hmoves⟩, -⟩, hsame⟩ := hpositions 1 (by decide) 14 (by decide)
  have htree := (hsame ⟨nested.take 1, nested.drop 1⟩ (by decide) (by decide)).1
  refine ⟨hmoves nestedField 14 ?_, ?_, hcompile, by decide, hcount _ hcompile⟩
  · exact Option.some.inj (hends.symm.trans hrun)
  · exact Option.some.inj (htree.symm.trans hrun)

end Indexed

end DocQuery
