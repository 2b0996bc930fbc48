import DocQuery.Proofs.Bounds.Scanner

/-! Parsing by position.  The parser of expressions stands here on the scanner, with a bound on the
number of its steps.  It moves back over a byte, sets the position behind a byte that it rejects, and
takes arguments out of the expression, all by index.  As it does what the parser on cursors does, no
index leaves the expression, whatever its bytes are, and a step for each byte and one more suffice. -/

namespace DocQuery.Indexed

open Scan Expression

section

variable (input : List UInt8)

def expect (operation : String) (expected : UInt8) : Scan CompileError Unit := do
  match ← next? input with
  | some b =>
    if b = expected then return ()
    else fail input operation (.mismatch expected (some b))
  | none => fail input operation (.mismatch expected none)

def skipByte (b : UInt8) : Scan CompileError Unit := do
  if (← peek? input) = some b then
    let _ ← next? input

def readFieldName : Scan CompileError String := do
  skipBlanks input
  let name ← readName input
  match ← current? input with
  | none => return name
  | some b =>
    if endsName b then return name
    else
      seek input ((← get) + 1)
      fail input "read_node_name" (.unexpected (some b))

def readArguments : Nat → Scan CompileError (List String)
  | 0 => taken none
  | steps + 1 => do
    match ← next? input with
    | none => fail input "read_string_tuple" (.unexpected none)
    | some b =>
      if b = closeParen then return []
      else if b = quote then
        match ← readUntil? input quote with
        | none =>
          seek input input.length
          fail input "read_string_tuple" (.mismatch quote none)
        | some raw =>
          match Utf8.decode raw with
          | .error fault => fail input "read_string_tuple" (.notUtf8 fault)
          | .ok arg =>
            skipByte input comma
            let args ← readArguments steps
            return arg :: args
      else fail input "read_string_tuple" (.unexpected (some b))

def readCall (steps : Nat) : Scan CompileError Call := do
  skipBlanks input
  let name ← readName input
  if name.isEmpty then
    let found ← next? input
    fail input "read_func_name" (.unexpected found)
  else
    expect input "read_string_tuple" openParen
    let args ← readArguments input steps
    return { name, args }

def readCalls : Nat → Scan CompileError (List Call)
  | 0 => taken none
  | steps + 1 => do
    match ← next? input with
    | none => fail input "read_pipelines" (.mismatch backtick none)
    | some b =>
      if b = backtick then return []
      else if b = semicolon then readCalls steps
      else
        unread
        let call ← readCall input steps
        let calls ← readCalls steps
        return call :: calls

def readPipeline (steps : Nat) : Scan CompileError (List Call) := do
  if (← signal input) = .pipeline then
    expect input "read_pipelines" backtick
    readCalls input steps
  else return []

section

variable (fieldsUntil : String → UInt8 → Scan CompileError (Forest Field))

def readObject : Scan CompileError (Forest Field) := do
  expect input "read_object" openBrace
  fieldsUntil "read_object" closeBrace

def readBlock : Scan CompileError (FieldType × Forest Field) := do
  match ← peek? input with
  | none => return (.text, .nil)
  | some b =>
    if b = openBracket then
      let _ ← next? input
      if (← peek? input) = some openBrace then
        let _ ← next? input
        let children ← fieldsUntil "read_object_array" closeBrace
        expect input "read_object_array" closeBracket
        return (.objects, children)
      else
        let children ← fieldsUntil "read_array" closeBracket
        return (.array, children)
    else if b = openBrace then
      let children ← readObject input fieldsUntil
      return (.object, children)
    else return (.text, .nil)

def readTree (steps : Nat) : Scan CompileError (Tree Field) := do
  if (← signal input) = .name then
    let name ← readFieldName input
    let pipeline ← readPipeline input steps
    let (type, children) ← readBlock input fieldsUntil
    skipByte input semicolon
    return { label := { name, type, pipeline }, children }
  else
    let found ← next? input
    fail input "read_node" (.unexpected found)

end

def readForest : Nat → String → UInt8 → Scan CompileError (Forest Field)
  | 0, _, _ => taken none
  | steps + 1, operation, close => do
    match ← peek? input with
    | none => fail input operation (.mismatch close none)
    | some b =>
      if b = close then
        let _ ← next? input
        return .nil
      else
        let tree ← readTree input (readForest steps) steps
        let rest ← readForest steps operation close
        return tree.consTo rest

def readTop (steps : Nat) : Scan CompileError (Shape × Forest Field) := do
  if (← signal input) = .object then
    let fields ← readObject input (readForest input steps)
    return (.object, fields)
  else
    let tree ← readTree input (readForest input steps) steps
    return (.atom, tree.consTo .nil)

end

/-! ### The parser beside the one on cursors -/

variable {α β : Type} {P : α × Cursor → Prop} {Q : β × Cursor → Prop} {input : List UInt8}

/-- The scan gives what the reading gives, and ends where its cursor stands. -/
def Tracks (input : List UInt8) (scan : Scan CompileError α) (position : Nat)
    (reading : Reading { r // P r }) : Prop :=
  Meets (fun q c => c.bytes = input ∧ q = c.position) id scan position reading

namespace Tracks

theorem pure {c : Cursor} (hc : c.bytes = input) (a : α) (h : P (a, c)) :
    Tracks input (Pure.pure a) c.position (.ok ⟨(a, c), h⟩) := Meets.pure ⟨hc, rfl⟩

theorem fail {c : Cursor} (hc : c.bytes = input) (operation : String) (cause : CompileCause) :
    Tracks (P := P) input (Indexed.fail input operation cause) c.position
      (.error (c.error operation cause)) := runAt_fail hc operation cause

theorem step {scan : Scan CompileError β} {next : β → Scan CompileError α} {p q : Nat} {b : β}
    {reading : Reading { r // P r }} (h : scan.runAt p = some (.ok (b, q)))
    (hnext : Tracks input (next b) q reading) : Tracks input (scan >>= next) p reading :=
  Meets.step h hnext

theorem bind {scan : Scan CompileError α} {next : α → Scan CompileError β} {p : Nat}
    {reading : Reading { r // P r }} {more : { r // P r } → Reading { r // Q r }}
    (h : Tracks input scan p reading) (hnext : ∀ r, r.val.2.bytes = input →
      Tracks input (next r.val.1) r.val.2.position (more r)) :
    Tracks input (scan >>= next) p (reading >>= more) := by
  refine Meets.bind h fun r q hright => ?_
  obtain ⟨hbytes, rfl⟩ := hright
  exact hnext r hbytes

theorem relax {R : α × Cursor → Prop} {scan : Scan CompileError α} {p : Nat}
    {reading : Reading { r // P r }} (h : Tracks input scan p reading)
    (hle : ∀ r : { r // P r }, R r.val) :
    Tracks input scan p (reading >>= fun r => .ok (⟨r.val, hle r⟩ : { r // R r })) :=
  Meets.relax h hle

theorem runAt_eq {scan : Scan CompileError α} {p : Nat} {reading : Reading { r // P r }}
    (h : Tracks input scan p reading) :
    scan.runAt p = some (reading.map fun r => (r.val.1, r.val.2.position)) := by
  cases reading with
  | error e => exact h
  | ok r =>
    obtain ⟨q, hrun, -, rfl⟩ := h
    exact hrun

end Tracks

section

variable {c : Cursor} (hc : c.bytes = input)
include hc

theorem runAt_next?_none (h : c.next? = none) :
    (next? input).runAt c.position = some (.ok (none, c.position)) := by
  rw [runAt_next? hc, h]
  rfl

theorem runAt_next?_some {b : UInt8} {c' : Cursor} (h : c.next? = some (b, c')) :
    (next? input).runAt c.position = some (.ok (some b, c'.position)) := by
  rw [runAt_next? hc, h]
  rfl

theorem tracks_expect (operation : String) (b : UInt8) :
    Tracks input (expect input operation b) c.position (Expression.expect operation b c) := by
  unfold expect
  cases hnext : c.next? with
  | none =>
    have hread : Expression.expect operation b c = .error (c.mismatch operation b none) := by
      unfold Expression.expect
      split
      · rename_i hsome
        cases hnext.symm.trans hsome
      · rfl
    rw [hread]
    exact .step (runAt_next?_none hc hnext) (.fail hc operation _)
  | some found =>
    obtain ⟨b', c'⟩ := found
    have hbytes : c'.bytes = input := (Cursor.bytes_next? hnext).1.trans hc
    rw [expect_eq hnext]
    refine .step (runAt_next?_some hc hnext) ?_
    dsimp only
    by_cases hb : b' = b
    · rw [if_pos hb, if_pos hb]
      exact .pure hbytes () _
    · rw [if_neg hb, if_neg hb]
      exact .fail hbytes operation _

end

/-- A byte is taken exactly if it is seen next. -/
theorem take?_cases (c : Cursor) (b : UInt8) :
    (∃ c', c.peek? = some b ∧ c.next? = some (b, c') ∧ ∃ hlt, take? b c = some ⟨c', hlt⟩) ∨
      c.peek? ≠ some b ∧ take? b c = none := by
  unfold Cursor.peek?
  cases hrest : c.skipBlanks.rest with
  | nil =>
    have hnext := next?_of_nil hrest
    refine .inr ⟨by simp, ?_⟩
    unfold take?
    split
    · rename_i hsome
      cases hnext.symm.trans hsome
    · rfl
  | cons b' rest =>
    have hnext := Cursor.next?_of_rest hrest
    rw [take?_eq hnext]
    by_cases hb : b' = b
    · subst hb
      exact .inl ⟨_, rfl, hnext, _, if_pos rfl⟩
    · exact .inr ⟨by simpa using hb, if_neg hb⟩

theorem peek?_eq (c : Cursor) : c.peek? = c.next?.map (·.1) := by
  unfold Cursor.peek?
  cases hrest : c.skipBlanks.rest with
  | nil => rw [next?_of_nil hrest]; rfl
  | cons b rest => rw [Cursor.next?_of_rest hrest]; rfl

section

variable {c : Cursor} (hc : c.bytes = input)
include hc

theorem runAt_skipByte (b : UInt8) :
    (skipByte input b).runAt c.position =
      some (.ok ((), (Expression.skipByte b c).val.position)) := by
  unfold skipByte Expression.skipByte
  rw [runAt_bind_ok (runAt_peek? hc)]
  rcases take?_cases c b with ⟨c', hpeek, hnext, hlt, htake⟩ | ⟨hpeek, htake⟩
  · rw [if_pos hpeek, htake, runAt_bind_ok (runAt_next?_some hc hnext)]
    rfl
  · rw [if_neg hpeek, htake]
    rfl

theorem runAt_seek_end (p : Nat) :
    (seek input input.length).runAt p = some (.ok ((), c.toEnd.position)) := by
  have hend : c.toEnd.position = min input.length input.length := by
    have hlength := length_eq hc
    simp [Cursor.toEnd, Cursor.position] at hlength ⊢
    omega
  rw [hend]
  rfl

/-- Behind a byte that is looked at. -/
theorem tracks_reject {b : UInt8} (h : c.current? = some b) (operation : String)
    (cause : CompileCause) :
    Tracks (P := P) input (fail input operation cause) (c.position + 1)
      (.error ((c.seek (c.position + 1)).error operation cause)) := by
  have hposition : (c.seek (c.position + 1)).position = c.position + 1 := by
    rw [Cursor.seek_succ h]
    rfl
  have hfail := Tracks.fail (P := P) ((Cursor.bytes_seek c (c.position + 1)).trans hc) operation cause
  rw [hposition] at hfail
  exact hfail

theorem tracks_readFieldName {b : UInt8} (hb : c.peek? = some b) (hname : isNameByte b) :
    Tracks input (readFieldName input) c.position (Expression.readFieldName c) := by
  have hskip := bytes_skipBlanks hc
  have hread : c.skipBlanks.readName.2.bytes = input :=
    (Cursor.bytes_skipWhile c.skipBlanks isNameByte).trans hskip
  have hcurrent : c.skipBlanks.current? = some b := hb
  rw [readFieldName_eq hcurrent, dif_pos hname]
  unfold readFieldName
  refine .step (runAt_skipBlanks hc) (.step (runAt_readName hskip) (.step (runAt_current? hread) ?_))
  cases hstop : c.skipBlanks.readName.2.current? with
  | none =>
    rw [if_pos (show (none : Option UInt8).all endsName = true from rfl)]
    exact .pure hread _ _
  | some stop =>
    dsimp only [Option.all_some]
    by_cases hends : endsName stop
    · rw [if_pos hends, if_pos hends]
      exact .pure hread _ _
    · rw [if_neg hends, if_neg hends]
      have hseek := runAt_seek hread (c.skipBlanks.readName.2.position + 1)
        c.skipBlanks.readName.2.position
      rw [Cursor.seek_succ hstop] at hseek
      exact .step (runAt_get _) (.step hseek (tracks_reject hread hstop _ _))

theorem tracks_readArguments {steps : Nat} (hsteps : c.rest.length < steps) :
    Tracks input (readArguments input steps) c.position (Expression.readArguments c) := by
  induction steps generalizing c with
  | zero => omega
  | succ steps ih =>
    unfold readArguments
    cases hnext : c.next? with
    | none =>
      have hread : Expression.readArguments c =
          .error (c.unexpected "read_string_tuple" none) := by
        rw [Expression.readArguments]
        split
        · rfl
        · rename_i hsome
          cases hnext.symm.trans hsome
      rw [hread]
      exact .step (runAt_next?_none hc hnext) (.fail hc _ _)
    | some found =>
      obtain ⟨b, c1⟩ := found
      have hlt := Cursor.length_next?_lt hnext
      have hbytes : c1.bytes = input := (Cursor.bytes_next? hnext).1.trans hc
      refine .step (runAt_next?_some hc hnext) ?_
      dsimp only
      by_cases hquote : b = quote
      · subst hquote
        rw [if_neg (by decide), if_pos rfl]
        cases huntil : c1.readUntil? quote with
        | none =>
          have hread : Expression.readArguments c =
              .error (c1.toEnd.mismatch "read_string_tuple" quote none) := by
            rw [Expression.readArguments]
            split
            · rename_i hnone
              cases hnext.symm.trans hnone
            rename_i hsome
            cases hnext.symm.trans hsome
            dsimp only
            rw [if_neg (by decide), if_pos rfl]
            split
            · rfl
            · rename_i hfound
              cases huntil.symm.trans hfound
          have hscan := runAt_readUntil? hbytes quote
          rw [huntil] at hscan
          rw [hread]
          refine .step hscan (.step (runAt_seek_end hbytes _) ?_)
          exact .fail ((Cursor.bytes_toEnd c1).trans hbytes) _ _
        | some part =>
          obtain ⟨raw, c2⟩ := part
          have hlt2 := Cursor.length_readUntil?_lt huntil
          have hbytes2 : c2.bytes = input := (Cursor.bytes_readUntil? huntil).1.trans hbytes
          have hscan := runAt_readUntil? hbytes quote
          rw [huntil] at hscan
          rw [readArguments_of_quote hnext huntil]
          refine .step hscan ?_
          dsimp only [Option.map_some, Option.getD_some]
          cases Utf8.decode raw with
          | error fault => exact .fail hbytes2 _ _
          | ok arg =>
            have hle := (Expression.skipByte comma c2).property
            have hbytes3 := bytes_skipByte hbytes2 comma
            refine .step (runAt_skipByte hbytes2 comma) ?_
            refine .bind (ih hbytes3 (by omega)) fun y hy => ?_
            exact .pure hy _ _
      · rw [readArguments_of_not_quote hnext hquote]
        by_cases hclose : b = closeParen
        · rw [if_pos hclose, if_pos hclose]
          exact .pure hbytes [] _
        · rw [if_neg hclose, if_neg hquote, if_neg hclose]
          exact .fail hbytes _ _

omit hc in
theorem ofByte_eq_iff : ∀ b : UInt8, (Signal.ofByte b = .pipeline ↔ b = backtick) ∧
    (Signal.ofByte b = .object ↔ b = openBrace) ∧ (Signal.ofByte b = .name ↔ isNameByte b) := by
  decide +kernel

omit hc in
theorem signal_eq_iff {signal : Signal} {b : UInt8} (hinvalid : signal ≠ .invalid)
    (hb : ∀ b', Signal.ofByte b' = signal ↔ b' = b) : c.signal = signal ↔ c.peek? = some b := by
  unfold Cursor.signal
  cases c.peek? with
  | none => simpa [Signal.ofByte?] using hinvalid.symm
  | some b' => simpa [Signal.ofByte?] using hb b'

omit hc in
theorem skipBlanks_skipBlanks (c : Cursor) : c.skipBlanks.skipBlanks = c.skipBlanks := by
  have hhead := List.head?_dropWhile_not isBlankByte c.rest
  unfold Cursor.skipBlanks Cursor.skipWhile
  cases hrest : c.rest.dropWhile isBlankByte with
  | nil => rfl
  | cons b rest =>
    rw [hrest] at hhead
    have hb : ¬isBlankByte b := by simpa using hhead
    simp [hb]

theorem tracks_readCall {b : UInt8} (hb : c.skipBlanks.current? = some b) {steps : Nat}
    (hsteps : c.rest.length ≤ steps) :
    Tracks input (readCall input steps) c.position (Expression.readCall c.skipBlanks) := by
  have hskip := bytes_skipBlanks hc
  have hread : c.skipBlanks.readName.2.bytes = input :=
    (Cursor.bytes_skipWhile c.skipBlanks isNameByte).trans hskip
  unfold readCall
  rw [readCall_eq hb]
  refine .step (runAt_skipBlanks hc) (.step (runAt_readName hskip) ?_)
  by_cases hname : isNameByte b
  · have hne : c.skipBlanks.readName.1.isEmpty = false := by
      rw [Bool.eq_false_iff, ne_eq, String.isEmpty_iff]
      exact (isName_readName hb hname).1
    have hlt := Cursor.length_readName_lt hb hname
    have hle := c.length_skipBlanks_le
    rw [dif_pos hname, hne, if_neg Bool.false_ne_true]
    refine .bind (tracks_expect hread _ _) fun y hy => ?_
    have hylt := y.property
    refine .bind (tracks_readArguments hy (by omega)) fun z hz => ?_
    exact .pure hz _ _
  · have hempty : c.skipBlanks.readName.1.isEmpty = true := by
      rw [String.isEmpty_iff]
      unfold Cursor.readName
      cases hrest : c.skipBlanks.rest with
      | nil => rfl
      | cons b' rest =>
        rw [Cursor.current?, hrest] at hb
        cases hb
        rw [List.takeWhile_cons_of_neg hname]
        rfl
    have hnext : c.skipBlanks.next? = some (b, ⟨b :: c.skipBlanks.before, c.skipBlanks.rest.tail⟩) := by
      have hrest : c.skipBlanks.skipBlanks.rest = b :: c.skipBlanks.rest.tail := by
        rw [skipBlanks_skipBlanks]
        exact List.eq_cons_of_mem_head? hb
      rw [Cursor.next?_of_rest hrest, skipBlanks_skipBlanks]
    rw [dif_neg hname, hempty, if_pos rfl, Cursor.position_readName hb hname]
    exact .step (runAt_next?_some hskip hnext) (tracks_reject hskip hb _ _)

/-- Back over the byte that was taken. -/
theorem tracks_readCall_unread {b : UInt8} {c' : Cursor} (hnext : c.next? = some (b, c'))
    {steps : Nat} (hsteps : c.rest.length ≤ steps) :
    Tracks input (readCall input steps) (c'.position - 1) (Expression.readCall c.skipBlanks) := by
  have hback : c'.position - 1 = c.skipBlanks.position := by
    rw [Cursor.position_next? hnext]
    omega
  have hcurrent : c.skipBlanks.skipBlanks.current? = some b := by
    rw [skipBlanks_skipBlanks, Cursor.current?,
      show c.skipBlanks.rest = b :: c'.rest from significant_of_next? hnext]
    rfl
  have hle := c.length_skipBlanks_le
  have hcall := tracks_readCall (bytes_skipBlanks hc) hcurrent (Nat.le_trans hle hsteps)
  rw [skipBlanks_skipBlanks] at hcall
  rw [hback]
  exact hcall

theorem tracks_readCalls {steps : Nat} (hsteps : c.rest.length < steps) :
    Tracks input (readCalls input steps) c.position (Expression.readCalls c) := by
  induction steps generalizing c with
  | zero => omega
  | succ steps ih =>
    unfold readCalls
    cases hnext : c.next? with
    | none =>
      have hread : Expression.readCalls c = .error (c.mismatch "read_pipelines" backtick none) := by
        rw [Expression.readCalls]
        split
        · rfl
        · rename_i hsome
          cases hnext.symm.trans hsome
      rw [hread]
      exact .step (runAt_next?_none hc hnext) (.fail hc _ _)
    | some found =>
      obtain ⟨b, c1⟩ := found
      have hlt := Cursor.length_next?_lt hnext
      have hbytes : c1.bytes = input := (Cursor.bytes_next? hnext).1.trans hc
      rw [readCalls_eq hnext]
      refine .step (runAt_next?_some hc hnext) ?_
      dsimp only
      by_cases hend : b = backtick
      · rw [if_pos hend, if_pos hend]
        exact .pure hbytes _ _
      rw [if_neg hend, if_neg hend]
      by_cases hsemicolon : b = semicolon
      · rw [if_pos hsemicolon, if_pos hsemicolon]
        exact .relax (ih hbytes (by omega)) _
      rw [if_neg hsemicolon, if_neg hsemicolon]
      have hle := c.length_skipBlanks_le
      refine .step (runAt_modify _ _) ?_
      refine .bind (tracks_readCall_unread hc hnext (by omega)) fun y hy => ?_
      have hylt := y.property
      refine .bind (ih hy (by omega)) fun z hz => ?_
      exact .pure hz _ _

theorem tracks_readPipeline {steps : Nat} (hsteps : c.rest.length ≤ steps) :
    Tracks input (readPipeline input steps) c.position (Expression.readPipeline c) := by
  have hsignal : c.signal = .pipeline ↔ c.peek? = some backtick :=
    signal_eq_iff (by decide) fun b => (ofByte_eq_iff b).1
  unfold readPipeline Expression.readPipeline
  refine .step (runAt_signal hc) ?_
  rcases take?_cases c backtick with ⟨c', hpeek, hnext, hlt, htake⟩ | ⟨hpeek, htake⟩
  · have hbytes : c'.bytes = input := (Cursor.bytes_next? hnext).1.trans hc
    have hexpect : (expect input "read_pipelines" backtick).runAt c.position =
        some (.ok ((), c'.position)) := by
      have htracks := (tracks_expect hc "read_pipelines" backtick).runAt_eq
      rw [expect_eq hnext, if_pos rfl] at htracks
      exact htracks
    rw [if_pos (hsignal.mpr hpeek), htake]
    refine .step hexpect ?_
    exact .relax (tracks_readCalls hbytes (by omega)) _
  · rw [if_neg (mt hsignal.mp hpeek), htake]
    exact .pure hc _ _

section

variable {fieldsUntil : String → UInt8 → Scan CompileError (Forest Field)} {left : Nat}
  (hfields : ∀ operation close c, c.bytes = input → c.rest.length < left →
    Tracks input (fieldsUntil operation close) c.position
      (Expression.readForest operation close c))
include hfields

theorem tracks_readObject (hleft : c.rest.length ≤ left) :
    Tracks input (readObject input fieldsUntil) c.position (Expression.readObject c) := by
  unfold readObject Expression.readObject
  refine .bind (tracks_expect hc _ _) fun y hy => ?_
  have hlt := y.property
  exact .relax (hfields _ _ _ hy (by omega)) _

theorem tracks_readBlock (hleft : c.rest.length ≤ left) :
    Tracks input (readBlock input fieldsUntil) c.position (Expression.readBlock c) := by
  unfold readBlock
  rw [Expression.readBlock]
  refine .step (runAt_peek? hc) ?_
  rcases take?_cases c openBracket with ⟨c1, hpeek, hnext, hlt, htake⟩ | ⟨hpeek, htake⟩
  · have hbytes : c1.bytes = input := (Cursor.bytes_next? hnext).1.trans hc
    rw [hpeek, htake]
    dsimp only
    rw [if_pos rfl]
    refine .step (runAt_next?_some hc hnext) (.step (runAt_peek? hbytes) ?_)
    rcases take?_cases c1 openBrace with ⟨c2, hpeek2, hnext2, hlt2, htake2⟩ | ⟨hpeek2, htake2⟩
    · have hbytes2 : c2.bytes = input := (Cursor.bytes_next? hnext2).1.trans hbytes
      rw [if_pos hpeek2, htake2]
      refine .step (runAt_next?_some hbytes hnext2) ?_
      refine .bind (hfields _ _ _ hbytes2 (by omega)) fun y hy => ?_
      refine .bind (tracks_expect hy _ _) fun z hz => ?_
      exact .pure hz _ _
    · rw [if_neg hpeek2, htake2]
      refine .bind (hfields _ _ _ hbytes (by omega)) fun y hy => ?_
      exact .pure hy _ _
  · rw [htake]
    dsimp only
    rcases take?_cases c openBrace with ⟨c1, hpeek1, hnext1, hlt1, htake1⟩ | ⟨hpeek1, htake1⟩
    · rw [hpeek1, htake1]
      dsimp only
      rw [if_neg (by decide), if_pos rfl]
      have hbytes : c1.bytes = input := (Cursor.bytes_next? hnext1).1.trans hc
      have hexpect := (tracks_expect hc "read_object" openBrace).runAt_eq
      rw [expect_eq hnext1, if_pos rfl] at hexpect
      unfold readObject
      rw [bind_assoc]
      refine .step hexpect ?_
      refine .bind (hfields _ _ c1 hbytes (by omega)) fun y hy => ?_
      exact .pure hy _ _
    · rw [htake1]
      cases hnone : c.peek? with
      | none => exact .pure hc _ _
      | some b =>
        rw [hnone] at hpeek hpeek1
        dsimp only
        rw [if_neg (by simpa using hpeek), if_neg (by simpa using hpeek1)]
        exact .pure hc _ _

theorem tracks_readTree {steps : Nat} (hleft : c.rest.length ≤ left) (hsteps : c.rest.length ≤ steps) :
    Tracks input (readTree input fieldsUntil steps) c.position (Expression.readTree c) := by
  have hsignal : c.signal = .name ↔ ∃ b, c.peek? = some b ∧ isNameByte b := by
    unfold Cursor.signal
    cases c.peek? with
    | none => simp [Signal.ofByte?]
    | some b => simpa [Signal.ofByte?] using (ofByte_eq_iff b).2.2
  unfold readTree
  rw [Expression.readTree]
  refine .step (runAt_signal hc) ?_
  by_cases hname : c.signal = .name
  · obtain ⟨b, hb, hbname⟩ := hsignal.mp hname
    rw [if_pos hname]
    refine .bind (tracks_readFieldName hc hb hbname) fun y hy => ?_
    have hylt := y.property
    refine .bind (tracks_readPipeline hy (by omega)) fun z hz => ?_
    have hzle : z.val.2.rest.length ≤ y.val.2.rest.length := z.property
    refine .bind (tracks_readBlock hz hfields (by omega)) fun w hw => ?_
    refine .step (runAt_skipByte hw semicolon) ?_
    exact .pure (bytes_skipByte hw semicolon) _ _
  rw [if_neg hname]
  cases hpeek : c.peek? with
  | none =>
    have hread : Expression.readFieldName c = .error (c.unexpected "read_node" none) := by
      unfold Expression.readFieldName
      split
      · rfl
      · rename_i hsome
        cases hpeek.symm.trans hsome
    have hnext : c.next? = none := next?_of_nil (List.head?_eq_none_iff.mp hpeek)
    rw [hread]
    exact .step (runAt_next?_none hc hnext) (.fail hc _ _)
  | some b =>
    have hcurrent : c.skipBlanks.current? = some b := hpeek
    have hb : ¬isNameByte b := fun hb => hname (hsignal.mpr ⟨b, hpeek, hb⟩)
    have hnext := Cursor.next?_of_rest (List.eq_cons_of_mem_head? hpeek)
    rw [readFieldName_eq hcurrent, dif_neg hb]
    exact .step (runAt_next?_some hc hnext) (tracks_reject (bytes_skipBlanks hc) hcurrent _ _)

end

end

theorem tracks_readForest (steps : Nat) (operation : String) (close : UInt8) (c : Cursor)
    (hc : c.bytes = input) (hsteps : c.rest.length < steps) :
    Tracks input (readForest input steps operation close) c.position
      (Expression.readForest operation close c) := by
  induction steps generalizing operation close c with
  | zero => omega
  | succ steps ih =>
    unfold readForest
    refine .step (runAt_peek? hc) ?_
    rw [peek?_eq]
    cases hnext : c.next? with
    | none =>
      have hread : Expression.readForest operation close c =
          .error (c.mismatch operation close none) := by
        rw [Expression.readForest]
        split
        · rfl
        · rename_i hsome
          cases hnext.symm.trans hsome
      rw [hread]
      exact .fail hc _ _
    | some found =>
      obtain ⟨b, c1⟩ := found
      have hbytes : c1.bytes = input := (Cursor.bytes_next? hnext).1.trans hc
      rw [readForest_eq hnext]
      dsimp only [Option.map_some]
      by_cases hclose : b = close
      · rw [if_pos hclose, if_pos hclose]
        exact .step (runAt_next?_some hc hnext) (.pure hbytes _ _)
      · rw [if_neg hclose, if_neg hclose]
        refine .bind (tracks_readTree hc ih (by omega) (by omega)) fun y hy => ?_
        have hylt := y.property
        refine .bind (ih operation close _ hy (by omega)) fun z hz => ?_
        exact .pure hz _ _

theorem tracks_readTop {c : Cursor} (hc : c.bytes = input) {steps : Nat}
    (hsteps : c.rest.length ≤ steps) :
    Tracks input (readTop input steps) c.position (Expression.readTop c) := by
  unfold readTop Expression.readTop
  refine .step (runAt_signal hc) ?_
  by_cases hobject : c.signal = .object
  · rw [if_pos hobject, hobject]
    refine .bind (tracks_readObject hc (tracks_readForest steps) hsteps) fun y hy => ?_
    exact .pure hy _ _
  · rw [if_neg hobject]
    have htree : Tracks input (readTree input (readForest input steps) steps >>= fun tree =>
        pure (Shape.atom, tree.consTo .nil)) c.position (Expression.readTree c >>= fun y =>
          .ok (⟨((.atom, y.val.1.consTo .nil), y.val.2), y.property⟩ :
            Ahead c (Shape × Forest Field))) := by
      refine .bind (tracks_readTree hc (tracks_readForest steps) hsteps hsteps) fun y hy => ?_
      exact .pure hy _ _
    cases hsignal : c.signal with
    | object => exact absurd hsignal hobject
    | invalid | name | pipeline | array => exact htree

end DocQuery.Indexed
