import DocQuery.Proofs.Expression.Place

/-! What stands behind the place of a compile error.  Two expressions that begin with the same bytes
are read alike until a byte behind these is looked at.  Once that has happened, an error that names a
byte or an argument stands behind these bytes, too.  So an error that stands just behind them has not
looked further, and it is the same one however the expression goes on. -/

namespace DocQuery

/-- The cause is something that was found, and not the end of the expression. -/
def CompileCause.IsFound : CompileCause → Prop
  | .mismatch _ (some _) | .unexpected (some _) | .notUtf8 _ => True
  | .mismatch _ none | .unexpected none | .other _ => False

namespace Expression

namespace Cursor

theorem position_skipWhile (c : Cursor) (p : UInt8 → Bool) :
    (c.skipWhile p).position = c.position + (c.rest.takeWhile p).length := by
  simp only [position, skipWhile, List.length_append, List.length_reverse]
  exact Nat.add_comm _ _

theorem le_position_skipWhile (c : Cursor) (p : UInt8 → Bool) :
    c.position ≤ (c.skipWhile p).position := by
  rw [position_skipWhile]
  exact Nat.le_add_right _ _

theorem position_next? {c c' : Cursor} {b : UInt8} (h : c.next? = some (b, c')) :
    c'.position = c.skipBlanks.position + 1 := by
  rw [next?] at h
  split at h
  · cases h
  · rename_i before b' rest hskip
    cases h
    rw [hskip]
    rfl

/-- A delimiter is found further on. -/
theorem position_readUntil? {c c' : Cursor} {d : UInt8} {part : List UInt8}
    (h : c.readUntil? d = some (part, c')) :
    c'.position = (c.skipWhile (· != d)).position + 1 := by
  rw [readUntil?] at h
  split at h
  · cases h
  · rename_i before b rest hskip
    cases h
    rw [hskip]
    rfl

theorem next?_of_rest {c : Cursor} {b : UInt8} {rest : List UInt8}
    (h : c.skipBlanks.rest = b :: rest) : c.next? = some (b, ⟨b :: c.skipBlanks.before, rest⟩) := by
  rw [next?]
  split
  · rename_i hskip
    rw [hskip] at h
    cases h
  · rename_i hskip
    rw [hskip] at h
    cases h
    rw [hskip]

theorem readUntil?_of_rest {c : Cursor} {d b : UInt8} {rest : List UInt8}
    (h : (c.skipWhile (· != d)).rest = b :: rest) :
    c.readUntil? d =
      some (c.rest.takeWhile (· != d), ⟨b :: (c.skipWhile (· != d)).before, rest⟩) := by
  rw [readUntil?]
  split
  · rename_i hskip
    rw [hskip] at h
    cases h
  · rename_i hskip
    rw [hskip] at h
    cases h
    rw [hskip]

/-- No name is read at a byte that is in no name. -/
theorem position_readName {c : Cursor} {b : UInt8} (h : c.current? = some b) (hb : ¬isNameByte b) :
    c.readName.2.position = c.position := by
  obtain ⟨before, rest⟩ := c
  cases rest with
  | nil => cases h
  | cons b' rest =>
    cases h
    rw [readName, position_skipWhile, List.takeWhile_cons_of_neg hb]
    rfl

/-- One position on, one byte has been passed. -/
theorem seek_succ {c : Cursor} {b : UInt8} (h : c.current? = some b) :
    c.seek (c.position + 1) = ⟨b :: c.before, c.rest.tail⟩ := by
  obtain ⟨before, rest⟩ := c
  cases rest with
  | nil => cases h
  | cons b' rest =>
    cases h
    have hbytes : before.reverse ++ b :: rest = (before.reverse ++ [b]) ++ rest := by simp
    rw [seek, bytes, position, hbytes, List.take_left' (by simp), List.drop_left' (by simp),
      List.reverse_append, List.reverse_reverse]
    rfl

end Cursor

/-! ### Behind a place -/

section

variable {n : Nat}

/-- A cursor for which no byte but blanks is left before a place. -/
def Passed (n : Nat) (c : Cursor) : Prop := n ≤ c.skipBlanks.position

theorem passed_of_le {c : Cursor} (h : n ≤ c.position) : Passed n c :=
  Nat.le_trans h (c.le_position_skipWhile _)

/-- A reading goes on behind a place, or stands behind it with what it has found. -/
def Late (n : Nat) {P : α × Cursor → Prop} : Reading { y // P y } → Prop
  | .ok y => Passed n y.val.2
  | .error e => e.cause.IsFound → n < e.offset

theorem Late.bind {P : α × Cursor → Prop} {Q : β × Cursor → Prop}
    {reading : Reading { y // P y }} {next : { y // P y } → Reading { z // Q z }}
    (h : Late n reading) (hnext : ∀ y, Passed n y.val.2 → Late n (next y)) :
    Late n (reading >>= next) := by
  cases reading with
  | error e => exact h
  | ok y => exact hnext y h

variable {c : Cursor}

theorem Passed.lt_position (h : Passed n c) {c' : Cursor} {b : UInt8}
    (hnext : c.next? = some (b, c')) : n < c'.position := by
  rw [Cursor.position_next? hnext]
  exact Nat.lt_succ_of_le h

theorem late_expect (h : Passed n c) (operation : String) (b : UInt8) :
    Late n (expect operation b c) := by
  rw [expect]
  split
  · rename_i b' c' hnext
    have hlt := h.lt_position hnext
    split
    · exact passed_of_le hlt.le
    · exact fun _ => hlt
  · exact fun hfound => hfound.elim

theorem passed_take? (h : Passed n c) {b : UInt8}
    {y : { c' : Cursor // c'.rest.length < c.rest.length }} (htake : take? b c = some y) :
    Passed n y.val := by
  rw [take?] at htake
  split at htake
  · rename_i b' c' hnext
    split at htake
    · cases htake
      exact passed_of_le (h.lt_position hnext).le
    · cases htake
  · cases htake

theorem passed_skipByte (h : Passed n c) (b : UInt8) : Passed n (skipByte b c).val := by
  rw [skipByte]
  split
  · rename_i c' hlt htake
    exact passed_take? h htake
  · exact h

/-- A name is read in one go, so it is late already where the place is inside the name. -/
theorem late_readFieldName (h : n ≤ c.skipBlanks.readName.2.position) :
    Late n (readFieldName c) := by
  rw [readFieldName]
  split
  · exact fun hfound => hfound.elim
  rename_i b hcurrent
  split
  · dsimp only
    split
    · exact passed_of_le h
    -- The error is behind the byte that ends the name.
    · cases hbyte : c.skipBlanks.readName.2.current? with
      | none => exact fun hfound => hfound.elim
      | some b' =>
        rw [Cursor.seek_succ hbyte]
        exact fun _ => Nat.lt_succ_of_le h
  · rename_i hname
    rw [Cursor.position_readName hcurrent hname] at h
    rw [Cursor.seek_succ hcurrent]
    exact fun _ => Nat.lt_succ_of_le h

theorem readArguments_of_quote {c c1 c2 : Cursor} {raw : List UInt8}
    (hnext : c.next? = some (quote, c1)) (huntil : c1.readUntil? quote = some (raw, c2)) :
    readArguments c =
      match Utf8.decode raw with
      | .error fault => .error (c2.error "read_string_tuple" (.notUtf8 fault))
      | .ok arg => readArguments (skipByte comma c2).val >>= fun y =>
        .ok ⟨(arg :: y.val.1, y.val.2), Nat.lt_trans y.property
          (Nat.lt_of_le_of_lt (skipByte comma c2).property
            (Nat.lt_trans (Cursor.length_readUntil?_lt huntil) (Cursor.length_next?_lt hnext)))⟩ := by
  rw [readArguments]
  split
  · rename_i hnone
    cases hnext.symm.trans hnone
  rename_i hsome
  cases hnext.symm.trans hsome
  dsimp only
  rw [if_neg (by decide), if_pos rfl]
  split
  · rename_i hnone
    cases huntil.symm.trans hnone
  · rename_i hsome
    cases huntil.symm.trans hsome
    rfl

theorem readArguments_of_not_quote {c c1 : Cursor} {b : UInt8} (hnext : c.next? = some (b, c1))
    (hb : b ≠ quote) :
    readArguments c = if b = closeParen then .ok ⟨([], c1), Cursor.length_next?_lt hnext⟩
      else .error (c1.unexpected "read_string_tuple" (some b)) := by
  rw [readArguments]
  split
  · rename_i hnone
    cases hnext.symm.trans hnone
  rename_i hsome
  cases hnext.symm.trans hsome
  dsimp only
  rw [if_neg hb]

/-- An argument is searched for its closing quote, so it is late already where the place is inside
the argument. -/
theorem late_readArguments_of_quote {c1 : Cursor} (hnext : c.next? = some (quote, c1))
    (huntil : ∀ raw k, c1.readUntil? quote = some (raw, k) → n < k.position)
    (hrest : ∀ k : Cursor, k.rest.length < c.rest.length → Passed n k → Late n (readArguments k)) :
    Late n (readArguments c) := by
  cases hraw : c1.readUntil? quote with
  | none =>
    rw [readArguments]
    split
    · exact fun hfound => hfound.elim
    rename_i hsome
    cases hnext.symm.trans hsome
    dsimp only
    rw [if_neg (by decide), if_pos rfl]
    split
    · exact fun hfound => hfound.elim
    · rename_i hsome
      cases hraw.symm.trans hsome
  | some found =>
    obtain ⟨raw, c2⟩ := found
    have hlt : n < c2.position := huntil raw c2 hraw
    have hshort : (skipByte comma c2).val.rest.length < c.rest.length :=
      Nat.lt_of_le_of_lt (skipByte comma c2).property
        (Nat.lt_trans (Cursor.length_readUntil?_lt hraw) (Cursor.length_next?_lt hnext))
    rw [readArguments_of_quote hnext hraw]
    split
    · exact fun _ => hlt
    · refine (hrest _ hshort (passed_skipByte (passed_of_le hlt.le) comma)).bind fun y hy => ?_
      exact hy

theorem late_readArguments (h : Passed n c) : Late n (readArguments c) := by
  obtain ⟨m, hm⟩ : ∃ m, m = c.rest.length := ⟨_, rfl⟩
  induction m using Nat.strongRecOn generalizing c with
  | ind m ih =>
  subst hm
  cases hnext : c.next? with
  | none =>
    rw [readArguments]
    split
    · exact fun hfound => hfound.elim
    · rename_i hsome
      cases hnext.symm.trans hsome
  | some found =>
    obtain ⟨b, c1⟩ := found
    have hlt := h.lt_position hnext
    by_cases hb : b = quote
    · subst hb
      refine late_readArguments_of_quote hnext (fun raw k huntil => ?_) fun k hk hpassed =>
        ih _ hk hpassed rfl
      rw [Cursor.position_readUntil? huntil]
      exact Nat.lt_succ_of_lt (hlt.trans_le (c1.le_position_skipWhile _))
    · rw [readArguments_of_not_quote hnext hb]
      split
      · exact passed_of_le hlt.le
      · exact fun _ => hlt

theorem late_readCall (h : n ≤ c.readName.2.position) : Late n (readCall c) := by
  rw [readCall]
  split
  · exact fun hfound => hfound.elim
  rename_i b hcurrent
  split
  · exact (late_expect (passed_of_le h) _ _).bind fun y hy =>
      (late_readArguments hy).bind fun z hz => hz
  · rename_i hname
    rw [Cursor.position_readName hcurrent hname] at h
    rw [Cursor.seek_succ hcurrent]
    exact fun _ => Nat.lt_succ_of_le h

theorem late_readCalls (h : Passed n c) : Late n (readCalls c) := by
  obtain ⟨m, hm⟩ : ∃ m, m = c.rest.length := ⟨_, rfl⟩
  induction m using Nat.strongRecOn generalizing c with
  | ind m ih =>
  subst hm
  rw [readCalls]
  split
  · exact fun hfound => hfound.elim
  rename_i b c1 hnext
  have hlt := h.lt_position hnext
  split
  · exact passed_of_le hlt.le
  split
  · exact (ih _ (Cursor.length_next?_lt hnext) (passed_of_le hlt.le) rfl).bind fun y hy => hy
  · refine (late_readCall (h.trans (c.skipBlanks.le_position_skipWhile _))).bind fun y hy => ?_
    obtain ⟨⟨_, c2⟩, h2⟩ := y
    have hshort : c2.rest.length < c.rest.length := Nat.lt_of_lt_of_le h2 c.length_skipBlanks_le
    exact (ih _ hshort hy rfl).bind fun z hz => hz

theorem late_readPipeline (h : Passed n c) : Late n (readPipeline c) := by
  rw [readPipeline]
  split
  · exact h
  · rename_i c1 h1 htake
    exact (late_readCalls (passed_take? h htake)).bind fun y hy => hy

/-- A list is late already where the place is in front of its first field. -/
theorem late_readBlock_of_bracket {y : { c' : Cursor // c'.rest.length < c.rest.length }}
    (htake : take? openBracket c = some y) (h : Passed n y.val)
    (hforest : ∀ k : Cursor, Passed n k → k.rest.length < c.rest.length →
      ∀ operation close, Late n (readForest operation close k)) :
    Late n (readBlock c) := by
  rw [readBlock, htake]
  dsimp only
  split
  · rename_i k hk htake'
    refine (hforest k (passed_take? h htake') (Nat.lt_trans hk y.property) _ _).bind fun z hz => ?_
    exact (late_expect hz _ _).bind fun w hw => hw
  · exact (hforest _ h y.property _ _).bind fun z hz => hz

/-- The readers of trees, blocks and lists of trees, from every cursor with fewer bytes left. -/
theorem late_below (n m : Nat) : ∀ c : Cursor, Passed n c → c.rest.length = m →
    Late n (readTree c) ∧ Late n (readBlock c) ∧
      ∀ operation close, Late n (readForest operation close c) := by
  -- The three call each other.  A block comes first, then a tree, which goes on to a shorter block,
  -- then a list, which starts with a tree at the same cursor.
  induction m using Nat.strongRecOn with
  | ind m ih =>
  intro c h hm
  subst hm
  have hforest : ∀ c' : Cursor, Passed n c' → c'.rest.length < c.rest.length →
      ∀ operation close, Late n (readForest operation close c') := fun c' hc' hlt =>
    (ih _ hlt c' hc' rfl).2.2
  have hblock : Late n (readBlock c) := by
    cases htake : take? openBracket c with
    | some y => exact late_readBlock_of_bracket htake (passed_take? h htake) hforest
    | none =>
      rw [readBlock, htake]
      dsimp only
      split
      · rename_i c1 h1 htake
        exact (hforest c1 (passed_take? h htake) h1 _ _).bind fun y hy => hy
      · exact h
  have htree : Late n (readTree c) := by
    rw [readTree]
    refine (late_readFieldName (h.trans (c.skipBlanks.le_position_skipWhile _))).bind fun y hc1 => ?_
    obtain ⟨⟨_, c1⟩, h1⟩ := y
    refine (late_readPipeline hc1).bind fun y hc2 => ?_
    obtain ⟨⟨_, c2⟩, h2⟩ := y
    have hlt : c2.rest.length < c.rest.length := Nat.lt_of_le_of_lt h2 h1
    exact (ih _ hlt c2 hc2 rfl).2.1.bind fun y hc3 => passed_skipByte hc3 semicolon
  refine ⟨htree, hblock, fun operation close => ?_⟩
  rw [readForest]
  split
  · exact fun hfound => hfound.elim
  rename_i b c1 hnext
  split
  · exact passed_of_le (h.lt_position hnext).le
  · refine htree.bind fun y hc2 => ?_
    obtain ⟨⟨_, c2⟩, h2⟩ := y
    exact (hforest c2 hc2 h2 _ _).bind fun y hy => hy

theorem late_readTop (h : Passed n c) : Late n (readTop c) := by
  rw [readTop]
  split
  · rw [readObject]
    refine Late.bind ?_ fun y hy => hy
    refine (late_expect h _ _).bind fun y hc1 => ?_
    obtain ⟨⟨_, c1⟩, _⟩ := y
    exact ((late_below n _ c1 hc1 rfl).2.2 _ _).bind fun y hy => hy
  · exact (late_below n _ c h rfl).1.bind fun y hy => hy

end

/-! ### Up to a place -/

/-- Both errors have the same wording and the same place. -/
def SameReport (e e' : CompileError) : Prop :=
  e'.operation = e.operation ∧ e'.cause = e.cause ∧ e'.offset = e.offset ∧ e'.column = e.column

theorem sameReport_error {c c' : Cursor} (h : c'.before = c.before) (operation : String)
    (cause : CompileCause) : SameReport (c.error operation cause) (c'.error operation cause) := by
  refine ⟨rfl, rfl, ?_, ?_⟩
  · simp only [Cursor.error, Cursor.position, h]
  · simp only [Cursor.error, Cursor.window, h]

/-- Cursors at the same position of two expressions that are the same up to a place, and go on in
different ways behind it. -/
structure Twin (n : Nat) (u v : List UInt8) (c c' : Cursor) : Prop where
  before_eq : c'.before = c.before
  rest_eq : ∃ s, c.rest = s ++ u ∧ c'.rest = s ++ v ∧ c.position + s.length = n

section

variable {n : Nat} {u v : List UInt8}

/-- A reading of the first expression has passed the place, or has an error that is about nothing
found before it; or else the second expression is read in the same way. -/
def Agrees (n : Nat) (u v : List UInt8) {P Q : α × Cursor → Prop} :
    Reading { y // P y } → Reading { y // Q y } → Prop
  | .ok y, r => Passed n y.val.2 ∨ ∃ y', r = .ok y' ∧ y'.val.1 = y.val.1 ∧ Twin n u v y.val.2 y'.val.2
  | .error e, r => (e.cause.IsFound → n < e.offset) ∨ ∃ e', r = .error e' ∧ SameReport e e'

theorem Late.agrees {P Q : α × Cursor → Prop} {r : Reading { y // P y }}
    {r' : Reading { y // Q y }} (h : Late n r) : Agrees n u v r r' := by
  cases r with
  | ok y => exact .inl h
  | error e => exact .inl h

theorem Agrees.bind {P P' : α × Cursor → Prop} {Q Q' : β × Cursor → Prop}
    {r : Reading { y // P y }} {r' : Reading { y // P' y }}
    {next : { y // P y } → Reading { z // Q z }} {next' : { y // P' y } → Reading { z // Q' z }}
    (h : Agrees n u v r r') (hlate : ∀ y, Passed n y.val.2 → Late n (next y))
    (hnext : ∀ y y', y'.val.1 = y.val.1 → Twin n u v y.val.2 y'.val.2 →
      Agrees n u v (next y) (next' y')) :
    Agrees n u v (r >>= next) (r' >>= next') := by
  cases r with
  | ok y =>
    rcases h with hpassed | ⟨y', rfl, hvalue, htwin⟩
    · exact (hlate y hpassed).agrees
    · exact hnext y y' hvalue htwin
  | error e =>
    rcases h with hfound | ⟨e', rfl, hsame⟩
    · exact .inl hfound
    · exact .inr ⟨e', rfl, hsame⟩

variable {c c' : Cursor}

/-- As long as the place is not passed, the next byte is the same. -/
theorem Twin.move (h : Twin n u v c c') (hlt : c.position < n) :
    ∃ b rest rest', c.rest = b :: rest ∧ c'.rest = b :: rest' ∧
      Twin n u v ⟨b :: c.before, rest⟩ ⟨b :: c'.before, rest'⟩ := by
  obtain ⟨s, hrest, hrest', hlength⟩ := h.rest_eq
  cases s with
  | nil => exact absurd hlength (Nat.ne_of_lt hlt)
  | cons b s =>
    refine ⟨b, s ++ u, s ++ v, hrest, hrest', congrArg (b :: ·) h.before_eq, s, rfl, rfl, ?_⟩
    rw [← hlength]
    simp only [Cursor.position, List.length_cons]
    omega

/-- Bytes are skipped alike, unless the place is passed. -/
theorem Twin.skipWhile (h : Twin n u v c c') (p : UInt8 → Bool) :
    n ≤ (c.skipWhile p).position ∨
      c'.rest.takeWhile p = c.rest.takeWhile p ∧
        Twin n u v (c.skipWhile p) (c'.skipWhile p) ∧ (c.skipWhile p).position < n := by
  obtain ⟨s, hrest, hrest', hlength⟩ := h.rest_eq
  have hsplit : (s.takeWhile p).length + (s.dropWhile p).length = s.length := by
    rw [← List.length_append, List.takeWhile_append_dropWhile]
  cases hdrop : s.dropWhile p with
  -- All of the common bytes are skipped.
  | nil =>
    refine .inl ?_
    have hall : s.takeWhile p = s := by
      have hwhole := List.takeWhile_append_dropWhile (p := p) (l := s)
      rwa [hdrop, List.append_nil] at hwhole
    rw [Cursor.position_skipWhile, hrest, List.takeWhile_append, if_pos (by rw [hall]),
      List.length_append]
    omega
  -- One of the common bytes stops it, whatever stands behind them.
  | cons b t =>
    have hstop : ∀ w, (s ++ w).takeWhile p = s.takeWhile p ∧
        (s ++ w).dropWhile p = s.dropWhile p ++ w := by
      intro w
      rw [hdrop, List.length_cons] at hsplit
      rw [List.takeWhile_append, if_neg (by omega), List.dropWhile_append, hdrop]
      exact ⟨rfl, rfl⟩
    rw [Cursor.position_skipWhile, hrest, hrest', (hstop u).1, (hstop v).1]
    refine .inr ⟨rfl, ⟨?_, s.dropWhile p, ?_, ?_, ?_⟩, ?_⟩
    · simp only [Cursor.skipWhile, hrest, hrest', (hstop u).1, (hstop v).1, h.before_eq]
    · rw [Cursor.skipWhile, hrest, (hstop u).2]
    · rw [Cursor.skipWhile, hrest', (hstop v).2]
    · rw [Cursor.position_skipWhile, hrest, (hstop u).1]
      omega
    · rw [hdrop, List.length_cons] at hsplit
      omega

theorem Twin.skipBlanks (h : Twin n u v c c') :
    Passed n c ∨ Twin n u v c.skipBlanks c'.skipBlanks ∧ c.skipBlanks.position < n :=
  (h.skipWhile isBlankByte).imp_right And.right

/-- The same byte is taken, unless the place is passed. -/
theorem Twin.next? (h : Twin n u v c c') :
    Passed n c ∨ ∃ b k k', c.next? = some (b, k) ∧ c'.next? = some (b, k') ∧ Twin n u v k k' := by
  rcases h.skipBlanks with hpassed | ⟨hskip, hlt⟩
  · exact .inl hpassed
  · obtain ⟨b, rest, rest', hrest, hrest', htwin⟩ := hskip.move hlt
    exact .inr ⟨b, _, _, Cursor.next?_of_rest hrest, Cursor.next?_of_rest hrest', htwin⟩

theorem Twin.current? (h : Twin n u v c c') (hlt : c.position < n) :
    ∃ b, c.current? = some b ∧ c'.current? = some b := by
  obtain ⟨b, rest, rest', hrest, hrest', -⟩ := h.move hlt
  exact ⟨b, by rw [Cursor.current?, hrest]; rfl, by rw [Cursor.current?, hrest']; rfl⟩

theorem expect_eq {operation : String} {b b' : UInt8} {c k : Cursor} (h : c.next? = some (b', k)) :
    expect operation b c = if b' = b then .ok ⟨((), k), Cursor.length_next?_lt h⟩
      else .error (k.mismatch operation b (some b')) := by
  rw [expect]
  split
  · rename_i hnext
    cases h.symm.trans hnext
    rfl
  · rename_i hnext
    cases h.symm.trans hnext

theorem agrees_expect (h : Twin n u v c c') (operation : String) (b : UInt8) :
    Agrees n u v (expect operation b c) (expect operation b c') := by
  rcases h.next? with hpassed | ⟨b', k, k', hnext, hnext', htwin⟩
  · exact (late_expect hpassed _ _).agrees
  · rw [expect_eq hnext, expect_eq hnext']
    split
    · exact .inr ⟨_, rfl, rfl, htwin⟩
    · exact .inr ⟨_, rfl, sameReport_error htwin.before_eq _ _⟩

theorem take?_eq {b b' : UInt8} {c k : Cursor} (h : c.next? = some (b', k)) :
    take? b c = if b' = b then some ⟨k, Cursor.length_next?_lt h⟩ else none := by
  rw [take?]
  split
  · rename_i hnext
    cases h.symm.trans hnext
    rfl
  · rename_i hnext
    cases h.symm.trans hnext

/-- A byte is taken or not taken in both expressions, unless the place is passed. -/
theorem Twin.take? (h : Twin n u v c c') (b : UInt8) :
    Passed n c ∨ (∃ y y', take? b c = some y ∧ take? b c' = some y' ∧ Twin n u v y.val y'.val) ∨
      take? b c = none ∧ take? b c' = none := by
  rcases h.next? with hpassed | ⟨b', k, k', hnext, hnext', htwin⟩
  · exact .inl hpassed
  · rw [take?_eq hnext, take?_eq hnext']
    split
    · exact .inr (.inl ⟨_, _, rfl, rfl, htwin⟩)
    · exact .inr (.inr ⟨rfl, rfl⟩)

theorem Twin.skipByte (h : Twin n u v c c') (b : UInt8) :
    Passed n (skipByte b c).val ∨ Twin n u v (skipByte b c).val (skipByte b c').val := by
  rcases h.take? b with hpassed | ⟨y, y', htake, htake', htwin⟩ | ⟨htake, htake'⟩
  · exact .inl (passed_skipByte hpassed b)
  · rw [Expression.skipByte, Expression.skipByte, htake, htake']
    exact .inr htwin
  · rw [Expression.skipByte, Expression.skipByte, htake, htake']
    exact .inr h

theorem readFieldName_eq {c : Cursor} {b : UInt8} (h : c.skipBlanks.current? = some b) :
    readFieldName c =
      if hb : isNameByte b then
        if c.skipBlanks.readName.2.current?.all endsName then
          .ok ⟨c.skipBlanks.readName,
            Nat.lt_of_lt_of_le (Cursor.length_readName_lt h hb) c.length_skipBlanks_le⟩
        else
          .error ((c.skipBlanks.readName.2.seek (c.skipBlanks.readName.2.position + 1)).unexpected
            "read_node_name" c.skipBlanks.readName.2.current?)
      else
        .error ((c.skipBlanks.seek (c.skipBlanks.position + 1)).unexpected "read_node"
          (some b)) := by
  rw [readFieldName]
  split
  · rename_i hnone
    cases h.symm.trans hnone
  · rename_i hsome
    cases h.symm.trans hsome
    rfl

/-- Behind the byte at the cursor the same error is made. -/
theorem Twin.sameReport_seek (h : Twin n u v c c') (hlt : c.position < n) (operation : String)
    (cause : CompileCause) :
    SameReport ((c.seek (c.position + 1)).error operation cause)
      ((c'.seek (c'.position + 1)).error operation cause) := by
  obtain ⟨b, hcurrent, hcurrent'⟩ := h.current? hlt
  rw [Cursor.seek_succ hcurrent, Cursor.seek_succ hcurrent']
  exact sameReport_error (congrArg (b :: ·) h.before_eq) _ _

theorem agrees_readFieldName (h : Twin n u v c c') :
    Agrees n u v (readFieldName c) (readFieldName c') := by
  rcases h.skipBlanks with hpassed | ⟨hskip, hlt⟩
  · exact (late_readFieldName (hpassed.trans (c.skipBlanks.le_position_skipWhile _))).agrees
  rcases hskip.skipWhile isNameByte with hlate | ⟨hbytes, hname, hlt'⟩
  · exact (late_readFieldName hlate).agrees
  obtain ⟨b, hcurrent, hcurrent'⟩ := hskip.current? hlt
  obtain ⟨b', hend, hend'⟩ := hname.current? hlt'
  have hend : c.skipBlanks.readName.2.current? = some b' := hend
  have hend' : c'.skipBlanks.readName.2.current? = some b' := hend'
  rw [readFieldName_eq hcurrent, readFieldName_eq hcurrent', hend, hend']
  split
  · split
    · refine .inr ⟨_, rfl, ?_, hname⟩
      simp only [Cursor.readName, hbytes]
    · exact .inr ⟨_, rfl, hname.sameReport_seek hlt' _ _⟩
  · exact .inr ⟨_, rfl, hskip.sameReport_seek hlt _ _⟩

/-- Bytes are read up to the same delimiter, unless the place is passed. -/
theorem Twin.readUntil? (h : Twin n u v c c') (d : UInt8) :
    (∀ raw k, c.readUntil? d = some (raw, k) → n < k.position) ∨
      ∃ raw k k', c.readUntil? d = some (raw, k) ∧ c'.readUntil? d = some (raw, k') ∧
        Twin n u v k k' := by
  rcases h.skipWhile (· != d) with hlate | ⟨hbytes, hskip, hlt⟩
  · refine .inl fun raw k huntil => ?_
    rw [Cursor.position_readUntil? huntil]
    exact Nat.lt_succ_of_le hlate
  · obtain ⟨b, rest, rest', hrest, hrest', htwin⟩ := hskip.move hlt
    refine .inr ⟨c.rest.takeWhile (· != d), _, _, Cursor.readUntil?_of_rest hrest, ?_, htwin⟩
    rw [Cursor.readUntil?_of_rest hrest', hbytes]

theorem agrees_readArguments (h : Twin n u v c c') :
    Agrees n u v (readArguments c) (readArguments c') := by
  obtain ⟨m, hm⟩ : ∃ m, m = c.rest.length := ⟨_, rfl⟩
  induction m using Nat.strongRecOn generalizing c c' with
  | ind m ih =>
  subst hm
  rcases h.next? with hpassed | ⟨b, c1, c1', hnext, hnext', htwin⟩
  · exact (late_readArguments hpassed).agrees
  by_cases hb : b = quote
  -- The closing quote is searched for as far as it takes, but an error stands behind it.
  · subst hb
    rcases htwin.readUntil? quote with hlate | ⟨raw, c2, c2', huntil, huntil', htwin2⟩
    · exact (late_readArguments_of_quote hnext hlate fun k _ hk => late_readArguments hk).agrees
    rw [readArguments_of_quote hnext huntil, readArguments_of_quote hnext' huntil']
    split
    · exact .inr ⟨_, rfl, sameReport_error htwin2.before_eq _ _⟩
    · have hshort : (skipByte comma c2).val.rest.length < c.rest.length :=
        Nat.lt_of_le_of_lt (skipByte comma c2).property
          (Nat.lt_trans (Cursor.length_readUntil?_lt huntil) (Cursor.length_next?_lt hnext))
      rcases htwin2.skipByte comma with hpassed | htwin3
      · refine ((late_readArguments hpassed).bind fun y hy => ?_).agrees
        exact hy
      · refine (ih _ hshort htwin3 rfl).bind (fun y hy => ?_) fun y y' hargs hy => ?_
        · exact hy
        · exact .inr ⟨_, rfl, by rw [hargs], hy⟩
  · rw [readArguments_of_not_quote hnext hb, readArguments_of_not_quote hnext' hb]
    split
    · exact .inr ⟨_, rfl, rfl, htwin⟩
    · exact .inr ⟨_, rfl, sameReport_error htwin.before_eq _ _⟩

theorem readCall_eq {c : Cursor} {b : UInt8} (h : c.current? = some b) :
    readCall c =
      if hb : isNameByte b then
        expect "read_string_tuple" openParen c.readName.2 >>= fun y =>
          readArguments y.val.2 >>= fun z =>
            .ok ⟨({ name := c.readName.1, args := z.val.1 }, z.val.2), Nat.lt_trans z.property
              (Nat.lt_trans y.property (Cursor.length_readName_lt h hb))⟩
      else .error ((c.seek (c.position + 1)).unexpected "read_func_name" (some b)) := by
  rw [readCall]
  split
  · rename_i hnone
    cases h.symm.trans hnone
  · rename_i hsome
    cases h.symm.trans hsome
    rfl

theorem agrees_readCall (h : Twin n u v c c') (hlt : c.position < n) :
    Agrees n u v (readCall c) (readCall c') := by
  rcases h.skipWhile isNameByte with hlate | ⟨hbytes, hname, -⟩
  · exact (late_readCall hlate).agrees
  obtain ⟨b, hcurrent, hcurrent'⟩ := h.current? hlt
  rw [readCall_eq hcurrent, readCall_eq hcurrent']
  split
  · refine (agrees_expect hname _ _).bind (fun y hy => ?_) fun y y' _ hy => ?_
    · exact (late_readArguments hy).bind fun z hz => hz
    refine (agrees_readArguments hy).bind (fun z hz => ?_) fun z z' hargs hz => ?_
    · exact hz
    · refine .inr ⟨_, rfl, ?_, hz⟩
      simp only [Cursor.readName, hbytes, hargs]
  · exact .inr ⟨_, rfl, h.sameReport_seek hlt _ _⟩

theorem readCalls_eq {c c1 : Cursor} {b : UInt8} (hnext : c.next? = some (b, c1)) :
    readCalls c =
      if b = backtick then .ok ⟨([], c1), Cursor.length_next?_lt hnext⟩
      else if b = semicolon then
        readCalls c1 >>= fun y => .ok ⟨y.val, Nat.lt_trans y.property (Cursor.length_next?_lt hnext)⟩
      else
        readCall c.skipBlanks >>= fun y => readCalls y.val.2 >>= fun z =>
          .ok ⟨(y.val.1 :: z.val.1, z.val.2), Nat.lt_trans z.property
            (Nat.lt_of_lt_of_le y.property c.length_skipBlanks_le)⟩ := by
  rw [readCalls]
  split
  · rename_i hnone
    cases hnext.symm.trans hnone
  · rename_i hsome
    cases hnext.symm.trans hsome
    rfl

theorem agrees_readCalls (h : Twin n u v c c') : Agrees n u v (readCalls c) (readCalls c') := by
  obtain ⟨m, hm⟩ : ∃ m, m = c.rest.length := ⟨_, rfl⟩
  induction m using Nat.strongRecOn generalizing c c' with
  | ind m ih =>
  subst hm
  rcases h.skipBlanks with hpassed | ⟨hskip, hlt⟩
  · exact (late_readCalls hpassed).agrees
  rcases h.next? with hpassed | ⟨b, c1, c1', hnext, hnext', htwin⟩
  · exact (late_readCalls hpassed).agrees
  rw [readCalls_eq hnext, readCalls_eq hnext']
  split
  · exact .inr ⟨_, rfl, rfl, htwin⟩
  split
  · refine (ih _ (Cursor.length_next?_lt hnext) htwin rfl).bind (fun y hy => ?_)
      fun y y' hcalls hy => ?_
    · exact hy
    · exact .inr ⟨_, rfl, hcalls, hy⟩
  · refine (agrees_readCall hskip hlt).bind (fun y hy => ?_) fun y y' hcall hy => ?_
    · exact (late_readCalls hy).bind fun z hz => hz
    have hshort : y.val.2.rest.length < c.rest.length :=
      Nat.lt_of_lt_of_le y.property c.length_skipBlanks_le
    refine (ih _ hshort hy rfl).bind (fun z hz => ?_) fun z z' hcalls hz => ?_
    · exact hz
    · exact .inr ⟨_, rfl, by rw [hcall, hcalls], hz⟩

theorem agrees_readPipeline (h : Twin n u v c c') :
    Agrees n u v (readPipeline c) (readPipeline c') := by
  rcases h.take? backtick with hpassed | ⟨y, y', htake, htake', htwin⟩ | ⟨htake, htake'⟩
  · exact (late_readPipeline hpassed).agrees
  · rw [readPipeline, readPipeline, htake, htake']
    refine (agrees_readCalls htwin).bind (fun z hz => ?_) fun z z' hcalls hz => ?_
    · exact hz
    · exact .inr ⟨_, rfl, hcalls, hz⟩
  · rw [readPipeline, readPipeline, htake, htake']
    exact .inr ⟨_, rfl, rfl, h⟩

theorem readForest_eq {operation : String} {close b : UInt8} {c c1 : Cursor}
    (hnext : c.next? = some (b, c1)) :
    readForest operation close c =
      if b = close then .ok ⟨(.nil, c1), Cursor.length_next?_lt hnext⟩
      else readTree c >>= fun y => readForest operation close y.val.2 >>= fun z =>
        .ok ⟨(y.val.1.consTo z.val.1, z.val.2), Nat.lt_trans z.property y.property⟩ := by
  rw [readForest]
  split
  · rename_i hnone
    cases hnext.symm.trans hnone
  · rename_i hsome
    cases hnext.symm.trans hsome
    rfl

/-- The readers of trees, blocks and lists of trees, from every cursor with fewer bytes left. -/
theorem agrees_below (n : Nat) (u v : List UInt8) (m : Nat) : ∀ c c' : Cursor, Twin n u v c c' →
    c.rest.length = m → Agrees n u v (readTree c) (readTree c') ∧
      Agrees n u v (readBlock c) (readBlock c') ∧ ∀ operation close,
        Agrees n u v (readForest operation close c) (readForest operation close c') := by
  induction m using Nat.strongRecOn with
  | ind m ih =>
  intro c c' h hm
  subst hm
  have hforest : ∀ k k' : Cursor, Twin n u v k k' → k.rest.length < c.rest.length →
      ∀ operation close,
        Agrees n u v (readForest operation close k) (readForest operation close k') :=
    fun k k' hk hlt => (ih _ hlt k k' hk rfl).2.2
  have hblock : Agrees n u v (readBlock c) (readBlock c') := by
    -- The place may be passed in front of either opening byte.
    rcases h.take? openBracket with hpassed | ⟨y, y', htake, htake', htwin⟩ | ⟨htake, htake'⟩
    · exact (late_below n _ c hpassed rfl).2.1.agrees
    · rcases htwin.take? openBrace with hpassed | ⟨z, z', hbrace, hbrace', htwin2⟩ | ⟨hbrace, hbrace'⟩
      · exact (late_readBlock_of_bracket htake hpassed fun k hk _ =>
          (late_below n _ k hk rfl).2.2).agrees
      · rw [readBlock, readBlock, htake, htake']
        dsimp only
        rw [hbrace, hbrace']
        refine (hforest _ _ htwin2 (Nat.lt_trans z.property y.property) _ _).bind (fun w hw => ?_)
          fun w w' hfields hw => ?_
        · exact (late_expect hw _ _).bind fun x hx => hx
        refine (agrees_expect hw _ _).bind (fun x hx => ?_) fun x x' _ hx => ?_
        · exact hx
        · exact .inr ⟨_, rfl, by rw [hfields], hx⟩
      · rw [readBlock, readBlock, htake, htake']
        dsimp only
        rw [hbrace, hbrace']
        refine (hforest _ _ htwin y.property _ _).bind (fun w hw => ?_) fun w w' hfields hw => ?_
        · exact hw
        · exact .inr ⟨_, rfl, by rw [hfields], hw⟩
    · rw [readBlock, readBlock, htake, htake']
      dsimp only
      rcases h.take? openBrace with hpassed | ⟨y, y', hbrace, hbrace', htwin⟩ | ⟨hbrace, hbrace'⟩
      · refine Late.agrees ?_
        split
        · rename_i k hk hbrace
          exact ((late_below n _ k (passed_take? hpassed hbrace) rfl).2.2 _ _).bind fun w hw => hw
        · exact hpassed
      · rw [hbrace, hbrace']
        refine (hforest _ _ htwin y.property _ _).bind (fun w hw => ?_) fun w w' hfields hw => ?_
        · exact hw
        · exact .inr ⟨_, rfl, by rw [hfields], hw⟩
      · rw [hbrace, hbrace']
        exact .inr ⟨_, rfl, rfl, h⟩
  have htree : Agrees n u v (readTree c) (readTree c') := by
    have hlate : ∀ k : Cursor, Passed n k → Late n (readBlock k) := fun k hk =>
      (late_below n _ k hk rfl).2.1
    rw [readTree, readTree]
    refine (agrees_readFieldName h).bind (fun y hy => ?_) fun y y' hname hy => ?_
    · exact (late_readPipeline hy).bind fun z hz =>
        (hlate _ hz).bind fun w hw => passed_skipByte hw semicolon
    refine (agrees_readPipeline hy).bind (fun z hz => ?_) fun z z' hpipeline hz => ?_
    · exact (hlate _ hz).bind fun w hw => passed_skipByte hw semicolon
    have hshort : z.val.2.rest.length < c.rest.length := Nat.lt_of_le_of_lt z.property y.property
    refine (ih _ hshort _ _ hz rfl).2.1.bind (fun w hw => ?_) fun w w' hblock hw => ?_
    · exact passed_skipByte hw semicolon
    rcases hw.skipByte semicolon with hpassed | htwin
    · exact .inl hpassed
    · obtain ⟨⟨block, _⟩, _⟩ := w
      obtain ⟨⟨block', _⟩, _⟩ := w'
      obtain rfl : block' = block := hblock
      exact .inr ⟨_, rfl, by rw [hname, hpipeline], htwin⟩
  refine ⟨htree, hblock, fun operation close => ?_⟩
  rcases h.next? with hpassed | ⟨b, c1, c1', hnext, hnext', htwin⟩
  · exact ((late_below n _ c hpassed rfl).2.2 _ _).agrees
  rw [readForest_eq hnext, readForest_eq hnext']
  split
  · exact .inr ⟨_, rfl, rfl, htwin⟩
  · refine htree.bind (fun y hy => ?_) fun y y' hlabel hy => ?_
    · exact ((late_below n _ _ hy rfl).2.2 _ _).bind fun z hz => hz
    refine (hforest _ _ hy y.property _ _).bind (fun z hz => ?_) fun z z' hfields hz => ?_
    · exact hz
    · exact .inr ⟨_, rfl, by rw [hlabel, hfields], hz⟩

theorem agrees_readTop (h : Twin n u v c c') : Agrees n u v (readTop c) (readTop c') := by
  rcases h.skipBlanks with hpassed | ⟨hskip, hlt⟩
  · exact (late_readTop hpassed).agrees
  obtain ⟨b, hpeek, hpeek'⟩ := hskip.current? hlt
  have hpeek : c.peek? = some b := hpeek
  have hpeek' : c'.peek? = some b := hpeek'
  rw [readTop, readTop, Cursor.signal, Cursor.signal, hpeek, hpeek']
  split
  · rw [readObject, readObject]
    refine Agrees.bind ?_ (fun y hy => hy) fun y y' hfields hy => ?_
    · refine (agrees_expect h _ _).bind (fun y hy => ?_) fun y y' _ hy => ?_
      · exact ((late_below n _ _ hy rfl).2.2 _ _).bind fun z hz => hz
      refine ((agrees_below n u v _ _ _ hy rfl).2.2 _ _).bind (fun z hz => hz)
        fun z z' hfields hz => ?_
      exact .inr ⟨_, rfl, hfields, hz⟩
    · exact .inr ⟨_, rfl, by rw [hfields], hy⟩
  · refine (agrees_below n u v _ _ _ h rfl).1.bind (fun y hy => hy) fun y y' htree hy => ?_
    exact .inr ⟨_, rfl, by rw [htree], hy⟩

end

end Expression

open Expression

theorem compile_eq_error_iff {bytes : List UInt8} {e : CompileError} :
    compile bytes = .error e ↔ readTop (.start bytes) = .error e := by
  rw [compile]
  cases readTop (.start bytes) <;> simp

/-- A cause that a message tells to be about something found. -/
theorem CompileError.isFound {bytes : List UInt8} {e : CompileError} (hpoints : PointsInto bytes e)
    (h : (∃ b, e.Names b) ∨ ∃ fault, e.ReportsArgument fault) : e.cause.IsFound := by
  have hend : ¬e.ReportsEnd := by
    rcases h with ⟨b, hnames⟩ | ⟨fault, hreports⟩
    · exact hnames.not_reportsEnd
    · exact hreports.not_other.2
  obtain ⟨c, -, -, hfits⟩ := hpoints
  match hcause : e.cause, hfits with
  | .mismatch _ (some _), _ | .unexpected (some _), _ | .notUtf8 _, _ => trivial
  | .mismatch expected none, _ => exact hend (.inr ⟨expected, by rw [hcause]⟩)
  | .unexpected none, _ => exact hend (.inl (by rw [hcause]))

/-- A compile error depends only on what was read.  If one names a byte or an argument that was
found, and stands at the end of the first bytes of an expression, then every expression with these
first bytes has an error with the same wording at the same place. -/
theorem compile_error_of_prefix {front rest : List UInt8} {e : CompileError}
    (h : compile (front ++ rest) = .error e) (hoffset : e.offset = front.length)
    (hfound : (∃ b, e.Names b) ∨ ∃ fault, e.ReportsArgument fault) (other : List UInt8) :
    ∃ e', compile (front ++ other) = .error e' ∧ e'.operation = e.operation ∧
      e'.cause.message = e.cause.message ∧ e'.offset = e.offset ∧ e'.column = e.column := by
  rw [compile_eq_error_iff] at h
  have hstays : Stays (front ++ rest) (readTop (.start (front ++ rest))) := stays_readTop rfl
  have htwin : Twin front.length rest other (.start (front ++ rest)) (.start (front ++ other)) :=
    ⟨rfl, front, rfl, rfl, Nat.zero_add _⟩
  have hagrees := agrees_readTop htwin
  rw [h] at hstays hagrees
  rcases hagrees with hlate | ⟨e', hread, hoperation, hcause, hplace, hcolumn⟩
  · exact absurd (hlate (e.isFound hstays hfound)) (by rw [hoffset]; exact lt_irrefl _)
  · exact ⟨e', compile_eq_error_iff.mpr hread, hoperation, by rw [hcause], hplace, hcolumn⟩

/-- The broken call, with more arguments behind it. -/
theorem compile_error_of_prefix_broken :
    ∃ e', compile (brokenCall.take 13 ++ Utf8.encode ", \"y\")`;") = .error e' ∧
      e'.operation = "read_string_tuple" ∧ e'.cause.message = brokenError.cause.message ∧
      e'.offset = 13 ∧ e'.column = 10 := by
  have hcompile : compile (brokenCall.take 13 ++ brokenCall.drop 13) = .error brokenError := by cbv
  exact compile_error_of_prefix hcompile (by decide) (.inr ⟨⟨0, some 1⟩, rfl⟩) _

end DocQuery
