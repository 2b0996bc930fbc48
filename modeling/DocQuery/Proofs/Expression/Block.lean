import DocQuery.Proofs.Expression.Pipeline

/-! The readers of fields, of blocks and of whole expressions read the texts of their constructs.
In one direction the induction is on the bytes left, in the other on the fields: a text may leave
out its last parts, and it is read to its end if the byte after it starts none of them. -/

namespace DocQuery.Expression

open Grammar

/-- The first significant byte is none of the given ones. -/
def Apart (bytes s : List UInt8) : Prop := ∀ b ∈ bytes, (significant s).head? ≠ some b

theorem apart_of_token {b : UInt8} (hb : ¬isBlankByte b) {text bytes s r : List UInt8}
    (h : token (b :: text) s r) (hbytes : b ∉ bytes) : Apart bytes s := by
  intro b' hb' hhead
  rw [(token_iff hb).mp h] at hhead
  cases hhead
  exact hbytes hb'

theorem apart_of_optional {b : UInt8} (hb : ¬isBlankByte b) {bytes s r : List UInt8}
    (h : Construct.optional (token [b]) s r) (hbytes : b ∉ bytes) (hr : Apart bytes r) :
    Apart bytes s := by
  rcases h with rfl | h
  · exact hr
  · exact apart_of_token hb h hbytes

theorem apart_of_block {children : Forest Field} {inside : Construct} {type : FieldType}
    {bytes s r : List UInt8} (h : block children inside type s r) (hbracket : openBracket ∉ bytes)
    (hbrace : openBrace ∉ bytes) (hr : Apart bytes r) : Apart bytes s := by
  cases type with
  | text =>
    obtain ⟨_, rfl⟩ := h
    exact hr
  | number => exact h.elim
  | object =>
    obtain ⟨_, ⟨_, hopen, _⟩, _⟩ := h
    exact apart_of_token (by decide) hopen hbrace
  | array =>
    obtain ⟨_, ⟨_, hopen, _⟩, _⟩ := h
    exact apart_of_token (by decide) hopen hbracket
  | objects =>
    obtain ⟨_, ⟨_, ⟨_, ⟨_, hopen, _⟩, _⟩, _⟩, _⟩ := h
    exact apart_of_token (by decide) hopen hbracket

/-- A field starts with a name byte. -/
theorem head_of_tree {field : Field} {children : Forest Field} {inside : Construct}
    {s r : List UInt8} (h : tree field children inside s r) :
    ∃ b, (significant s).head? = some b ∧ isNameByte b := by
  obtain ⟨_, ⟨_, ⟨_, ⟨hname, htoken, _⟩, _⟩, _⟩, _⟩ := h
  exact hname.head_significant htoken

/-- Bytes that go on with a field after its name. -/
def continuations : List UInt8 := [backtick, openBracket, openBrace, semicolon]

/-- Bytes that close a block of fields. -/
def closers : List UInt8 := [closeBrace, closeBracket]

theorem not_continuation_of_isNameByte : ∀ b, isNameByte b → b ∉ continuations := by
  decide +kernel

/-- A closing byte is significant and part of no field. -/
theorem of_mem_closers :
    ∀ b ∈ closers, ¬isBlankByte b ∧ b ∉ continuations ∧ ¬isNameByte b := by
  rw [closers, List.forall_mem_cons, List.forall_mem_singleton]
  decide

/-- What follows a field of a block does not go on with it. -/
theorem apart_of_fields {forest : Forest Field} {close : UInt8} (hclose : close ∈ closers)
    {s r : List UInt8} (h : (fields forest ++ token [close]) s r) : Apart continuations s := by
  obtain ⟨m, hfields, ht⟩ := h
  cases forest with
  | nil =>
    cases hfields
    exact apart_of_token (of_mem_closers close hclose).1 ht (of_mem_closers close hclose).2.1
  | cons field children rest =>
    obtain ⟨_, htree, _⟩ := hfields
    obtain ⟨b, hhead, hb⟩ := head_of_tree htree
    intro b' hb' hhead'
    rw [hhead] at hhead'
    cases hhead'
    exact not_continuation_of_isNameByte b hb hb'

/-! What is read is a text. -/

/-- Blocks that start at fewer than `n` bytes from the end are read as texts of fields. -/
def SoundBelow (n : Nat) : Prop :=
  ∀ ⦃operation close c forest r⦄, c.rest.length < n → ¬isBlankByte close →
    Reads (readForest operation close c) forest r → (fields forest ++ token [close]) c.rest r

theorem block_of_reads {c : Cursor} (ih : SoundBelow c.rest.length) {type : FieldType}
    {children : Forest Field} {r : List UInt8} (h : Reads (readBlock c) (type, children) r) :
    block children (fields children) type c.rest r := by
  rw [readBlock] at h
  split at h
  · rename_i c1 h1 hbracket
    have hbracket := token_of_take? (by decide) hbracket
    split at h
    · rename_i c2 h2 hbrace
      have hbrace := token_of_take? (by decide) hbrace
      obtain ⟨forest, c3, h3, hforest, h⟩ := reads_bind.mp h
      obtain ⟨_, c4, h4, hend, h⟩ := reads_bind.mp h
      obtain ⟨hvalue, rfl⟩ := reads_ok.mp h
      cases hvalue
      obtain ⟨m, hfields, hclose⟩ :=
        ih (Nat.lt_trans h2 h1) (by decide) ⟨_, hforest, rfl, rfl⟩
      have hend := (reads_expect _ (by decide)).mp ⟨_, hend, rfl, rfl⟩
      exact ⟨c3.rest, ⟨m, ⟨c2.rest, ⟨c1.rest, hbracket, hbrace⟩, hfields⟩, hclose⟩, hend⟩
    · obtain ⟨forest, c3, h3, hforest, h⟩ := reads_bind.mp h
      obtain ⟨hvalue, rfl⟩ := reads_ok.mp h
      cases hvalue
      obtain ⟨m, hfields, hclose⟩ := ih h1 (by decide) ⟨_, hforest, rfl, rfl⟩
      exact ⟨m, ⟨c1.rest, hbracket, hfields⟩, hclose⟩
  split at h
  · rename_i c1 h1 hbrace
    have hbrace := token_of_take? (by decide) hbrace
    obtain ⟨forest, c3, h3, hforest, h⟩ := reads_bind.mp h
    obtain ⟨hvalue, rfl⟩ := reads_ok.mp h
    cases hvalue
    obtain ⟨m, hfields, hclose⟩ := ih h1 (by decide) ⟨_, hforest, rfl, rfl⟩
    exact ⟨m, ⟨c1.rest, hbrace, hfields⟩, hclose⟩
  · obtain ⟨hvalue, rfl⟩ := reads_ok.mp h
    cases hvalue
    exact ⟨rfl, rfl⟩

theorem tree_of_reads {c : Cursor} (ih : SoundBelow c.rest.length) {t : Tree Field}
    {r : List UInt8} (h : Reads (readTree c) t r) :
    tree t.label t.children (fields t.children) c.rest r := by
  rw [readTree] at h
  obtain ⟨name, c1, h1, hname, h⟩ := reads_bind.mp h
  obtain ⟨calls, c2, h2, hpipeline, h⟩ := reads_bind.mp h
  obtain ⟨⟨type, children⟩, c3, h3, hblock, h⟩ := reads_bind.mp h
  dsimp only at h
  have hsemicolon := optional_skipByte (b := semicolon) (by decide) c3
  generalize skipByte semicolon c3 = y at h hsemicolon
  obtain ⟨rfl, rfl⟩ := reads_ok.mp h
  have hlt : c2.rest.length ≤ c.rest.length := Nat.le_of_lt (Nat.lt_of_le_of_lt h2 h1)
  have hblock := block_of_reads (fun _ _ _ _ _ hc => ih (Nat.lt_of_lt_of_le hc hlt))
    ⟨_, hblock, rfl, rfl⟩
  have hname := reads_readFieldName.mp ⟨_, hname, rfl, rfl⟩
  have hpipeline := pipeline_of_reads ⟨_, hpipeline, rfl, rfl⟩
  exact ⟨c3.rest, ⟨c2.rest, ⟨c1.rest, hname, hpipeline⟩, hblock⟩, hsemicolon⟩

theorem soundBelow (n : Nat) : SoundBelow n := by
  induction n with
  | zero =>
    intro operation close c forest r hlt
    exact absurd hlt (Nat.not_lt_zero _)
  | succ n ih =>
    intro operation close c forest r hlt hclose h
    have ih : SoundBelow c.rest.length :=
      fun _ _ _ _ _ hc => ih (Nat.lt_of_lt_of_le hc (Nat.le_of_lt_succ hlt))
    rw [readForest] at h
    split at h
    · exact absurd h not_reads_error
    rename_i b c1 hnext
    split at h
    · rename_i heq
      subst heq
      obtain ⟨rfl, rfl⟩ := reads_ok.mp h
      exact ⟨c.rest, rfl, (token_iff hclose).mpr (significant_of_next? hnext)⟩
    · obtain ⟨t, c2, h2, htree, h⟩ := reads_bind.mp h
      obtain ⟨rest, c3, h3, hforest, h⟩ := reads_bind.mp h
      obtain ⟨rfl, rfl⟩ := reads_ok.mp h
      have htree := tree_of_reads ih ⟨_, htree, rfl, rfl⟩
      obtain ⟨m, hfields, ht⟩ := ih h2 hclose ⟨_, hforest, rfl, rfl⟩
      exact ⟨m, ⟨c2.rest, htree, hfields⟩, ht⟩

/-! A text is read. -/

/-- The fields are read wherever a text of them stands before a closing byte. -/
def Readable (forest : Forest Field) : Prop :=
  ∀ (operation : String) ⦃close c r⦄, close ∈ closers →
    (fields forest ++ token [close]) c.rest r → Reads (readForest operation close c) forest r

theorem reads_of_block {children : Forest Field} (hchildren : Readable children)
    {type : FieldType} {c : Cursor} {r : List UInt8}
    (h : block children (fields children) type c.rest r)
    (hr : Apart [openBracket, openBrace] r) : Reads (readBlock c) (type, children) r := by
  rw [readBlock]
  cases type with
  | text =>
    obtain ⟨rfl, rfl⟩ := h
    rw [take?_eq_none (by decide) (hr openBracket (by decide)),
      take?_eq_none (by decide) (hr openBrace (by decide))]
    exact reads_ok.mpr ⟨rfl, rfl⟩
  | number => exact h.elim
  | object =>
    obtain ⟨m, ⟨s1, hopen, hfields⟩, hclose⟩ := h
    have hapart : Apart [openBracket] c.rest := apart_of_token (by decide) hopen (by decide)
    obtain ⟨⟨c1, h1⟩, htake, rfl⟩ := take?_of_token (by decide) hopen
    obtain ⟨⟨⟨_, c2⟩, h2⟩, hforest, rfl, rfl⟩ :=
      hchildren "read_object" (by decide) ⟨m, hfields, hclose⟩
    rw [take?_eq_none (by decide) (hapart openBracket (by decide)), htake]
    exact reads_bind.mpr ⟨_, c2, h2, hforest, reads_ok.mpr ⟨rfl, rfl⟩⟩
  | array =>
    obtain ⟨m, ⟨s1, hopen, hfields⟩, hclose⟩ := h
    obtain ⟨⟨c1, h1⟩, htake, rfl⟩ := take?_of_token (by decide) hopen
    have hapart : Apart continuations c1.rest := apart_of_fields (by decide) ⟨m, hfields, hclose⟩
    obtain ⟨⟨⟨_, c2⟩, h2⟩, hforest, rfl, rfl⟩ :=
      hchildren "read_array" (by decide) ⟨m, hfields, hclose⟩
    rw [htake]
    dsimp only
    rw [take?_eq_none (by decide) (hapart openBrace (by decide))]
    exact reads_bind.mpr ⟨_, c2, h2, hforest, reads_ok.mpr ⟨rfl, rfl⟩⟩
  | objects =>
    obtain ⟨s3, ⟨m, ⟨s2, ⟨s1, hbracket, hbrace⟩, hfields⟩, hclose⟩, hend⟩ := h
    obtain ⟨⟨c1, h1⟩, htake, rfl⟩ := take?_of_token (by decide) hbracket
    obtain ⟨⟨c2, h2⟩, htake', rfl⟩ := take?_of_token (by decide) hbrace
    obtain ⟨⟨⟨_, c3⟩, h3⟩, hforest, rfl, rfl⟩ :=
      hchildren "read_object_array" (by decide) ⟨m, hfields, hclose⟩
    obtain ⟨⟨⟨_, c4⟩, h4⟩, hexpect, _, rfl⟩ :=
      (reads_expect "read_object_array" (by decide)).mpr hend
    rw [htake]
    dsimp only
    rw [htake']
    refine reads_bind.mpr ⟨_, c3, h3, hforest, reads_bind.mpr ⟨_, c4, h4, hexpect, ?_⟩⟩
    exact reads_ok.mpr ⟨rfl, rfl⟩

theorem reads_of_tree {field : Field} {children : Forest Field} (hchildren : Readable children)
    {c : Cursor} {r : List UInt8} (h : tree field children (fields children) c.rest r)
    (hr : Apart continuations r) : Reads (readTree c) ⟨field, children⟩ r := by
  obtain ⟨s3, ⟨s2, ⟨s1, hname, hpipeline⟩, hblock⟩, hsemicolon⟩ := h
  have hs3 : Apart [backtick, openBracket, openBrace] s3 :=
    apart_of_optional (by decide) hsemicolon (by decide)
      fun b hb => hr b (List.mem_append_left [semicolon] hb)
  have hs2 : Apart [backtick] s2 :=
    apart_of_block hblock (by decide) (by decide)
      fun b hb => hs3 b (List.mem_append_left [openBracket, openBrace] hb)
  obtain ⟨⟨⟨_, c1⟩, h1⟩, hread, rfl, rfl⟩ := reads_readFieldName.mpr hname
  obtain ⟨⟨⟨_, c2⟩, h2⟩, hread2, rfl, rfl⟩ := reads_of_pipeline hpipeline (hs2 _ (by decide))
  obtain ⟨⟨⟨_, c3⟩, h3⟩, hread3, hvalue, rfl⟩ :=
    reads_of_block hchildren hblock fun b hb => hs3 b (List.mem_cons_of_mem _ hb)
  have hskip := skipByte_of_optional (by decide) hsemicolon (hr _ (by decide))
  cases hvalue
  rw [readTree]
  refine reads_bind.mpr ⟨_, c1, h1, hread, reads_bind.mpr ⟨_, c2, h2, hread2, ?_⟩⟩
  refine reads_bind.mpr ⟨_, c3, h3, hread3, ?_⟩
  dsimp only
  generalize skipByte semicolon c3 = y at hskip
  exact reads_ok.mpr ⟨rfl, hskip⟩

theorem readable (forest : Forest Field) : Readable forest := by
  induction forest with
  | nil =>
    rintro operation close c r hclose ⟨_, rfl, ht⟩
    rw [token_iff (of_mem_closers close hclose).1] at ht
    obtain ⟨c1, hnext, rfl⟩ := next?_eq_some_iff.mpr ht
    rw [readForest]
    split
    · rename_i hnone
      rw [hnext] at hnone
      cases hnone
    rename_i hsome
    rw [hnext] at hsome
    cases hsome
    rw [if_pos rfl]
    exact reads_ok.mpr ⟨rfl, rfl⟩
  | cons field children rest ihc ihr =>
    rintro operation close c r hclose ⟨m, ⟨s2, htree, hrest⟩, ht⟩
    obtain ⟨b, hhead, hb⟩ := head_of_tree htree
    have hne : b ≠ close := by
      rintro rfl
      exact (of_mem_closers b hclose).2.2 hb
    obtain ⟨⟨⟨_, c2⟩, h2⟩, hread, rfl, rfl⟩ :=
      reads_of_tree ihc htree (apart_of_fields hclose ⟨m, hrest, ht⟩)
    obtain ⟨⟨⟨_, c3⟩, h3⟩, hreads, rfl, rfl⟩ := ihr operation hclose ⟨m, hrest, ht⟩
    rw [readForest]
    split
    · rename_i hnone
      rw [significant_of_next?_none hnone] at hhead
      cases hhead
    rename_i hsome
    rw [significant_of_next? hsome] at hhead
    cases hhead
    rw [if_neg hne]
    refine reads_bind.mpr ⟨_, c2, h2, hread, reads_bind.mpr ⟨_, c3, h3, hreads, ?_⟩⟩
    exact reads_ok.mpr ⟨rfl, rfl⟩

/-! Whole expressions. -/

theorem reads_readObject {c : Cursor} {forest : Forest Field} {r : List UInt8} :
    Reads (readObject c) forest r ↔ program .object forest c.rest r := by
  rw [readObject]
  constructor
  · intro h
    obtain ⟨_, c1, h1, hopen, h⟩ := reads_bind.mp h
    obtain ⟨_, c2, h2, hforest, h⟩ := reads_bind.mp h
    obtain ⟨rfl, rfl⟩ := reads_ok.mp h
    have hopen := (reads_expect _ (by decide)).mp ⟨_, hopen, rfl, rfl⟩
    obtain ⟨m, hfields, hclose⟩ :=
      soundBelow _ (Nat.lt_succ_self _) (by decide) ⟨_, hforest, rfl, rfl⟩
    exact ⟨m, ⟨c1.rest, hopen, hfields⟩, hclose⟩
  · rintro ⟨m, ⟨s1, hopen, hfields⟩, hclose⟩
    obtain ⟨⟨⟨_, c1⟩, h1⟩, hexpect, _, rfl⟩ := (reads_expect "read_object" (by decide)).mpr hopen
    obtain ⟨⟨⟨_, c2⟩, h2⟩, hforest, rfl, rfl⟩ :=
      readable forest "read_object" (by decide) ⟨m, hfields, hclose⟩
    refine reads_bind.mpr ⟨_, c1, h1, hexpect, reads_bind.mpr ⟨_, c2, h2, hforest, ?_⟩⟩
    exact reads_ok.mpr ⟨rfl, rfl⟩

theorem program_of_reads {c : Cursor} {shape : Shape} {forest : Forest Field} {r : List UInt8}
    (h : Reads (readTop c) (shape, forest) r) : program shape forest c.rest r := by
  rw [readTop] at h
  split at h
  · obtain ⟨fields, c1, h1, hobject, h⟩ := reads_bind.mp h
    obtain ⟨hvalue, rfl⟩ := reads_ok.mp h
    cases hvalue
    exact reads_readObject.mp ⟨_, hobject, rfl, rfl⟩
  · obtain ⟨t, c1, h1, htree, h⟩ := reads_bind.mp h
    obtain ⟨hvalue, rfl⟩ := reads_ok.mp h
    cases hvalue
    exact tree_of_reads (soundBelow _) ⟨_, htree, rfl, rfl⟩

/-- A whole expression is read; after one field nothing may follow that goes on with it. -/
theorem reads_of_program {c : Cursor} {shape : Shape} {forest : Forest Field} {r : List UInt8}
    (h : program shape forest c.rest r) (hr : shape = .atom → Apart continuations r) :
    Reads (readTop c) (shape, forest) r := by
  have hsignal : c.signal = .ofByte? (significant c.rest).head? := rfl
  rw [readTop]
  match shape, forest, h with
  | .object, forest, h =>
    have hobject : c.signal = .object := by
      obtain ⟨_, ⟨_, hopen, _⟩, _⟩ := h
      rw [hsignal, (token_iff (by decide)).mp hopen]
      rfl
    obtain ⟨⟨⟨_, c1⟩, h1⟩, hread, rfl, rfl⟩ := reads_readObject.mpr h
    rw [hobject]
    exact reads_bind.mpr ⟨_, c1, h1, hread, reads_ok.mpr ⟨rfl, rfl⟩⟩
  | .atom, .cons field children .nil, h =>
    have hname : c.signal = .name := by
      obtain ⟨b, hhead, hb⟩ := head_of_tree h
      rw [hsignal, hhead]
      exact if_pos hb
    obtain ⟨⟨⟨_, c1⟩, h1⟩, hread, rfl, rfl⟩ := reads_of_tree (readable children) h (hr rfl)
    rw [hname]
    exact reads_bind.mpr ⟨_, c1, h1, hread, reads_ok.mpr ⟨rfl, rfl⟩⟩

end DocQuery.Expression
