import DocQuery.Proofs.Expression.Acceptance
import DocQuery.Proofs.Expression.Continuation

/-! Where an expression in braces ends.  The brace that closes it is found without reading the
expression: braces in quotes do not count, and every other one that opens a block is closed before.
What stands behind that brace plays no part, and an expression that is cut off anywhere before it
has an error that reports the end: any other error would be there in the whole expression, too. -/

namespace DocQuery

namespace Expression

open Grammar

/-- What stands behind the brace that closes a block, as seen from inside of the block and of
`depth` more of them.  Braces in quotes do not count. -/
def behindBlock (quoted : Bool) (depth : Nat) : List UInt8 → Option (List UInt8)
  | [] => none
  | b :: rest =>
    if b = quote then behindBlock (!quoted) depth rest
    else if quoted then behindBlock quoted depth rest
    else if b = openBrace then behindBlock quoted (depth + 1) rest
    else if b = closeBrace then
      if depth = 0 then some rest else behindBlock quoted (depth - 1) rest
    else behindBlock quoted depth rest

/-- What stands behind the brace that closes the first block of an expression. -/
def behindObject (bytes : List UInt8) : Option (List UInt8) :=
  behindBlock false 0 (bytes.dropWhile (· != openBrace)).tail

/-- Neither a quote nor a brace. -/
def isPlain (b : UInt8) : Bool := b != quote && b != openBrace && b != closeBrace

theorem isPlain_iff {b : UInt8} : isPlain b ↔ b ≠ quote ∧ b ≠ openBrace ∧ b ≠ closeBrace := by
  simp [isPlain, and_assoc]

theorem isPlain_of_isBlankByte : ∀ b, isBlankByte b → isPlain b := by decide +kernel

theorem isPlain_of_isNameByte : ∀ b, isNameByte b → isPlain b := by decide +kernel

section

variable {depth : Nat} {bytes r : List UInt8}

theorem behindBlock_plain (h : ∀ b ∈ bytes, isPlain b) :
    behindBlock false depth (bytes ++ r) = behindBlock false depth r := by
  induction bytes with
  | nil => rfl
  | cons b bytes ih =>
    rw [List.forall_mem_cons] at h
    obtain ⟨hquote, hopen, hclose⟩ := isPlain_iff.mp h.1
    rw [List.cons_append, behindBlock, if_neg hquote, if_neg Bool.false_ne_true, if_neg hopen,
      if_neg hclose, ih h.2]

theorem behindBlock_quoted (h : quote ∉ bytes) :
    behindBlock true depth (bytes ++ quote :: r) = behindBlock false depth r := by
  induction bytes with
  | nil => rw [List.nil_append, behindBlock, if_pos rfl, Bool.not_true]
  | cons b bytes ih =>
    rw [List.mem_cons, not_or] at h
    rw [List.cons_append, behindBlock, if_neg (Ne.symm h.1), if_pos rfl, ih h.2]

end

/-! ### Constructs that close what they open -/

/-- A text of the construct closes the blocks and the quotes that it opens, and no others. -/
def Construct.Closed (L : Construct) : Prop :=
  ∀ ⦃s r⦄, L s r → ∀ depth, behindBlock false depth s = behindBlock false depth r

namespace Construct.Closed

variable {L M : Construct}

theorem empty : Construct.empty.Closed := by
  rintro s _ rfl depth
  rfl

theorem append (hL : L.Closed) (hM : M.Closed) : (L ++ M).Closed := by
  rintro s r ⟨m, hs, hm⟩ depth
  rw [hL hs, hM hm]

theorem optional (h : L.Closed) : (Construct.optional L).Closed := by
  rintro s r (rfl | hs) depth
  · rfl
  · exact h hs depth

end Construct.Closed

variable {depth : Nat} {s r : List UInt8}

theorem behindBlock_token {bytes : List UInt8} (h : token bytes s r) :
    behindBlock false depth s = behindBlock false depth (bytes ++ r) := by
  obtain ⟨blanks, hblanks, rfl⟩ := h
  exact behindBlock_plain fun b hb => isPlain_of_isBlankByte b (hblanks b hb)

theorem closed_token {bytes : List UInt8} (h : ∀ b ∈ bytes, isPlain b) : (token bytes).Closed := by
  intro s r hs depth
  rw [behindBlock_token hs, behindBlock_plain h]

theorem closed_mark {b : UInt8} (h : isPlain b) : (token [b]).Closed :=
  closed_token (List.forall_mem_singleton.mpr h)

theorem closed_name {name : String} (h : IsName name) : (token (Utf8.encode name)).Closed :=
  closed_token fun b hb => isPlain_of_isNameByte b (h.2 b hb)

theorem behindBlock_open (h : token [openBrace] s r) :
    behindBlock false depth s = behindBlock false (depth + 1) r :=
  behindBlock_token h

theorem behindBlock_close (h : token [closeBrace] s r) :
    behindBlock false (depth + 1) s = behindBlock false depth r :=
  behindBlock_token h

theorem closed_braces {inside : Construct} (h : inside.Closed) :
    (token [openBrace] ++ inside ++ token [closeBrace]).Closed := by
  rintro s r ⟨m, ⟨k, hopen, hinside⟩, hclose⟩ depth
  rw [behindBlock_open hopen, h hinside, behindBlock_close hclose]

theorem closed_argument (arg : String) : (argument arg).Closed := by
  rintro s r ⟨hquote, hs⟩ depth
  rw [behindBlock_token hs, List.cons_append, List.append_assoc, behindBlock, if_pos rfl]
  exact behindBlock_quoted hquote

theorem closed_arguments (args : List String) : (arguments args).Closed := by
  induction args with
  | nil => exact .empty
  | cons arg args ih =>
    exact ((closed_argument arg).append (closed_mark (by decide)).optional).append ih

theorem closed_functionName (name : String) : (functionName name).Closed := by
  rintro s r ⟨hname, hs, -⟩
  exact closed_name hname hs

theorem closed_fieldName (name : String) : (fieldName name).Closed := by
  rintro s r ⟨hname, hs, -⟩
  exact closed_name hname hs

theorem closed_call (c : Call) : (call c).Closed :=
  (((closed_functionName _).append (closed_mark (by decide))).append (closed_arguments _)).append
    (closed_mark (by decide))

theorem closed_calls (calls : List Call) : (Calls calls).Closed := by
  intro s r h depth
  induction h with
  | nil => rfl
  | semicolon ht _ ih => rw [closed_mark (by decide) ht, ih]
  | cons hc _ ih => rw [closed_call _ hc, ih]

theorem closed_pipeline (calls : List Call) : (pipeline calls).Closed := by
  rintro s r (⟨-, rfl⟩ | h)
  · exact fun depth => rfl
  · exact ((closed_mark (by decide)).append (closed_calls calls)).append
      (closed_mark (by decide)) h

theorem closed_block {inside : Construct} (h : inside.Closed) (children : Forest Field)
    (type : FieldType) : (block children inside type).Closed := by
  cases type with
  | text =>
    rintro s r ⟨-, rfl⟩ depth
    rfl
  | number => exact fun _ _ hs => hs.elim
  | object => exact closed_braces h
  | array => exact ((closed_mark (by decide)).append h).append (closed_mark (by decide))
  | objects =>
    rintro s r ⟨k, ⟨m, ⟨s2, ⟨s1, hbracket, hopen⟩, hinside⟩, hclose⟩, hend⟩ depth
    rw [closed_mark (by decide) hbracket, closed_braces h ⟨m, ⟨s2, hopen, hinside⟩, hclose⟩,
      closed_mark (by decide) hend]

theorem closed_tree {inside : Construct} (h : inside.Closed) (field : Field)
    (children : Forest Field) : (tree field children inside).Closed :=
  (((closed_fieldName _).append (closed_pipeline _)).append (closed_block h _ _)).append
    (closed_mark (by decide)).optional

theorem closed_fields (forest : Forest Field) : (fields forest).Closed := by
  induction forest with
  | nil => exact .empty
  | cons field children rest ihc ihr => exact (closed_tree ihc field children).append ihr

/-- The closing brace of an expression in braces is the one that the grammar takes for it. -/
theorem behindObject_of_program {forest : Forest Field} (h : program .object forest s r) :
    behindObject s = some r := by
  obtain ⟨m, ⟨k, ⟨blanks, hblanks, rfl⟩, hfields⟩, hclose⟩ := h
  have hopen : (blanks ++ ([openBrace] ++ k)).dropWhile (· != openBrace) = openBrace :: k := by
    rw [List.dropWhile_append_of_pos]
    · rfl
    · intro b hb
      simpa using (isPlain_iff.mp (isPlain_of_isBlankByte b (hblanks b hb))).2.1
  rw [behindObject, hopen, List.tail_cons, closed_fields forest hfields, behindBlock_token hclose]
  rfl

end Expression

open Expression

/-! ### Expressions that are cut off -/

theorem pointsInto_of_compile {bytes : List UInt8} {e : CompileError}
    (h : compile bytes = .error e) : PointsInto bytes e := by
  have hstays : Stays bytes (readTop (.start bytes)) := stays_readTop rfl
  rwa [compile_eq_error_iff.mp h] at hstays

/-- An error about something that was found stays, however the expression goes on. -/
theorem exists_error_of_isFound {front : List UInt8} {e : CompileError}
    (h : compile front = .error e) (hfound : e.cause.IsFound) (rest : List UInt8) :
    ∃ e', compile (front ++ rest) = .error e' := by
  have hinside : e.offset ≤ front.length := (kinds_of_pointsInto (pointsInto_of_compile h)).1
  have htwin : Twin front.length [] rest (.start front) (.start (front ++ rest)) :=
    ⟨rfl, front, (List.append_nil front).symm, rfl, Nat.zero_add _⟩
  have hagrees := agrees_readTop htwin
  rw [compile_eq_error_iff.mp h] at hagrees
  rcases hagrees with hlate | ⟨e', hread, -⟩
  · exact absurd hinside (Nat.not_le_of_gt (hlate hfound))
  · exact ⟨e', compile_eq_error_iff.mpr hread⟩

/-- Any other error reports the end. -/
theorem beforeEnd_of_not_isFound {bytes : List UInt8} {e : CompileError}
    (h : compile bytes = .error e) (hfound : ¬e.cause.IsFound) : e.BeforeEnd bytes := by
  have hpoints := pointsInto_of_compile h
  rcases (kinds_of_pointsInto hpoints).2 with
    ⟨b, hnames, -⟩ | hend | ⟨fault, _, _, _, _, hreports, -⟩
  · exact absurd (e.isFound hpoints (.inl ⟨b, hnames⟩)) hfound
  · exact hend
  · exact absurd (e.isFound hpoints (.inr ⟨fault, hreports⟩)) hfound

theorem exists_program_of_compile {bytes : List UInt8} {program : Program}
    (h : compile bytes = .ok program) :
    ∃ shape fields r, program = .ofFields shape fields ∧
      Grammar.program shape fields bytes r := by
  rw [compile] at h
  split at h
  · rename_i shape fields c hlt hread
    cases h
    exact ⟨shape, fields, c.rest, rfl, program_of_reads ⟨_, hread, rfl, rfl⟩⟩
  · cases h

/-- No expression in braces that is cut off compiles. -/
theorem exists_error_of_cut {front rest : List UInt8} {fields : Forest Field}
    (h : Grammar.program .object fields (front ++ rest) []) (hrest : rest ≠ []) :
    ∃ e, compile front = .error e := by
  cases hcompile : compile front with
  | error e => exact ⟨e, rfl⟩
  | ok program =>
    exfalso
    obtain ⟨shape, others, r, -, hfront⟩ := exists_program_of_compile hcompile
    match shape, others, hfront with
    -- The closing brace would stand in front of the cut, and be the last byte of the whole.
    | .object, others, hfront =>
      have hbehind := behindObject_of_program (Grammar.program_append hfront rest)
      rw [behindObject_of_program h, Option.some.injEq] at hbehind
      exact hrest (List.append_eq_nil_iff.mp hbehind.symm).2
    -- The whole would start with a name.
    | .atom, .cons field children .nil, hfront =>
      obtain ⟨b, hhead, hb⟩ := head_of_tree hfront
      obtain ⟨_, ⟨_, hopen, -⟩, -⟩ := h
      have hbrace := (token_iff (by decide)).mp hopen
      obtain ⟨tail, hsignificant⟩ := List.head?_eq_some_iff.mp hhead
      have htail : front.dropWhile isBlankByte = b :: tail := hsignificant
      rw [significant, List.dropWhile_append, htail, if_neg (by simp)] at hbrace
      cases hbrace
      exact absurd hb (by decide)

/-- An expression in braces ends with its closing brace.  Whatever stands behind that brace, it
compiles to the same program, and cut off anywhere before, it has an error that reports the end and
names no byte. -/
theorem compile_self_delimiting {bytes : List UInt8} {program : Program}
    (h : compile bytes = .ok program) (hshape : program.shape = .object) :
    ∃ expression more, bytes = expression ++ more ∧ behindObject bytes = some more ∧
      (∀ other, compile (expression ++ other) = .ok program) ∧
      ∀ front, front <+: expression → front ≠ expression →
        ∃ e, compile front = .error e ∧ e.BeforeEnd front ∧ ∀ b, ¬e.Names b := by
  obtain ⟨shape, fields, more, rfl, hprogram⟩ := exists_program_of_compile h
  obtain rfl : shape = .object := hshape
  obtain ⟨expression, hbytes, hwhole⟩ := Grammar.program_cut hprogram
  have hcompile : ∀ other, compile (expression ++ other) = .ok (.ofFields .object fields) :=
    fun other => compile_of_program (Grammar.program_append hwhole other) fun h => nomatch h
  refine ⟨expression, more, hbytes, behindObject_of_program hprogram, hcompile, ?_⟩
  rintro front ⟨rest, rfl⟩ hne
  have hrest : rest ≠ [] := fun hnil => hne (by rw [hnil, List.append_nil])
  obtain ⟨e, herror⟩ := exists_error_of_cut hwhole hrest
  have hend : e.BeforeEnd front := by
    refine beforeEnd_of_not_isFound herror fun hfound => ?_
    -- An error about something found would be there in the whole expression, too.
    obtain ⟨e', herror'⟩ := exists_error_of_isFound herror hfound rest
    have hok := hcompile []
    rw [List.append_nil, herror'] at hok
    cases hok
  exact ⟨e, herror, hend, fun b hb => hb.not_reportsEnd hend.1⟩

/-- Two fields and a remark.  A brace in quotes closes nothing. -/
def remarked : List UInt8 := Utf8.encode "\x7ba[\x7bb`f(\"\x7d\")`\x7d]c\x7d // d"

theorem compile_self_delimiting_remarked :
    ∃ expression more, remarked = expression ++ more ∧ behindObject remarked = some more ∧
      (∀ other, compile (expression ++ other) = compile remarked) ∧
      ∀ front, front <+: expression → front ≠ expression →
        ∃ e, compile front = .error e ∧ e.BeforeEnd front ∧ ∀ b, ¬e.Names b := by
  have hcompile : compile remarked = .ok (.ofFields .object
      (.cons ⟨"a", .objects, []⟩ (.cons ⟨"b", .text, [⟨"f", ["\x7d"]⟩]⟩ .nil .nil)
        (.cons ⟨"c", .text, []⟩ .nil .nil))) := by cbv
  obtain ⟨expression, more, hbytes, hbehind, hother, hcut⟩ := compile_self_delimiting hcompile rfl
  exact ⟨expression, more, hbytes, hbehind, fun other => (hother other).trans hcompile.symm, hcut⟩

end DocQuery
