import DocQuery.Program
import DocQuery.Proofs.Expression.Pipeline

/-! Where a compile error points.  A reader never leaves its expression: the bytes before its cursor
and those after it are together the same ones all the time.  An error that names a byte is made with
the cursor just behind that byte, one that reports the end is made where only blanks are left, and
one that reports an argument is made just behind its closing quote. -/

namespace DocQuery

namespace Expression

open Grammar

namespace Cursor

theorem bytes_skipWhile (c : Cursor) (p : UInt8 → Bool) : (c.skipWhile p).bytes = c.bytes := by
  simp only [bytes, skipWhile, List.reverse_append, List.reverse_reverse, List.append_assoc,
    List.takeWhile_append_dropWhile]

theorem bytes_toEnd (c : Cursor) : c.toEnd.bytes = c.bytes := by
  simp [bytes, toEnd]

theorem bytes_move {c : Cursor} {before rest : List UInt8} {b : UInt8}
    (h : c = ⟨before, b :: rest⟩) : (⟨b :: before, rest⟩ : Cursor).bytes = c.bytes := by
  subst h
  simp [bytes]

/-- A byte is taken from the same expression, and the cursor stands behind it. -/
theorem bytes_next? {c c' : Cursor} {b : UInt8} (h : c.next? = some (b, c')) :
    c'.bytes = c.bytes ∧ c'.before.head? = some b := by
  rw [next?] at h
  split at h
  · cases h
  · rename_i before b' rest hskip
    cases h
    refine ⟨?_, rfl⟩
    rw [bytes_move hskip, skipBlanks, bytes_skipWhile]

/-- So are the bytes before a delimiter, and the cursor stands behind the delimiter. -/
theorem bytes_readUntil? {c c' : Cursor} {d : UInt8} {part : List UInt8}
    (h : c.readUntil? d = some (part, c')) : c'.bytes = c.bytes ∧ c'.before.head? = some d := by
  have hhead := List.head?_dropWhile_not (· != d) c.rest
  rw [show c.rest.dropWhile (· != d) = (c.skipWhile (· != d)).rest from rfl] at hhead
  rw [readUntil?] at h
  split at h
  · cases h
  · rename_i before b rest hskip
    cases h
    rw [hskip] at hhead
    have hb : b = d := by simpa using hhead
    exact ⟨by rw [bytes_move hskip, bytes_skipWhile], congrArg some hb⟩

theorem bytes_seek (c : Cursor) (position : Nat) : (c.seek position).bytes = c.bytes := by
  rw [seek, bytes, List.reverse_reverse, List.take_append_drop]

/-- One position on, the byte at the place has been passed. -/
theorem before_seek_succ {c : Cursor} {b : UInt8} (h : c.current? = some b) :
    (c.seek (c.position + 1)).before.head? = some b := by
  obtain ⟨before, rest⟩ := c
  cases rest with
  | nil => cases h
  | cons b' rest =>
    cases h
    have hbytes : before.reverse ++ b :: rest = (before.reverse ++ [b]) ++ rest := by simp
    rw [seek, bytes, position, hbytes, List.take_left' (by simp), List.reverse_append]
    rfl

/-- The byte before a place. -/
theorem getElem?_before {c : Cursor} {b : UInt8} (h : c.before.head? = some b) :
    1 ≤ c.position ∧ c.bytes[c.position - 1]? = some b := by
  obtain ⟨before, rest⟩ := c
  cases before with
  | nil => cases h
  | cons b' before =>
    cases h
    simp [Cursor.position, Cursor.bytes]

/-- The bytes after a place. -/
theorem drop_bytes (c : Cursor) : c.bytes.drop c.position = c.rest := by
  rw [Cursor.bytes, Cursor.position, List.drop_left' (by simp)]

end Cursor

/-- Where no byte is left to take there are only blanks. -/
theorem blanks_of_next? {c : Cursor} (h : c.next? = none) : Blanks c.rest := by
  have hnil := significant_of_next?_none h
  intro b hb
  exact List.dropWhile_eq_nil_iff.mp hnil b hb

/-- The cursor stands behind an opening parenthesis and arguments. -/
def Opened (args : List String) (c : Cursor) : Prop :=
  ∃ front s, c.bytes = front ++ s ∧ (token [openParen] ++ arguments args) s c.rest

/-- The cursor stands behind an argument whose bytes are no text. -/
def BehindBroken (fault : Utf8.Fault) (c : Cursor) : Prop :=
  c.before.head? = some quote ∧ ∃ front s args raw, c.bytes = front ++ s ∧
    (token [openParen] ++ arguments args ++ token (quote :: (raw ++ [quote]))) s c.rest ∧
      quote ∉ raw ∧ Utf8.decode raw = .error fault

/-- What a cause says about the place. -/
def Fits (c : Cursor) : CompileCause → Prop
  | .mismatch _ (some b) | .unexpected (some b) => c.before.head? = some b
  | .mismatch _ none | .unexpected none => Blanks c.rest
  | .notUtf8 fault => BehindBroken fault c
  | .other _ => False

/-- The error was made at a place of the expression that its cause fits. -/
def PointsInto (bytes : List UInt8) (e : CompileError) : Prop :=
  ∃ c : Cursor, c.bytes = bytes ∧ e = c.error e.operation e.cause ∧ Fits c e.cause

/-- A reading goes on in the same expression, or its error points into it. -/
def Stays (bytes : List UInt8) {P : α × Cursor → Prop} : Reading { y // P y } → Prop
  | .ok y => y.val.2.bytes = bytes
  | .error e => PointsInto bytes e

theorem pointsInto_error {c : Cursor} {bytes : List UInt8} {cause : CompileCause}
    (hc : c.bytes = bytes) (operation : String) (h : Fits c cause) :
    PointsInto bytes (c.error operation cause) :=
  ⟨c, hc, rfl, h⟩

/-- A reading in two steps. -/
theorem Stays.bind {P : α × Cursor → Prop} {Q : β × Cursor → Prop} {bytes : List UInt8}
    {reading : Reading { y // P y }} {next : { y // P y } → Reading { z // Q z }}
    (h : Stays bytes reading) (hnext : ∀ y, reading = .ok y → y.val.2.bytes = bytes →
      Stays bytes (next y)) :
    Stays bytes (reading >>= next) := by
  cases reading with
  | error e => exact h
  | ok y => exact hnext y rfl h

/-! The readers, one after the other. -/

section

variable {bytes : List UInt8} {c : Cursor} (hc : c.bytes = bytes)
include hc

theorem stays_expect (operation : String) (b : UInt8) : Stays bytes (expect operation b c) := by
  rw [expect]
  split
  · rename_i b' c' hnext
    obtain ⟨hbytes, hbefore⟩ := Cursor.bytes_next? hnext
    split
    · exact hbytes.trans hc
    · exact pointsInto_error (hbytes.trans hc) operation hbefore
  · rename_i hnext
    exact pointsInto_error hc operation (blanks_of_next? hnext)

theorem bytes_take? {b : UInt8} {y : { c' : Cursor // c'.rest.length < c.rest.length }}
    (h : take? b c = some y) : y.val.bytes = bytes := by
  rw [take?] at h
  split at h
  · rename_i b' c' hnext
    split at h
    · cases h
      exact (Cursor.bytes_next? hnext).1.trans hc
    · cases h
  · cases h

theorem bytes_skipByte (b : UInt8) : (skipByte b c).val.bytes = bytes := by
  rw [skipByte]
  split
  · rename_i c' h htake
    exact bytes_take? hc htake
  · exact hc

theorem stays_readFieldName : Stays bytes (readFieldName c) := by
  have hskip : c.skipBlanks.bytes = bytes := (c.bytes_skipWhile isBlankByte).trans hc
  have hname : c.skipBlanks.readName.2.bytes = bytes :=
    (c.skipBlanks.bytes_skipWhile isNameByte).trans hskip
  rw [readFieldName]
  split
  · rename_i hcurrent
    have hnil : significant c.rest = [] := List.head?_eq_none_iff.mp hcurrent
    refine pointsInto_error hc "read_node" fun b hb => ?_
    exact List.dropWhile_eq_nil_iff.mp hnil b hb
  rename_i b hcurrent
  split
  · dsimp only
    split
    · exact hname
    · rename_i hends
      -- A byte that does not end a name is there, since the end of the expression would end it.
      cases hbyte : c.skipBlanks.readName.2.current? with
      | none => rw [hbyte] at hends; exact absurd rfl hends
      | some b' =>
        exact pointsInto_error ((Cursor.bytes_seek ..).trans hname) "read_node_name"
          (Cursor.before_seek_succ hbyte)
  · exact pointsInto_error ((Cursor.bytes_seek ..).trans hskip) "read_node"
      (Cursor.before_seek_succ hcurrent)

end

/-- Arguments with one more behind them. -/
theorem arguments_concat {args : List String} {arg : String} {s m r : List UInt8}
    (h : arguments args s m) (harg : (argument arg ++ Construct.optional (token [comma])) m r) :
    arguments (args ++ [arg]) s r := by
  induction args generalizing s with
  | nil =>
    cases h
    exact ⟨r, harg, rfl⟩
  | cons first args ih =>
    obtain ⟨k, hfirst, h⟩ := h
    exact ⟨k, hfirst, ih h⟩

/-- Where arguments are read, an opening parenthesis and the arguments before lie behind. -/
theorem stays_readArguments {bytes : List UInt8} {c : Cursor} (hc : c.bytes = bytes)
    {args : List String} (hopened : Opened args c) : Stays bytes (readArguments c) := by
  obtain ⟨n, hn⟩ : ∃ n, n = c.rest.length := ⟨_, rfl⟩
  induction n using Nat.strongRecOn generalizing c args with
  | ind n ih =>
  subst hn
  rw [readArguments]
  split
  · rename_i hnext
    exact pointsInto_error hc _ (blanks_of_next? hnext)
  rename_i b c1 hnext
  obtain ⟨hbytes1, hbefore⟩ := Cursor.bytes_next? hnext
  have hlt1 := Cursor.length_next?_lt hnext
  have hbyte := significant_of_next? hnext
  split
  · exact hbytes1.trans hc
  split
  · rename_i hquote
    subst hquote
    split
    · exact pointsInto_error ((Cursor.bytes_toEnd c1).trans (hbytes1.trans hc)) _
        fun b hb => by cases hb
    rename_i raw c2 huntil
    obtain ⟨hbytes2, hbefore2⟩ := Cursor.bytes_readUntil? huntil
    have hbytes2 : c2.bytes = bytes := hbytes2.trans (hbytes1.trans hc)
    have hlt2 := Cursor.length_readUntil?_lt huntil
    obtain ⟨hraw, hc1⟩ := readUntil?_eq_some_iff.mp ⟨c2, huntil, rfl⟩
    rw [hc1] at hbyte
    obtain ⟨front, s, hfront, m, hopen, hargs⟩ := hopened
    split
    · rename_i fault hdecode
      have htoken : token (quote :: (raw ++ [quote])) c.rest c2.rest := by
        rw [token_iff (by decide), List.append_assoc]
        exact hbyte
      exact pointsInto_error hbytes2 _ ⟨hbefore2, front, s, args, raw,
        hbytes2.trans (hc.symm.trans hfront), ⟨c.rest, ⟨m, hopen, hargs⟩, htoken⟩, hraw, hdecode⟩
    · rename_i arg hdecode
      rw [Utf8.decode_eq_ok_iff] at hdecode
      subst hdecode
      have hcomma := optional_skipByte (b := comma) (by decide) c2
      have hbytes3 := bytes_skipByte hbytes2 comma
      have hlt3 : (skipByte comma c2).val.rest.length < c.rest.length :=
        Nat.lt_of_le_of_lt (skipByte comma c2).property (Nat.lt_trans hlt2 hlt1)
      have hopened3 : Opened (args ++ [arg]) (skipByte comma c2).val :=
        ⟨front, s, hbytes3.trans (hc.symm.trans hfront), m, hopen,
          arguments_concat hargs ⟨c2.rest, argument_iff.mpr ⟨hraw, hbyte⟩, hcomma⟩⟩
      exact (ih _ hlt3 hbytes3 hopened3 rfl).bind fun y _ hy => hy
  · exact pointsInto_error (hbytes1.trans hc) _ hbefore

section

variable {bytes : List UInt8} {c : Cursor} (hc : c.bytes = bytes)
include hc

theorem stays_readCall : Stays bytes (readCall c) := by
  rw [readCall]
  split
  · rename_i hcurrent
    have hrest : c.rest = [] := List.head?_eq_none_iff.mp hcurrent
    exact pointsInto_error hc _ fun b hb => by rw [hrest] at hb; cases hb
  rename_i b hcurrent
  split
  · have hname : c.readName.2.bytes = bytes := (c.bytes_skipWhile isNameByte).trans hc
    refine (stays_expect hname _ _).bind fun y hexpect hc2 => ?_
    obtain ⟨⟨_, c2⟩, h2⟩ := y
    have hopen := (reads_expect "read_string_tuple" (by decide)).mp ⟨_, hexpect, rfl, rfl⟩
    have hopened : Opened [] c2 :=
      ⟨c.readName.2.before.reverse, _, hc2.trans hname.symm, _, hopen, rfl⟩
    exact (stays_readArguments hc2 hopened).bind fun y _ hy => hy
  · exact pointsInto_error ((Cursor.bytes_seek ..).trans hc) _ (Cursor.before_seek_succ hcurrent)

theorem stays_readCalls : Stays bytes (readCalls c) := by
  obtain ⟨n, hn⟩ : ∃ n, n = c.rest.length := ⟨_, rfl⟩
  induction n using Nat.strongRecOn generalizing c with
  | ind n ih =>
  subst hn
  rw [readCalls]
  split
  · rename_i hnext
    exact pointsInto_error hc _ (blanks_of_next? hnext)
  rename_i b c1 hnext
  obtain ⟨hbytes1, _⟩ := Cursor.bytes_next? hnext
  split
  · exact hbytes1.trans hc
  split
  · exact (ih _ (Cursor.length_next?_lt hnext) (hbytes1.trans hc) rfl).bind fun y _ hy => hy
  · have hskip : c.skipBlanks.bytes = bytes := (c.bytes_skipWhile isBlankByte).trans hc
    refine (stays_readCall hskip).bind fun y _ hc2 => ?_
    obtain ⟨⟨_, c2⟩, h2⟩ := y
    have hlt2 : c2.rest.length < c.rest.length := Nat.lt_of_lt_of_le h2 c.length_skipBlanks_le
    exact (ih _ hlt2 hc2 rfl).bind fun y _ hy => hy

theorem stays_readPipeline : Stays bytes (readPipeline c) := by
  rw [readPipeline]
  split
  · exact hc
  · rename_i c1 h1 htake
    exact (stays_readCalls (bytes_take? hc htake)).bind fun y _ hy => hy

end

/-- The readers of trees, blocks and lists of trees stay in their expression from every cursor with
fewer bytes left. -/
theorem stays_below (bytes : List UInt8) (n : Nat) : ∀ c : Cursor, c.bytes = bytes →
    c.rest.length = n → Stays bytes (readTree c) ∧ Stays bytes (readBlock c) ∧
      ∀ operation close, Stays bytes (readForest operation close c) := by
  induction n using Nat.strongRecOn with
  | ind n ih =>
  intro c hc hn
  subst hn
  have hforest : ∀ c' : Cursor, c'.bytes = bytes → c'.rest.length < c.rest.length →
      ∀ operation close, Stays bytes (readForest operation close c') := fun c' hc' hlt =>
    (ih _ hlt c' hc' rfl).2.2
  have hblock : Stays bytes (readBlock c) := by
    rw [readBlock]
    split
    · rename_i c1 h1 htake
      have hc1 := bytes_take? hc htake
      split
      · rename_i c2 h2 htake2
        have hc2 := bytes_take? hc1 htake2
        refine (hforest c2 hc2 (Nat.lt_trans h2 h1) _ _).bind fun y _ hc3 => ?_
        obtain ⟨⟨_, c3⟩, _⟩ := y
        exact (stays_expect hc3 _ _).bind fun y _ hy => hy
      · exact (hforest c1 hc1 h1 _ _).bind fun y _ hy => hy
    · split
      · rename_i c1 h1 htake
        exact (hforest c1 (bytes_take? hc htake) h1 _ _).bind fun y _ hy => hy
      · exact hc
  have htree : Stays bytes (readTree c) := by
    rw [readTree]
    refine (stays_readFieldName hc).bind fun y _ hc1 => ?_
    obtain ⟨⟨_, c1⟩, h1⟩ := y
    refine (stays_readPipeline hc1).bind fun y _ hc2 => ?_
    obtain ⟨⟨_, c2⟩, h2⟩ := y
    have hlt : c2.rest.length < c.rest.length := Nat.lt_of_le_of_lt h2 h1
    refine (ih _ hlt c2 hc2 rfl).2.1.bind fun y _ hc3 => ?_
    obtain ⟨⟨_, c3⟩, h3⟩ := y
    exact bytes_skipByte hc3 semicolon
  refine ⟨htree, hblock, fun operation close => ?_⟩
  rw [readForest]
  split
  · rename_i hnext
    exact pointsInto_error hc _ (blanks_of_next? hnext)
  rename_i b c1 hnext
  split
  · exact (Cursor.bytes_next? hnext).1.trans hc
  · refine htree.bind fun y _ hc2 => ?_
    obtain ⟨⟨_, c2⟩, h2⟩ := y
    exact (hforest c2 hc2 h2 _ _).bind fun y _ hy => hy

theorem stays_readTop {bytes : List UInt8} {c : Cursor} (hc : c.bytes = bytes) :
    Stays bytes (readTop c) := by
  rw [readTop]
  split
  · rw [readObject]
    refine Stays.bind ?_ fun y _ hy => hy
    refine (stays_expect hc _ _).bind fun y _ hc1 => ?_
    obtain ⟨⟨_, c1⟩, _⟩ := y
    exact ((stays_below bytes _ c1 hc1 rfl).2.2 _ _).bind fun y _ hy => hy
  · exact (stays_below bytes _ c hc rfl).1.bind fun y _ hy => hy

end Expression

open Expression Grammar

/-! What the text of a message tells. -/

namespace CompileError

/-- The message names a byte that was found. -/
def Names (e : CompileError) (b : UInt8) : Prop :=
  e.cause.message = (CompileCause.unexpected (some b)).message ∨
    ∃ expected, e.cause.message = (CompileCause.mismatch expected (some b)).message

/-- The message reports the end of the expression. -/
def ReportsEnd (e : CompileError) : Prop :=
  e.cause.message = (CompileCause.unexpected none).message ∨
    ∃ expected, e.cause.message = (CompileCause.mismatch expected none).message

/-- The message reports an argument that is no text. -/
def ReportsArgument (e : CompileError) (fault : Utf8.Fault) : Prop :=
  e.cause.message = (CompileCause.notUtf8 fault).message

/-- A byte is named, and the error stands just behind it. -/
def BehindByte (e : CompileError) (bytes : List UInt8) : Prop :=
  ∃ b, e.Names b ∧ 1 ≤ e.offset ∧ bytes[e.offset - 1]? = some b

/-- The end is reported, and only blanks are left. -/
def BeforeEnd (e : CompileError) (bytes : List UInt8) : Prop :=
  e.ReportsEnd ∧ Blanks (bytes.drop e.offset)

/-- An argument is reported, and the error stands just behind its closing quote: before it there are
an opening parenthesis, the arguments that are texts, and the one that is none. -/
def BehindArgument (e : CompileError) (bytes : List UInt8) : Prop :=
  ∃ fault front s args raw, e.ReportsArgument fault ∧ 1 ≤ e.offset ∧
    bytes[e.offset - 1]? = some quote ∧ bytes = front ++ s ∧
      (token [openParen] ++ arguments args ++ token (quote :: (raw ++ [quote]))) s
        (bytes.drop e.offset) ∧
      quote ∉ raw ∧ Utf8.decode raw = .error fault

variable {e : CompileError}

theorem Names.marks {b : UInt8} (h : e.Names b) :
    e.cause.message.toList[0]? = some 'u' ∧ e.cause.message.toList[11]? = some 'c' ∨
      e.cause.message.toList[0]? = some 'e' ∧ e.cause.message.toList[28]? = some '\x22' := by
  rcases h with h | ⟨expected, h⟩
  · have htext : (CompileCause.unexpected (some b)).message =
        "unexpected character \"" ++ showByte b ++ "\"" := rfl
    rw [h, htext]
    simp [String.toList_append]
  · have htext : (CompileCause.mismatch expected (some b)).message =
        "expected \"" ++ String.ofList [Char.ofNat expected.toNat] ++ "\" character, but \"" ++
          showByte b ++ "\" appears" := rfl
    rw [h, htext]
    simp [String.toList_append]

theorem ReportsEnd.marks (h : e.ReportsEnd) :
    e.cause.message.toList[0]? = some 'u' ∧ e.cause.message.toList[11]? = some 'e' ∨
      e.cause.message.toList[0]? = some 'e' ∧ e.cause.message.toList[28]? = some 't' := by
  rcases h with h | ⟨expected, h⟩
  · have htext : (CompileCause.unexpected none).message = "unexpected end of expression" := rfl
    rw [h, htext]
    simp
  · have htext : (CompileCause.mismatch expected none).message =
        "expected \"" ++ String.ofList [Char.ofNat expected.toNat] ++
          "\" character, but the expression ended" := rfl
    rw [h, htext]
    simp [String.toList_append]

theorem ReportsArgument.mark {fault : Utf8.Fault} (h : e.ReportsArgument fault) :
    e.cause.message.toList[0]? = some 'a' := by
  have htext : (CompileCause.notUtf8 fault).message =
      "argument is not UTF-8: " ++ fault.message := rfl
  rw [ReportsArgument.eq_def] at h
  rw [h, htext]
  simp [String.toList_append]

/-- No message both names a byte and reports the end. -/
theorem Names.not_reportsEnd {b : UInt8} (h : e.Names b) : ¬e.ReportsEnd := by
  intro hend
  rcases h.marks with ⟨h0, h1⟩ | ⟨h0, h1⟩ <;> rcases hend.marks with ⟨h0', h1'⟩ | ⟨h0', h1'⟩ <;>
    simp_all

/-- A message that reports an argument neither names a byte nor reports the end. -/
theorem ReportsArgument.not_other {fault : Utf8.Fault} (h : e.ReportsArgument fault) :
    (∀ b, ¬e.Names b) ∧ ¬e.ReportsEnd := by
  have hmark := h.mark
  constructor
  · intro b hb
    rcases hb.marks with ⟨h0, _⟩ | ⟨h0, _⟩ <;> simp_all
  · intro hend
    rcases hend.marks with ⟨h0, _⟩ | ⟨h0, _⟩ <;> simp_all

end CompileError

/-- An error that points into its expression is of one of three kinds. -/
theorem kinds_of_pointsInto {bytes : List UInt8} {e : CompileError} (h : PointsInto bytes e) :
    e.offset ≤ bytes.length ∧ (e.BehindByte bytes ∨ e.BeforeEnd bytes ∨ e.BehindArgument bytes) := by
  obtain ⟨c, rfl, herror, hfits⟩ := h
  have hoffset : e.offset = c.position := congrArg CompileError.offset herror
  have hlength : e.offset ≤ c.bytes.length := by
    rw [hoffset, Cursor.bytes, Cursor.position, List.length_append, List.length_reverse]
    omega
  have hdrop : c.bytes.drop e.offset = c.rest := by rw [hoffset, c.drop_bytes]
  have hbyte : ∀ b, c.before.head? = some b → 1 ≤ e.offset ∧ c.bytes[e.offset - 1]? = some b := by
    intro b hb
    rw [hoffset]
    exact Cursor.getElem?_before hb
  refine ⟨hlength, ?_⟩
  match hcause : e.cause, hfits with
  | .unexpected (some b), hfits =>
    exact .inl ⟨b, .inl (by rw [hcause]), hbyte b hfits⟩
  | .mismatch expected (some b), hfits =>
    exact .inl ⟨b, .inr ⟨expected, by rw [hcause]⟩, hbyte b hfits⟩
  | .unexpected none, hfits =>
    exact .inr (.inl ⟨.inl (by rw [hcause]), by rw [hdrop]; exact hfits⟩)
  | .mismatch expected none, hfits =>
    exact .inr (.inl ⟨.inr ⟨expected, by rw [hcause]⟩, by rw [hdrop]; exact hfits⟩)
  | .notUtf8 fault, hfits =>
    obtain ⟨hquote, front, s, args, raw, hfront, htoken, hraw, hdecode⟩ := hfits
    rw [← hdrop] at htoken
    exact .inr (.inr ⟨fault, front, s, args, raw, by rw [CompileError.ReportsArgument, hcause],
      (hbyte quote hquote).1, (hbyte quote hquote).2, hfront, htoken, hraw, hdecode⟩)

/-- A compile error lies in the expression, and its place is of the one kind that its message tells:
just behind the byte that the message names, before blanks and the end where it reports the end, or
just behind the closing quote of the argument that is no text. -/
theorem compile_error_located {bytes : List UInt8} {e : CompileError}
    (h : compile bytes = .error e) :
    e.offset ≤ bytes.length ∧
      (e.BehindByte bytes ∧ ¬e.BeforeEnd bytes ∧ ¬e.BehindArgument bytes ∨
        ¬e.BehindByte bytes ∧ e.BeforeEnd bytes ∧ ¬e.BehindArgument bytes ∨
        ¬e.BehindByte bytes ∧ ¬e.BeforeEnd bytes ∧ e.BehindArgument bytes) := by
  have hpoints : PointsInto bytes e := by
    have hstays : Stays bytes (readTop (.start bytes)) := stays_readTop rfl
    rw [compile] at h
    split at h
    · cases h
    · rename_i e' hread
      cases h
      rwa [hread] at hstays
  obtain ⟨hlength, hkinds⟩ := kinds_of_pointsInto hpoints
  refine ⟨hlength, ?_⟩
  rcases hkinds with hbyte | hend | hargument
  · obtain ⟨b, hnames, _⟩ := id hbyte
    refine .inl ⟨hbyte, fun h => hnames.not_reportsEnd h.1, ?_⟩
    rintro ⟨fault, _, _, _, _, hreports, _⟩
    exact hreports.not_other.1 b hnames
  · refine .inr (.inl ⟨?_, hend, ?_⟩)
    · rintro ⟨b, hnames, _⟩
      exact hnames.not_reportsEnd hend.1
    · rintro ⟨fault, _, _, _, _, hreports, _⟩
      exact hreports.not_other.2 hend.1
  · obtain ⟨fault, _, _, _, _, hreports, _⟩ := id hargument
    refine .inr (.inr ⟨?_, fun h => hreports.not_other.2 h.1, hargument⟩)
    rintro ⟨b, hnames, _⟩
    exact hreports.not_other.1 b hnames

/-- A call whose second argument is the byte `ff`. -/
def brokenCall : List UInt8 := Utf8.encode "a `f(\"x\", \"" ++ 0xff :: Utf8.encode "\")`"

/-- The error of the broken call, just behind the last quote. -/
def brokenError : CompileError where
  operation := "read_string_tuple"
  cause := .notUtf8 ⟨0, some 1⟩
  offset := 13
  column := 10
  parsing := "f(\"x\", \"\ufffd\")`"
  context := "a `f(\"x\", \"\ufffd\")`"

theorem compile_error_located_broken :
    compile brokenCall = .error brokenError ∧ brokenError.offset ≤ brokenCall.length ∧
      (brokenError.BehindByte brokenCall ∧ ¬brokenError.BeforeEnd brokenCall ∧
          ¬brokenError.BehindArgument brokenCall ∨
        ¬brokenError.BehindByte brokenCall ∧ brokenError.BeforeEnd brokenCall ∧
          ¬brokenError.BehindArgument brokenCall ∨
        ¬brokenError.BehindByte brokenCall ∧ ¬brokenError.BeforeEnd brokenCall ∧
          brokenError.BehindArgument brokenCall) := by
  have hcompile : compile brokenCall = .error brokenError := by cbv
  exact ⟨hcompile, compile_error_located hcompile⟩

end DocQuery
