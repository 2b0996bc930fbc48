import DocQuery.Expression.Parser
import DocQuery.Proofs.Expression.Grammar
import DocQuery.Proofs.Text.Utf8

/-! The readers of single bytes and of names.  A reader is judged by the value it returns and by
the bytes it leaves, so where its cursor came from plays no part.  Blanks before a token are
skipped, so a token is found at the first byte that is not blank. -/

namespace DocQuery.Expression

open Grammar

/-- The bytes from the first one on that is not blank. -/
abbrev significant (bytes : List UInt8) : List UInt8 := bytes.dropWhile isBlankByte

/-! Blanks and tokens. -/

theorem blanks_takeWhile (bytes : List UInt8) : Blanks (bytes.takeWhile isBlankByte) :=
  fun _ hb => List.all_eq_true.mp List.all_takeWhile _ hb

theorem significant_blanks_append {blanks bytes : List UInt8} (h : Blanks blanks) :
    significant (blanks ++ bytes) = significant bytes :=
  List.dropWhile_append_of_pos h

theorem significant_blanks {blanks : List UInt8} (h : Blanks blanks) : significant blanks = [] := by
  rw [← List.append_nil blanks, significant_blanks_append h]
  rfl

theorem significant_cons {b : UInt8} (hb : ¬isBlankByte b) (bytes : List UInt8) :
    significant (b :: bytes) = b :: bytes :=
  List.dropWhile_cons_of_neg hb

/-- A token that does not start with a blank follows the blanks. -/
theorem token_iff {b : UInt8} (hb : ¬isBlankByte b) {bytes s r : List UInt8} :
    token (b :: bytes) s r ↔ significant s = b :: (bytes ++ r) := by
  constructor
  · rintro ⟨blanks, hblanks, rfl⟩
    rw [significant_blanks_append hblanks, List.cons_append, significant_cons hb]
  · intro h
    refine ⟨s.takeWhile isBlankByte, blanks_takeWhile s, ?_⟩
    rw [List.cons_append, ← h, List.takeWhile_append_dropWhile]

/-! Names. -/

theorem not_blank_of_isNameByte : ∀ b, isNameByte b → ¬isBlankByte b := by decide +kernel

/-- A name byte is ASCII. -/
theorem utf8EncodeChar_of_isNameByte :
    ∀ b, isNameByte b → String.utf8EncodeChar (Char.ofNat b.toNat) = [b] := by decide +kernel

/-- A text is made of the characters of its bytes, if those are name bytes. -/
theorem encode_ofList_of_isNameByte {bytes : List UInt8} (h : ∀ b ∈ bytes, isNameByte b) :
    Utf8.encode (String.ofList (bytes.map fun b => Char.ofNat b.toNat)) = bytes := by
  rw [Utf8.encode_ofList]
  induction bytes with
  | nil => rfl
  | cons b bytes ih =>
    rw [List.forall_mem_cons] at h
    rw [List.map_cons, List.flatMap_cons, utf8EncodeChar_of_isNameByte b h.1, ih h.2]
    rfl

/-- The name taken off the bytes, as long as it can be. -/
theorem readName_spec (c : Cursor) :
    (∀ b ∈ Utf8.encode c.readName.1, isNameByte b) ∧
      c.rest = Utf8.encode c.readName.1 ++ c.readName.2.rest ∧
      ∀ b, c.readName.2.rest.head? = some b → ¬isNameByte b := by
  have hall : ∀ b ∈ c.rest.takeWhile isNameByte, isNameByte b :=
    fun b hb => List.all_eq_true.mp List.all_takeWhile b hb
  have hencode : Utf8.encode c.readName.1 = c.rest.takeWhile isNameByte :=
    encode_ofList_of_isNameByte hall
  refine ⟨by rwa [hencode], ?_, ?_⟩
  · rw [hencode]
    exact List.takeWhile_append_dropWhile.symm
  · intro b hb
    have := List.head?_dropWhile_not isNameByte c.rest
    rw [show c.rest.dropWhile isNameByte = c.readName.2.rest from rfl, hb] at this
    simpa using this

/-- A name is read if no name byte follows it. -/
theorem readName_eq {c : Cursor} {name : String} {r : List UInt8}
    (hc : c.rest = Utf8.encode name ++ r) (hname : ∀ b ∈ Utf8.encode name, isNameByte b)
    (hr : ∀ b, r.head? = some b → ¬isNameByte b) :
    c.readName.1 = name ∧ c.readName.2.rest = r := by
  have hr' : r.takeWhile isNameByte = [] ∧ r.dropWhile isNameByte = r := by
    cases r with
    | nil => exact ⟨rfl, rfl⟩
    | cons b r =>
      have hb := hr b rfl
      exact ⟨List.takeWhile_cons_of_neg hb, List.dropWhile_cons_of_neg hb⟩
  have htake : c.rest.takeWhile isNameByte = Utf8.encode name := by
    rw [hc, List.takeWhile_append_of_pos hname, hr'.1, List.append_nil]
  have hdrop : c.rest.dropWhile isNameByte = r := by
    rw [hc, List.dropWhile_append_of_pos hname, hr'.2]
  refine ⟨Utf8.eq_of_encode_eq ?_, hdrop⟩
  rw [← htake]
  refine encode_ofList_of_isNameByte ?_
  rwa [htake]

/-! Cursors. -/

/-- The next byte that is not blank is the first significant one. -/
theorem next?_eq_some_iff {c : Cursor} {b : UInt8} {r : List UInt8} :
    (∃ c', c.next? = some (b, c') ∧ c'.rest = r) ↔ significant c.rest = b :: r := by
  rw [Cursor.next?, show significant c.rest = c.skipBlanks.rest from rfl]
  generalize c.skipBlanks = d
  obtain ⟨before, _ | ⟨b', rest⟩⟩ := d
  · simp
  · simp only [Option.some.injEq, Prod.mk.injEq, List.cons.injEq]
    constructor
    · rintro ⟨c', ⟨rfl, rfl⟩, rfl⟩
      exact ⟨rfl, rfl⟩
    · rintro ⟨rfl, rfl⟩
      exact ⟨_, ⟨rfl, rfl⟩, rfl⟩

theorem significant_of_next? {c c' : Cursor} {b : UInt8} (h : c.next? = some (b, c')) :
    significant c.rest = b :: c'.rest :=
  next?_eq_some_iff.mp ⟨c', h, rfl⟩

theorem significant_of_next?_none {c : Cursor} (h : c.next? = none) : significant c.rest = [] := by
  cases hs : significant c.rest with
  | nil => rfl
  | cons b r =>
    obtain ⟨c', hnext, _⟩ := next?_eq_some_iff.mpr hs
    rw [h] at hnext
    cases hnext

/-! Results of readers. -/

/-- The reading succeeds with the value and leaves the bytes. -/
def Reads {P : α × Cursor → Prop} (reading : Reading { y // P y }) (a : α) (r : List UInt8) :
    Prop :=
  ∃ y, reading = .ok y ∧ y.val.1 = a ∧ y.val.2.rest = r

section

variable {P : α × Cursor → Prop} {Q : β × Cursor → Prop}

@[simp] theorem reads_ok {y : { y // P y }} {a : α} {r : List UInt8} :
    Reads (.ok y : Reading _) a r ↔ y.val.1 = a ∧ y.val.2.rest = r := by
  constructor
  · rintro ⟨_, ⟨⟩, h⟩
    exact h
  · intro h
    exact ⟨y, rfl, h⟩

@[simp] theorem not_reads_error {e : CompileError} {a : α} {r : List UInt8} :
    ¬Reads (.error e : Reading { y // P y }) a r := by
  rintro ⟨y, h, _⟩
  cases h

/-- A reading in two steps. -/
theorem reads_bind {reading : Reading { y // P y }} {next : { y // P y } → Reading { z // Q z }}
    {b : β} {r : List UInt8} :
    Reads (reading >>= next) b r ↔
      ∃ a c h, reading = .ok ⟨(a, c), h⟩ ∧ Reads (next ⟨(a, c), h⟩) b r := by
  constructor
  · intro hreads
    cases reading with
    | error e => exact absurd hreads not_reads_error
    | ok y =>
      obtain ⟨⟨a, c⟩, h⟩ := y
      exact ⟨a, c, h, rfl, hreads⟩
  · rintro ⟨a, c, h, rfl, hreads⟩
    exact hreads

end

/-! Single bytes. -/

theorem reads_expect (operation : String) {b : UInt8} (hb : ¬isBlankByte b) {c : Cursor}
    {r : List UInt8} : Reads (expect operation b c) () r ↔ token [b] c.rest r := by
  rw [token_iff hb, expect]
  split
  · rename_i b' c' h
    rw [significant_of_next? h]
    split
    · rename_i heq
      subst heq
      simp
    · rename_i hne
      simp [hne]
  · rename_i h
    rw [significant_of_next?_none h]
    simp

theorem token_of_take? {b : UInt8} (hb : ¬isBlankByte b) {c : Cursor}
    {y : { c' : Cursor // c'.rest.length < c.rest.length }} (h : take? b c = some y) :
    token [b] c.rest y.val.rest := by
  rw [token_iff hb]
  rw [take?] at h
  split at h
  · rename_i b' c' hnext
    split at h
    · rename_i heq
      subst heq
      cases h
      exact significant_of_next? hnext
    · cases h
  · cases h

theorem take?_of_token {b : UInt8} (hb : ¬isBlankByte b) {c : Cursor} {r : List UInt8}
    (h : token [b] c.rest r) : ∃ y, take? b c = some y ∧ y.val.rest = r := by
  rw [token_iff hb] at h
  rw [take?]
  split
  · rename_i b' c' hnext
    rw [significant_of_next? hnext] at h
    obtain ⟨rfl, hr⟩ := List.cons.inj h
    exact ⟨_, if_pos rfl, hr⟩
  · rename_i hnext
    rw [significant_of_next?_none hnext] at h
    cases h

theorem take?_eq_none {b : UInt8} (hb : ¬isBlankByte b) {c : Cursor}
    (h : (significant c.rest).head? ≠ some b) : take? b c = none := by
  cases htake : take? b c with
  | none => rfl
  | some y =>
    have := (token_iff hb).mp (token_of_take? hb htake)
    rw [this] at h
    exact absurd rfl h

/-- A byte that may be left out is skipped. -/
theorem optional_skipByte {b : UInt8} (hb : ¬isBlankByte b) (c : Cursor) :
    Construct.optional (token [b]) c.rest (skipByte b c).val.rest := by
  rw [skipByte]
  split
  · rename_i c' h htake
    exact .inr (token_of_take? hb htake)
  · exact .inl rfl

theorem skipByte_of_optional {b : UInt8} (hb : ¬isBlankByte b) {c : Cursor} {r : List UInt8}
    (h : Construct.optional (token [b]) c.rest r) (hr : (significant r).head? ≠ some b) :
    (skipByte b c).val.rest = r := by
  rw [skipByte]
  rcases h with rfl | h
  · rw [take?_eq_none hb hr]
  · obtain ⟨y, htake, rfl⟩ := take?_of_token hb h
    rw [htake]

/-! Names of fields. -/

theorem ends_name_iff {b : UInt8} :
    endsName b ↔ isBlankByte b ∨
      b ∈ [backtick, openBracket, openBrace, closeBracket, closeBrace, semicolon] := by
  simp [endsName, or_assoc]

theorem not_isNameByte_of_endsName : ∀ b, endsName b → ¬isNameByte b := by decide +kernel

theorem encode_ne_nil {name : String} (h : name ≠ "") : Utf8.encode name ≠ [] := by
  intro hnil
  exact h (Utf8.eq_of_encode_eq hnil)

/-- The bytes of a name start with a name byte. -/
theorem IsName.exists_cons {name : String} (h : IsName name) :
    ∃ b bytes, Utf8.encode name = b :: bytes ∧ isNameByte b := by
  obtain ⟨b, bytes, hencode⟩ := List.exists_cons_of_ne_nil (encode_ne_nil h.1)
  refine ⟨b, bytes, hencode, h.2 b ?_⟩
  rw [hencode]
  exact List.mem_cons_self

/-- A name follows the blanks. -/
theorem IsName.token_iff {name : String} (h : IsName name) {s r : List UInt8} :
    token (Utf8.encode name) s r ↔ significant s = Utf8.encode name ++ r := by
  obtain ⟨b, bytes, hencode, hb⟩ := h.exists_cons
  rw [hencode]
  exact Expression.token_iff (not_blank_of_isNameByte b hb)

/-- A name byte at the place starts a name. -/
theorem isName_readName {c : Cursor} {b : UInt8} (h : c.current? = some b) (hb : isNameByte b) :
    IsName c.readName.1 := by
  obtain ⟨hall, hrest, hstop⟩ := readName_spec c
  refine ⟨fun hname => ?_, hall⟩
  rw [hname] at hrest
  rw [Cursor.current?, hrest] at h
  exact hstop b h hb

theorem reads_readFieldName {c : Cursor} {name : String} {r : List UInt8} :
    Reads (readFieldName c) name r ↔ fieldName name c.rest r := by
  have hrest : significant c.rest = c.skipBlanks.rest := rfl
  rw [readFieldName]
  constructor
  · intro h
    split at h
    · exact absurd h not_reads_error
    split at h
    · rename_i b hcurrent hb
      dsimp only at h
      split at h
      · rename_i hends
        obtain ⟨rfl, rfl⟩ := reads_ok.mp h
        have hname := isName_readName hcurrent hb
        refine ⟨hname, ?_, ?_⟩
        · rw [hname.token_iff, hrest]
          exact (readName_spec _).2.1
        · intro b hb
          rw [← ends_name_iff]
          rw [Cursor.current?, hb] at hends
          exact hends
      · exact absurd h not_reads_error
    · exact absurd h not_reads_error
  · rintro ⟨hname, htoken, hends⟩
    rw [hname.token_iff, hrest] at htoken
    obtain ⟨b, bytes, hencode, hb⟩ := hname.exists_cons
    have hcurrent : c.skipBlanks.current? = some b := by
      rw [Cursor.current?, htoken, hencode]
      rfl
    obtain ⟨hread, hleft⟩ := readName_eq htoken hname.2
      fun b hr => not_isNameByte_of_endsName b (ends_name_iff.mpr (hends b hr))
    have hall : c.skipBlanks.readName.2.current?.all endsName := by
      rw [Cursor.current?, hleft, Option.all_eq_true]
      exact fun b hr => ends_name_iff.mpr (hends b hr)
    split
    · rename_i hnone
      rw [hcurrent] at hnone
      cases hnone
    · rename_i b' hsome
      rw [hcurrent] at hsome
      cases hsome
      rw [dif_pos hb]
      dsimp only
      rw [if_pos hall, reads_ok]
      exact ⟨hread, hleft⟩

end DocQuery.Expression
