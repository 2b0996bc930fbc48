import DocQuery.Proofs.Expression.RoundTrip

/-! Writing a program that was not compiled.  Its fields may have any names and arguments, numbers
among their types and children below scalars.  It is written as an expression for the same fields,
the numbers turned into text, exactly if an expression has a way to write it: names are words,
arguments hold no quote, scalars have no children, and a program without a block has one field. -/

namespace DocQuery

open Expression

/-- A name of ASCII letters, digits and underscores. -/
def IsWord (name : String) : Prop :=
  name ≠ "" ∧ ∀ c ∈ name.toList, c.isAlphanum ∨ c = '_'

/-- Every node satisfies `p` with its children. -/
def Forest.All (p : α → Forest α → Prop) : Forest α → Prop
  | .nil => True
  | .cons label children rest => p label children ∧ children.All p ∧ rest.All p

/-- A field that has a text, with its children. -/
structure Field.Writable (field : Field) (children : Forest Field) : Prop where
  name : IsWord field.name
  calls : ∀ call ∈ field.pipeline, IsWord call.name
  args : ∀ call ∈ field.pipeline, ∀ arg ∈ call.args, '"' ∉ arg.toList
  scalar : field.type.isScalar → children = .nil

theorem isNameByte_iff_of_lt : ∀ n < 0x80,
    isNameByte (UInt8.ofNat n) ↔ (Char.ofNat n).isAlphanum ∨ Char.ofNat n = '_' := by
  decide +kernel

theorem lt_of_isNameByte : ∀ b, isNameByte b → b.toNat < 0x80 := by decide +kernel

/-- The bytes of a character are name bytes if it is a letter, a digit or the underscore. -/
theorem forall_isNameByte_iff (c : Char) :
    (∀ b ∈ String.utf8EncodeChar c, isNameByte b) ↔ c.isAlphanum ∨ c = '_' := by
  rcases Nat.lt_or_ge c.toNat 0x80 with hc | hc
  · have hname := isNameByte_iff_of_lt c.toNat hc
    rw [Char.ofNat_toNat] at hname
    rw [Utf8.utf8EncodeChar_of_lt hc, List.forall_mem_singleton, hname]
  · constructor
    · intro h
      obtain ⟨b, bs, hbytes⟩ := List.exists_cons_of_ne_nil (String.utf8EncodeChar_ne_nil (c := c))
      have hmem : b ∈ String.utf8EncodeChar c := by rw [hbytes]; exact List.mem_cons_self
      have hlt := lt_of_isNameByte b (h b hmem)
      have hle := Utf8.le_of_mem_utf8EncodeChar hc b hmem
      omega
    · intro h
      have hlt : c.toNat < 0x80 := by
        rcases h with h | rfl
        · exact Utf8.toNat_lt_of_isAlphanum h
        · decide
      omega

theorem isName_iff_isWord {name : String} : IsName name ↔ IsWord name := by
  refine and_congr_right fun _ => ?_
  rw [Utf8.encode]
  simp only [List.forall_mem_flatMap, forall_isNameByte_iff]

theorem Forest.printable_iff_all {forest : Forest Field} :
    forest.Printable ↔ forest.All Field.Writable := by
  induction forest with
  | nil => exact Iff.rfl
  | cons field children rest ihc ihr =>
    rw [Forest.Printable, Forest.All, ihc, ihr]
    constructor
    · rintro ⟨hfield, hscalar, hchildren, hrest⟩
      refine ⟨⟨isName_iff_isWord.mp hfield.name, ?_, ?_, hscalar⟩, hchildren, hrest⟩
      · intro call hcall
        exact isName_iff_isWord.mp (hfield.pipeline call hcall).name
      · intro call hcall arg harg hquote
        exact (hfield.pipeline call hcall).args arg harg ((Utf8.mem_encode_iff (by decide)).mpr hquote)
    · rintro ⟨hfield, hchildren, hrest⟩
      refine ⟨⟨isName_iff_isWord.mpr hfield.name, ?_⟩, hfield.scalar, hchildren, hrest⟩
      intro call hcall
      refine ⟨isName_iff_isWord.mpr (hfield.calls call hcall), ?_⟩
      intro arg harg hquote
      exact hfield.args call hcall arg harg ((Utf8.mem_encode_iff (by decide)).mp hquote)

theorem FieldType.isScalar_declared (type : FieldType) : type.declared.isScalar = type.isScalar := by
  cases type <;> rfl

theorem Forest.map_eq_nil_iff {f : α → β} {forest : Forest α} :
    forest.map f = .nil ↔ forest = .nil := by
  cases forest <;> simp [map]

theorem Forest.width_map (f : α → β) (forest : Forest α) : (forest.map f).width = forest.width := by
  induction forest with
  | nil => rfl
  | cons label children rest _ ihr => rw [map, width, width, ihr]

/-- Whether a field has a text does not depend on which scalar it is. -/
theorem Forest.all_declared_iff {forest : Forest Field} :
    (forest.map Field.declared).All Field.Writable ↔ forest.All Field.Writable := by
  induction forest with
  | nil => exact Iff.rfl
  | cons field children rest ihc ihr =>
    rw [Forest.map, Forest.All, Forest.All, ihc, ihr]
    refine and_congr_left fun _ => ⟨fun h => ?_, fun h => ?_⟩
    · refine ⟨h.name, h.calls, h.args, fun hscalar => map_eq_nil_iff.mp (h.scalar ?_)⟩
      rw [Field.declared, FieldType.isScalar_declared]
      exact hscalar
    · refine ⟨h.name, h.calls, h.args, fun hscalar => map_eq_nil_iff.mpr (h.scalar ?_)⟩
      rw [Field.declared, FieldType.isScalar_declared] at hscalar
      exact hscalar

/-- A program is written as an expression that compiles to it again, every number turned into text,
exactly if its names are words, its arguments hold no quote, its scalars have no children and, where
there is no block, it has one field. -/
theorem compile_source_ofFields (shape : Shape) (fields : Forest Field) :
    compile (Utf8.encode (Program.ofFields shape fields).source) =
        .ok (.ofFields shape (fields.map Field.declared)) ↔
      fields.All Field.Writable ∧ (shape = .atom → fields.width = 1) := by
  constructor
  · intro h
    obtain ⟨expression, _, shape', fields', _, hsentence, hprogram⟩ := sentence_of_compile h
    obtain rfl : shape = shape' := congrArg Program.shape hprogram
    obtain rfl : fields.map Field.declared = fields' := congrArg Program.fields hprogram
    obtain ⟨hprintable, _, hwidth⟩ := printable_of_sentence hsentence
    rw [Forest.width_map] at hwidth
    exact ⟨Forest.all_declared_iff.mp (Forest.printable_iff_all.mp hprintable), hwidth⟩
  · rintro ⟨hall, hwidth⟩
    exact compile_of_sentence (sentence_source (Forest.printable_iff_all.mpr hall) hwidth)

end DocQuery
