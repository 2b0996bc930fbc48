import DocQuery.Proofs.Expression.Acceptance

/-! Writing an expression and compiling it again.  Fields are printable if their names are names of
the grammar, their arguments hold no quote and their scalars have no children.  Printable fields
are written as a text of the grammar, which declares them with every number as text; fields that
were compiled are printable and hold no number, so that nothing is lost. -/

namespace DocQuery

open Expression Grammar

/-- A call that an expression can write. -/
structure Call.Printable (call : Call) : Prop where
  name : IsName call.name
  args : ∀ arg ∈ call.args, quote ∉ Utf8.encode arg

/-- A field that an expression can write. -/
structure Field.Printable (field : Field) : Prop where
  name : IsName field.name
  pipeline : ∀ call ∈ field.pipeline, call.Printable

/-- Every field is printable, and those without brackets have no children. -/
def Forest.Printable : Forest Field → Prop
  | .nil => True
  | .cons field children rest =>
    field.Printable ∧ (field.type.isScalar → children = .nil) ∧ children.Printable ∧
      rest.Printable

/-- The type that an expression gives to a field written with a type. -/
def FieldType.declared : FieldType → FieldType
  | number => text
  | text => text
  | object => object
  | array => array
  | objects => objects

/-- The field as an expression declares it. -/
def Field.declared (field : Field) : Field := { field with type := field.type.declared }

namespace Expression

/-! Calls and pipelines. -/

theorem blanks_append {a b : List UInt8} (ha : Blanks a) (hb : Blanks b) : Blanks (a ++ b) := by
  intro c hc
  rcases List.mem_append.mp hc with hc | hc
  · exact ha c hc
  · exact hb c hc

/-- Bytes after blanks are a token. -/
theorem token_append_blanks {blanks : List UInt8} (h : Blanks blanks) (bytes r : List UInt8) :
    token bytes (blanks ++ (bytes ++ r)) r := ⟨blanks, h, rfl⟩

theorem argument_source {arg : String} (h : quote ∉ Utf8.encode arg) {blanks : List UInt8}
    (hblanks : Blanks blanks) (r : List UInt8) :
    argument arg (blanks ++ (Utf8.encode ("\"" ++ arg ++ "\"") ++ r)) r := by
  refine ⟨h, ?_⟩
  rw [Utf8.encode_append, Utf8.encode_append]
  exact token_append_blanks hblanks _ r

/-- The space after a comma belongs to the next argument. -/
theorem arguments_source {arg : String} {args : List String}
    (h : ∀ a ∈ arg :: args, quote ∉ Utf8.encode a) {blanks : List UInt8}
    (hblanks : Blanks blanks) (r : List UInt8) :
    arguments (arg :: args) (blanks ++
      (Utf8.encode (", ".intercalate ((arg :: args).map fun a => "\"" ++ a ++ "\"")) ++ r)) r := by
  rw [List.forall_mem_cons] at h
  induction args generalizing arg blanks with
  | nil =>
    rw [List.map_singleton, String.intercalate_singleton]
    exact ⟨r, ⟨r, argument_source h.1 hblanks r, .inl rfl⟩, rfl⟩
  | cons next args ih =>
    have hspace : Blanks [0x20] := by decide
    have hnext := ih (List.forall_mem_cons.mp h.2) hspace
    rw [List.map_cons, List.map_cons, String.intercalate_cons_cons, Utf8.encode_append,
      Utf8.encode_append, List.append_assoc, List.append_assoc]
    exact ⟨_, ⟨_, argument_source h.1 hblanks _, .inr ⟨[], by decide, rfl⟩⟩, hnext⟩

theorem call_source {c : Call} (h : c.Printable) {blanks : List UInt8} (hblanks : Blanks blanks)
    (r : List UInt8) : call c (blanks ++ (Utf8.encode c.source ++ r)) r := by
  have hnil : Blanks [] := by decide
  rw [Call.source, Utf8.encode_append, Utf8.encode_append, Utf8.encode_append, List.append_assoc,
    List.append_assoc, List.append_assoc]
  refine ⟨_, ⟨_, ⟨_, ⟨h.name, token_append_blanks hblanks _ _, ?_⟩,
    token_append_blanks hnil [openParen] _⟩, ?_⟩, token_append_blanks hnil [closeParen] r⟩
  · intro b hb
    cases hb
    decide
  · cases hargs : c.args with
    | nil => rfl
    | cons arg args => exact arguments_source (hargs ▸ h.args) hnil _

/-- The space after a semicolon belongs to the next call. -/
theorem calls_source {c : Call} {calls : List Call} (h : ∀ d ∈ c :: calls, d.Printable)
    {blanks : List UInt8} (hblanks : Blanks blanks) (r : List UInt8) :
    Calls (c :: calls)
      (blanks ++ (Utf8.encode ("; ".intercalate ((c :: calls).map Call.source)) ++ r)) r := by
  rw [List.forall_mem_cons] at h
  induction calls generalizing c blanks with
  | nil =>
    rw [List.map_singleton, String.intercalate_singleton]
    exact .cons (call_source h.1 hblanks r) .nil
  | cons next calls ih =>
    have hspace : Blanks [0x20] := by decide
    have hnext := ih (List.forall_mem_cons.mp h.2) hspace
    rw [List.map_cons, List.map_cons, String.intercalate_cons_cons, Utf8.encode_append,
      Utf8.encode_append, List.append_assoc, List.append_assoc]
    exact .cons (call_source h.1 hblanks _) (.semicolon ⟨[], by decide, rfl⟩ hnext)

/-- A field's name and pipeline, before a blank. -/
theorem field_source {field : Field} (h : field.Printable) {blanks : List UInt8}
    (hblanks : Blanks blanks) {b : UInt8} (hb : isBlankByte b) (r : List UInt8) :
    (fieldName field.name ++ pipeline field.pipeline)
      (blanks ++ (Utf8.encode field.source ++ b :: r)) (b :: r) := by
  rw [Field.source]
  cases hpipeline : field.pipeline with
  | nil =>
    refine ⟨_, ⟨h.name, token_append_blanks hblanks _ _, ?_⟩, .inl ⟨rfl, rfl⟩⟩
    intro b' hb'
    cases hb'
    exact .inl hb
  | cons c calls =>
    rw [if_neg (by simp), Utf8.encode_append, Utf8.encode_append, Utf8.encode_append,
      List.append_assoc, List.append_assoc, List.append_assoc]
    have hnil : Blanks [] := by decide
    have hcalls := calls_source (hpipeline ▸ h.pipeline) hnil (Utf8.encode "`" ++ b :: r)
    refine ⟨_, ⟨h.name, token_append_blanks hblanks _ _, ?_⟩,
      .inr ⟨_, ⟨_, ⟨[0x20], by decide, rfl⟩, hcalls⟩, ⟨[], hnil, rfl⟩⟩⟩
    intro b' hb'
    cases hb'
    exact .inl (by decide)

/-! Blocks and fields. -/

theorem block_source {type : FieldType} {opening closing : String}
    (h : type.brackets = some (opening, closing)) (children : Forest Field) {inside : Construct}
    {body blanks r : List UInt8} (hblanks : Blanks blanks)
    (hinside : inside body (blanks ++ (Utf8.encode closing ++ r))) :
    block children inside type.declared (0x20 :: (Utf8.encode opening ++ body)) r := by
  cases type with
  | text => cases h
  | number => cases h
  | object =>
    cases h
    exact ⟨_, ⟨_, ⟨[0x20], by decide, rfl⟩, hinside⟩, ⟨blanks, hblanks, rfl⟩⟩
  | array =>
    cases h
    exact ⟨_, ⟨_, ⟨[0x20], by decide, rfl⟩, hinside⟩, ⟨blanks, hblanks, rfl⟩⟩
  | objects =>
    cases h
    exact ⟨_, ⟨_, ⟨_, ⟨_, ⟨[0x20], by decide, rfl⟩, ⟨[], by decide, rfl⟩⟩, hinside⟩,
      ⟨blanks, hblanks, rfl⟩⟩, ⟨[], by decide, rfl⟩⟩

theorem blanks_indentation (depth : Nat) : Blanks (Utf8.encode (indentation depth)) := by
  intro b hb
  rw [indentation, Utf8.encode_ofList, List.mem_flatMap] at hb
  obtain ⟨c, hc, hb⟩ := hb
  rw [List.eq_of_mem_replicate hc] at hb
  have hspace : Blanks (String.utf8EncodeChar ' ') := by decide
  exact hspace b hb

/-- A field with its block, before what the block leaves. -/
theorem tree_source {field : Field} (h : field.Printable) {blanks : List UInt8}
    (hblanks : Blanks blanks) {children : Forest Field} {inside : Construct} {b : UInt8}
    (hb : isBlankByte b) {text r : List UInt8}
    (hblock : block children inside field.type.declared (b :: text) r) :
    tree field.declared children inside (blanks ++ (Utf8.encode field.source ++ b :: text)) r := by
  obtain ⟨s, hname, hpipeline⟩ := field_source h hblanks hb text
  exact ⟨r, ⟨_, ⟨s, hname, hpipeline⟩, hblock⟩, .inl rfl⟩

theorem block_scalar {type : FieldType} (h : type.brackets = none) (inside : Construct)
    (r : List UInt8) : block .nil inside type.declared r r := by
  cases type with
  | text => exact ⟨rfl, rfl⟩
  | number => exact ⟨rfl, rfl⟩
  | object => cases h
  | array => cases h
  | objects => cases h

theorem isScalar_iff {type : FieldType} : type.isScalar ↔ type.brackets = none := by
  cases type <;> decide

/-- Printable fields are written as a text that declares them.  The line feed behind a field belongs
to what follows, so that blanks are handed on from field to field. -/
theorem fields_source {forest : Forest Field} (h : forest.Printable) (depth : Nat)
    {blanks : List UInt8} (hblanks : Blanks blanks) (r : List UInt8) :
    ∃ more, Blanks more ∧ fields (forest.map Field.declared)
      (blanks ++ (Utf8.encode (fieldsSource depth forest) ++ r)) (more ++ r) := by
  induction forest generalizing depth blanks r with
  | nil => exact ⟨blanks, hblanks, rfl⟩
  | cons field children rest ihc ihr =>
    obtain ⟨hfield, hscalar, hchildren, hrest⟩ := h
    have hline : Blanks [0x0a] := by decide
    obtain ⟨more, hmore, hmorefields⟩ := ihr hrest depth hline r
    refine ⟨more, hmore, ?_⟩
    have hstart := blanks_append hblanks (blanks_indentation depth)
    rw [fieldsSource]
    cases hbrackets : field.type.brackets with
    | none =>
      obtain rfl := hscalar (isScalar_iff.mpr hbrackets)
      have hblock := block_scalar hbrackets (fields .nil)
        ([0x0a] ++ (Utf8.encode (fieldsSource depth rest) ++ r))
      refine ⟨_, ?_, hmorefields⟩
      have htree := tree_source hfield hstart (by decide) hblock
      simp only [Utf8.encode_append, List.append_assoc] at htree ⊢
      exact htree
    | some brackets =>
      obtain ⟨opening, closing⟩ := brackets
      obtain ⟨inner, hinner, hinside⟩ := ihc hchildren (depth + 1) hline
        (Utf8.encode (indentation depth) ++ (Utf8.encode closing ++
          ([0x0a] ++ (Utf8.encode (fieldsSource depth rest) ++ r))))
      rw [← List.append_assoc inner] at hinside
      have hblock := block_source hbrackets (children.map Field.declared)
        (blanks_append hinner (blanks_indentation depth)) hinside
      refine ⟨_, ?_, hmorefields⟩
      have htree := tree_source hfield hstart (by decide) hblock
      simp only [Utf8.encode_append, List.append_assoc] at htree ⊢
      exact htree

/-- Printable fields, one of them where there is no block, are written as an expression that
declares them. -/
theorem sentence_source {shape : Shape} {forest : Forest Field} (h : forest.Printable)
    (hatom : shape = .atom → forest.width = 1) :
    Sentence shape (forest.map Field.declared) (Utf8.encode (shape.source forest)) := by
  have hnil : Blanks [] := by decide
  cases shape with
  | object =>
    have hline : Blanks [0x0a] := by decide
    obtain ⟨more, hmore, hfields⟩ := fields_source h 1 hline (Utf8.encode "\x7d")
    refine ⟨[], hnil, more ++ [closeBrace], ⟨_, ⟨[], hnil, ?_⟩, hfields⟩, ⟨more, hmore, rfl⟩⟩
    rw [Shape.source, Utf8.encode_append, Utf8.encode_append, List.append_assoc]
    rfl
  | atom =>
    cases forest with
    | nil => cases hatom rfl
    | cons field children rest =>
      cases rest with
      | cons => cases hatom rfl
      | nil =>
        obtain ⟨more, hmore, m, htree, hm⟩ := fields_source h 0 hnil []
        cases hm
        rw [List.append_nil, List.append_nil] at htree
        exact ⟨more, hmore, htree⟩

/-! What an expression declares is printable. -/

theorem quote_not_mem_of_arguments {args : List String} {s r : List UInt8}
    (h : arguments args s r) : ∀ a ∈ args, quote ∉ Utf8.encode a := by
  induction args generalizing s with
  | nil => exact fun _ ha => nomatch ha
  | cons arg args ih =>
    obtain ⟨_, ⟨_, harg, _⟩, hargs⟩ := h
    exact List.forall_mem_cons.mpr ⟨harg.1, ih hargs⟩

theorem printable_of_calls {calls : List Call} {s r : List UInt8} (h : Calls calls s r) :
    ∀ c ∈ calls, c.Printable := by
  induction h with
  | nil => exact fun _ hc => nomatch hc
  | semicolon _ _ ih => exact ih
  | cons hcall _ ih =>
    obtain ⟨_, ⟨_, ⟨_, hname, _⟩, hargs⟩, _⟩ := hcall
    exact List.forall_mem_cons.mpr ⟨⟨hname.1, quote_not_mem_of_arguments hargs⟩, ih⟩

theorem printable_of_tree {field : Field} {children : Forest Field} {inside : Construct}
    {s r : List UInt8} (h : tree field children inside s r) : field.Printable := by
  obtain ⟨_, ⟨_, ⟨_, hname, hpipeline⟩, _⟩, _⟩ := h
  refine ⟨hname.1, ?_⟩
  rcases hpipeline with ⟨hcalls, _⟩ | ⟨_, ⟨_, _, hcalls⟩, _⟩
  · rw [hcalls]
    exact fun _ hc => nomatch hc
  · exact printable_of_calls hcalls

/-- A block gives its field a type that is not a number, and its children texts of their own. -/
theorem block_cases {children : Forest Field} {inside : Construct} {type : FieldType}
    {s r : List UInt8} (h : block children inside type s r) :
    type.declared = type ∧
      (children = .nil ∨ (¬type.isScalar ∧ ∃ s' r', inside s' r')) := by
  cases type with
  | text => exact ⟨rfl, .inl h.1⟩
  | number => exact h.elim
  | object =>
    obtain ⟨_, ⟨_, _, hinside⟩, _⟩ := h
    exact ⟨rfl, .inr ⟨by decide, _, _, hinside⟩⟩
  | array =>
    obtain ⟨_, ⟨_, _, hinside⟩, _⟩ := h
    exact ⟨rfl, .inr ⟨by decide, _, _, hinside⟩⟩
  | objects =>
    obtain ⟨_, ⟨_, ⟨_, _, hinside⟩, _⟩, _⟩ := h
    exact ⟨rfl, .inr ⟨by decide, _, _, hinside⟩⟩

theorem printable_of_fields {forest : Forest Field} {s r : List UInt8} (h : fields forest s r) :
    forest.Printable ∧ forest.map Field.declared = forest := by
  induction forest generalizing s r with
  | nil => exact ⟨trivial, rfl⟩
  | cons field children rest ihc ihr =>
    obtain ⟨_, htree, hrest⟩ := h
    obtain ⟨hrest, hrestmap⟩ := ihr hrest
    have hfield := printable_of_tree htree
    obtain ⟨_, ⟨_, _, hblock⟩, _⟩ := htree
    obtain ⟨htype, hchildren⟩ := block_cases hblock
    have hdeclared : field.declared = field := by rw [Field.declared, htype]
    rcases hchildren with rfl | ⟨hscalar, _, _, hinside⟩
    · refine ⟨⟨hfield, fun _ => rfl, trivial, hrest⟩, ?_⟩
      rw [Forest.map, hdeclared, hrestmap]
      rfl
    · obtain ⟨hchildren, hchildrenmap⟩ := ihc hinside
      refine ⟨⟨hfield, fun h => absurd h hscalar, hchildren, hrest⟩, ?_⟩
      rw [Forest.map, hdeclared, hchildrenmap, hrestmap]

theorem printable_of_sentence {shape : Shape} {forest : Forest Field} {bytes : List UInt8}
    (h : Sentence shape forest bytes) :
    forest.Printable ∧ forest.map Field.declared = forest ∧
      (shape = .atom → forest.width = 1) := by
  obtain ⟨blanks, _, h⟩ := h
  match shape, forest, h with
  | .object, forest, ⟨_, ⟨_, _, hfields⟩, _⟩ =>
    obtain ⟨hprintable, hmap⟩ := printable_of_fields hfields
    exact ⟨hprintable, hmap, fun h => nomatch h⟩
  | .atom, .cons field children .nil, htree =>
    have hfields : fields (.cons field children .nil) bytes blanks := ⟨blanks, htree, rfl⟩
    obtain ⟨hprintable, hmap⟩ := printable_of_fields hfields
    exact ⟨hprintable, hmap, fun _ => rfl⟩

end Expression

/-- A compiled program is written as an expression that compiles to the same program. -/
theorem compile_source {bytes : List UInt8} {program : Program}
    (h : compile bytes = .ok program) : compile (Utf8.encode program.source) = .ok program := by
  obtain ⟨expression, _, shape, forest, _, hsentence, rfl⟩ := sentence_of_compile h
  obtain ⟨hprintable, hmap, hatom⟩ := printable_of_sentence hsentence
  have hsource := sentence_source hprintable hatom
  rw [hmap] at hsource
  exact compile_of_sentence hsource

/-- An expression in another layout than its normal one. -/
theorem compile_source_compact :
    compile (Utf8.encode "\x7ba `;f(\"`;\",)`[ \x7bb;\x7d]\x7d more") =
        .ok (.ofFields .object (.cons ⟨"a", .objects, [⟨"f", ["`;"]⟩]⟩
          (.cons ⟨"b", .text, []⟩ .nil .nil) .nil)) ∧
      compile (Utf8.encode (Program.ofFields .object (.cons ⟨"a", .objects, [⟨"f", ["`;"]⟩]⟩
          (.cons ⟨"b", .text, []⟩ .nil .nil) .nil)).source) =
        .ok (.ofFields .object (.cons ⟨"a", .objects, [⟨"f", ["`;"]⟩]⟩
          (.cons ⟨"b", .text, []⟩ .nil .nil) .nil)) := by
  have h : compile (Utf8.encode "\x7ba `;f(\"`;\",)`[ \x7bb;\x7d]\x7d more") =
      .ok (.ofFields .object (.cons ⟨"a", .objects, [⟨"f", ["`;"]⟩]⟩
        (.cons ⟨"b", .text, []⟩ .nil .nil) .nil)) := by cbv
  exact ⟨h, compile_source h⟩

end DocQuery
