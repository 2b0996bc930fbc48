import DocQuery.Proofs.Expression.Acceptance

/-! How long expressions are.  Every construct of the grammar has texts of so many bytes at least as
it declares fields, operations and arguments, so an expression that compiles is not shorter than what
it declares. -/

namespace DocQuery

namespace Expression

/-- Every text of the construct has so many bytes at least. -/
def Construct.Spans (L : Construct) (n : Nat) : Prop := ∀ ⦃s r⦄, L s r → r.length + n ≤ s.length

namespace Construct.Spans

variable {L M : Construct} {m n : Nat}

theorem mono (h : L.Spans n) (hle : m ≤ n) : L.Spans m := fun _ _ hs =>
  Nat.le_trans (Nat.add_le_add_left hle _) (h hs)

theorem empty : Construct.empty.Spans 0 := by
  rintro s _ rfl
  exact Nat.le_refl _

theorem append (hL : L.Spans n) (hM : M.Spans m) : (L ++ M).Spans (n + m) := by
  rintro s r ⟨t, hs, ht⟩
  have hL := hL hs
  have hM := hM ht
  omega

theorem optional (h : L.Spans n) : (Construct.optional L).Spans 0 := by
  rintro s r (rfl | hs)
  · exact Nat.le_refl _
  · exact (h.mono n.zero_le) hs

end Construct.Spans

theorem IsName.length_pos {name : String} (h : IsName name) : 0 < (Utf8.encode name).length :=
  List.length_pos_of_ne_nil (encode_ne_nil h.1)

namespace Grammar

theorem spans_token (bytes : List UInt8) : (token bytes).Spans bytes.length := by
  rintro s r ⟨blanks, _, rfl⟩
  simp only [List.length_append]
  omega

theorem spans_fieldName (name : String) : (fieldName name).Spans 1 :=
  fun _ _ ⟨hname, htoken, _⟩ => (spans_token _).mono hname.length_pos htoken

theorem spans_functionName (name : String) : (functionName name).Spans 1 :=
  fun _ _ ⟨hname, htoken, _⟩ => (spans_token _).mono hname.length_pos htoken

theorem spans_argument (arg : String) : (argument arg).Spans 1 := fun _ _ ⟨_, htoken⟩ =>
  (spans_token _).mono (by simp) htoken

theorem spans_arguments (args : List String) : (arguments args).Spans args.length := by
  induction args with
  | nil => exact .empty
  | cons arg args ih =>
    exact (((spans_argument arg).append (spans_token _).optional).append ih).mono
      (by simp [Nat.add_comm])

theorem spans_call (c : Call) : (call c).Spans (1 + c.args.length) :=
  ((((spans_functionName c.name).append (spans_token _)).append (spans_arguments c.args)).append
    (spans_token _)).mono (by simp; omega)

theorem spans_calls (calls : List Call) :
    Construct.Spans (Calls calls) (calls.length + (calls.flatMap (·.args)).length) := by
  intro s r h
  induction h with
  | nil => exact Nat.le_refl _
  | semicolon ht _ ih =>
    have ht := spans_token _ ht
    omega
  | cons hc _ ih =>
    have hc := spans_call _ hc
    simp only [List.flatMap_cons, List.length_append, List.length_cons]
    omega

theorem spans_pipeline (calls : List Call) :
    (pipeline calls).Spans (calls.length + (calls.flatMap (·.args)).length) := by
  rintro s r (⟨rfl, rfl⟩ | h)
  · exact Nat.le_refl _
  · exact ((((spans_token _).append (spans_calls calls)).append (spans_token _)).mono
      (by omega)) h

theorem spans_block {inside : Construct} {n : Nat} {children : Forest Field}
    (h : inside.Spans n) (hn : children = .nil → n = 0) (type : FieldType) :
    (block children inside type).Spans n := by
  cases type with
  | text =>
    rintro s r ⟨hnil, rfl⟩
    rw [hn hnil]
    exact Nat.le_refl _
  | number => exact fun _ _ => False.elim
  | object => exact (((spans_token _).append h).append (spans_token _)).mono (by omega)
  | array => exact (((spans_token _).append h).append (spans_token _)).mono (by omega)
  | objects =>
    exact (((((spans_token _).append (spans_token _)).append h).append (spans_token _)).append
      (spans_token _)).mono (by omega)

end Grammar

end Expression

open Expression Grammar

/-- The operations that fields declare. -/
def Forest.calls (fields : Forest Field) : List Call := fields.labels.flatMap (·.pipeline)

/-- Number of fields, of their operations and of the arguments of these. -/
def Forest.pieces (fields : Forest Field) : Nat :=
  fields.size + fields.calls.length + (fields.calls.flatMap (·.args)).length

theorem Forest.pieces_cons (field : Field) (children rest : Forest Field) :
    (Forest.cons field children rest).pieces =
      1 + (field.pipeline.length + (field.pipeline.flatMap (·.args)).length) + children.pieces +
        rest.pieces := by
  simp only [pieces, calls, labels, size_cons, List.flatMap_cons, List.flatMap_append,
    List.length_append]
  omega

namespace Expression.Grammar

theorem spans_tree {inside : Construct} {n : Nat} {field : Field} {children : Forest Field}
    (h : inside.Spans n) (hn : children = .nil → n = 0) :
    (tree field children inside).Spans
      (1 + (field.pipeline.length + (field.pipeline.flatMap (·.args)).length) + n) :=
  ((((spans_fieldName field.name).append (spans_pipeline field.pipeline)).append
    (spans_block h hn field.type)).append (spans_token _).optional).mono (by omega)

/-- A text of fields has a byte at least for each field, operation and argument. -/
theorem spans_fields (forest : Forest Field) : (fields forest).Spans forest.pieces := by
  induction forest with
  | nil => exact .empty
  | cons field children rest ihc ihr =>
    rw [Forest.pieces_cons]
    refine (spans_tree ihc ?_).append ihr
    rintro rfl
    rfl

theorem spans_program (shape : Shape) (forest : Forest Field) :
    (program shape forest).Spans forest.pieces := by
  match shape, forest with
  | .object, forest =>
    exact (((spans_token _).append (spans_fields forest)).append (spans_token _)).mono (by omega)
  | .atom, .nil => exact fun _ _ => False.elim
  | .atom, .cons _ _ (.cons _ _ _) => exact fun _ _ => False.elim
  | .atom, .cons field children .nil =>
    rw [Forest.pieces_cons]
    refine (spans_tree (spans_fields children) ?_).mono (Nat.le_refl _)
    rintro rfl
    rfl

end Expression.Grammar

/-- An expression that compiles has a byte at least for each field, operation and argument. -/
theorem pieces_le_of_compile {bytes : List UInt8} {program : Program}
    (h : compile bytes = .ok program) : program.fields.pieces ≤ bytes.length := by
  obtain ⟨expression, more, shape, fields, rfl, ⟨blanks, _, hprogram⟩, rfl⟩ :=
    sentence_of_compile h
  have hspan := spans_program shape fields hprogram
  rw [List.length_append]
  exact Nat.le_trans (Nat.le_add_left _ _) (Nat.le_trans hspan (Nat.le_add_right _ _))

end DocQuery
