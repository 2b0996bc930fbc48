import DocQuery.Program
import DocQuery.Proofs.Value.Fields
import DocQuery.Selection.Basic

/-! Values that conform to their fields.  The type of a value is that of its field; an object, and
each object of a list, has the names of the children as its keys and under each key the value of the
last child of that name; an array is made of rows with one conforming value per child.  A complete
value has a row for each element of the selection that it is made of. -/

namespace DocQuery

/-- Fields as children of these names and values leave them: each name once, in the order of the
first child, with the value of the last child. -/
structure Keyed (names : List String) (values : List Value) (fields : List (String × Value)) :
    Prop where
  keys : fields.map (·.1) = names.eraseDups
  last : ∀ name, fields.lookup name = (names.zip values).reverse.lookup name

/-- Rows of one length stand one behind the other. -/
theorem getElem?_flatten_of_length {α : Type} {rows : List (List α)} {k : Nat}
    (h : ∀ row ∈ rows, row.length = k) {i j : Nat} (hj : j < k) :
    rows.flatten[i * k + j]? = rows[i]?.bind (·[j]?) := by
  induction rows generalizing i with
  | nil => simp
  | cons row rows ih =>
    have hrow : row.length = k := h row List.mem_cons_self
    rw [List.flatten_cons]
    cases i with
    | zero => rw [Nat.zero_mul, Nat.zero_add, List.getElem?_append_left (by omega)]; rfl
    | succ i =>
      have hindex : (i + 1) * k + j = row.length + (i * k + j) := by rw [hrow, Nat.succ_mul]; omega
      rw [hindex, List.getElem?_append_right (Nat.le_add_right _ _), Nat.add_sub_cancel_left,
        ih fun row hrow => h row (List.mem_cons_of_mem _ hrow)]
      rfl

theorem keyed_ofFields (row : List (String × Value)) :
    Keyed (row.map (·.1)) (row.map (·.2)) (Value.ofFields row) where
  keys := Value.keys_ofFields row
  last name := by
    rw [← List.zip_of_prod rfl rfl]
    exact Value.lookup_ofFields row name

namespace Program

variable (program : Program)

def childIds (id : program.Id) : List program.Id := (program.children id).map (·.val)

def childNames (id : program.Id) : List String :=
  (program.childIds id).map fun c => (program.field c).name

end Program

/-- A value is one that a field can produce.  An object without members is that of a field without a
selection. -/
inductive Conforms (program : Program) : program.Id → Value → Prop
  | text {id : program.Id} {s : String} :
    (program.field id).type = .text → Conforms program id (.text s)
  | number {id : program.Id} {x : Binary64} :
    (program.field id).type = .number → Conforms program id (.number x)
  | noMembers {id : program.Id} :
    (program.field id).type = .object → Conforms program id (.object [])
  | object {id : program.Id} {values : List Value} {fields : List (String × Value)} :
    (program.field id).type = .object →
    List.Forall₂ (Conforms program) (program.childIds id) values →
    Keyed (program.childNames id) values fields → Conforms program id (.object fields)
  | array {id : program.Id} {rows : List (List Value)} :
    (program.field id).type = .array →
    (∀ row ∈ rows, List.Forall₂ (Conforms program) (program.childIds id) row) →
    Conforms program id (.array rows.flatten)
  | objects {id : program.Id} {rows : List (List Value)}
      {objects : List (List (String × Value))} :
    (program.field id).type = .objects →
    (∀ row ∈ rows, List.Forall₂ (Conforms program) (program.childIds id) row) →
    List.Forall₂ (Keyed (program.childNames id)) rows objects →
    Conforms program id (.objects objects)

variable {program : Program} {id : program.Id}

theorem conforms_empty (id : program.Id) :
    Conforms program id (.empty (program.field id).type) := by
  cases htype : (program.field id).type with
  | text => exact .text htype
  | number => exact .number htype
  | object => exact .noMembers htype
  | array => exact @Conforms.array program id [] htype (by simp)
  | objects => exact .objects htype (by simp) .nil

theorem conforms_scalar {value : Value} (hscalar : (program.field id).type.isScalar)
    (htype : value.type = (program.field id).type) : Conforms program id value := by
  cases value with
  | text s => exact .text htype.symm
  | number x => exact .number htype.symm
  | _ => rw [← htype] at hscalar; cases hscalar

/-- A value is what a field makes of a selection: of every element, or of the selection as a whole
for an object, it holds one value for each child. -/
inductive Complete (program : Program) (id : program.Id) (s : Selection) : Value → Prop
  | scalar {value : Value} :
    (program.field id).type.isScalar → value.type = (program.field id).type →
    Complete program id s value
  | object {values : List Value} {fields : List (String × Value)} :
    (program.field id).type = .object →
    List.Forall₂ (Conforms program) (program.childIds id) values →
    Keyed (program.childNames id) values fields → Complete program id s (.object fields)
  | array {rows : List (List Value)} :
    (program.field id).type = .array → rows.length = s.size →
    (∀ row ∈ rows, List.Forall₂ (Conforms program) (program.childIds id) row) →
    Complete program id s (.array rows.flatten)
  | objects {rows : List (List Value)} {objects : List (List (String × Value))} :
    (program.field id).type = .objects →
    (program.childIds id ≠ [] → rows.length = s.size) →
    (∀ row ∈ rows, List.Forall₂ (Conforms program) (program.childIds id) row) →
    List.Forall₂ (Keyed (program.childNames id)) rows objects →
    Complete program id s (.objects objects)

namespace Complete

variable {s : Selection} {value : Value}

theorem conforms (h : Complete program id s value) : Conforms program id value := by
  cases h with
  | scalar hscalar htype => exact conforms_scalar hscalar htype
  | object htype hvalues hkeyed => exact .object htype hvalues hkeyed
  | array htype _ hrows => exact .array htype hrows
  | objects htype _ hrows hkeyed => exact .objects htype hrows hkeyed

/-- An array holds a value for each child in each element, element by element. -/
theorem items_of_type (h : Complete program id s value) (htype : (program.field id).type = .array) :
    ∃ items, value = .array items ∧ items.length = s.size * (program.childIds id).length ∧
      ∀ i j c, i < s.size → (program.childIds id)[j]? = some c →
        ∃ item, items[i * (program.childIds id).length + j]? = some item ∧
          Conforms program c item := by
  cases h with
  | scalar hscalar _ => rw [htype] at hscalar; cases hscalar
  | object htype' => rw [htype] at htype'; cases htype'
  | objects htype' => rw [htype] at htype'; cases htype'
  | @array rows _ hlength hrows =>
    have hwidth : ∀ row ∈ rows, row.length = (program.childIds id).length := fun row hrow =>
      (hrows row hrow).length_eq.symm
    refine ⟨rows.flatten, rfl, ?_, fun i j c hi hc => ?_⟩
    · rw [List.length_flatten, List.map_congr_left hwidth, List.map_const', List.sum_replicate,
        hlength, smul_eq_mul]
    · obtain ⟨hj, rfl⟩ := List.getElem?_eq_some_iff.mp hc
      have hrow : rows[i]? = some rows[i] := List.getElem?_eq_getElem (hlength ▸ hi)
      have hmem : rows[i] ∈ rows := List.getElem_mem _
      have hj' : j < rows[i].length := by rw [hwidth _ hmem]; exact hj
      rw [getElem?_flatten_of_length hwidth hj, hrow]
      exact ⟨rows[i][j], List.getElem?_eq_getElem hj', (hrows _ hmem).get hj hj'⟩

/-- A list of objects holds one for each element, unless there are no children. -/
theorem objects_of_type (h : Complete program id s value)
    (htype : (program.field id).type = .objects) :
    ∃ objects, value = .objects objects ∧
      (program.childIds id ≠ [] → objects.length = s.size) ∧
      ∀ fields ∈ objects, ∃ values, List.Forall₂ (Conforms program) (program.childIds id) values ∧
        Keyed (program.childNames id) values fields := by
  cases h with
  | scalar hscalar _ => rw [htype] at hscalar; cases hscalar
  | object htype' => rw [htype] at htype'; cases htype'
  | array htype' => rw [htype] at htype'; cases htype'
  | @objects rows objects _ hlength hrows hkeyed =>
    refine ⟨objects, rfl, fun hchildren => hkeyed.length_eq.symm.trans (hlength hchildren), ?_⟩
    intro fields hfields
    obtain ⟨i, hi, rfl⟩ := List.getElem_of_mem hfields
    have hi' : i < rows.length := hkeyed.length_eq ▸ hi
    exact ⟨rows[i], hrows _ (List.getElem_mem hi'), hkeyed.get hi' hi⟩

end Complete

theorem conforms_row {values : List Value} (h : List.Forall₂
    (fun (c : { c : program.Id // id < c }) value => Conforms program c.val value)
    (program.children id) values) :
    List.Forall₂ (Conforms program) (program.childIds id) values :=
  List.forall₂_map_left_iff.mpr h

/-- The name of a child with a value that conforms to it. -/
def IsMember (c : program.Id) (f : String × Value) : Prop :=
  f.1 = (program.field c).name ∧ Conforms program c f.2

/-- A row of values with the names of the children. -/
theorem keyed_row {row : List (String × Value)} (h : List.Forall₂
    (fun (c : { c : program.Id // id < c }) f => IsMember c.val f) (program.children id) row) :
    List.Forall₂ (Conforms program) (program.childIds id) (row.map (·.2)) ∧
      Keyed (program.childNames id) (row.map (·.2)) (Value.ofFields row) := by
  have hnames : row.map (·.1) = program.childNames id := by
    rw [Program.childNames, Program.childIds, List.map_map]
    generalize program.children id = children at h
    induction h with
    | nil => rfl
    | cons hf _ ih => exact congrArg₂ List.cons hf.1 ih
  refine ⟨conforms_row (List.forall₂_map_right_iff.mpr (h.imp fun _ _ hf => hf.2)), ?_⟩
  rw [← hnames]
  exact keyed_ofFields row

theorem complete_objects {s : Selection} {rows : List (List (String × Value))}
    (htype : (program.field id).type = .objects) (hlength : rows.length = s.size)
    (hrows : ∀ row ∈ rows, List.Forall₂
      (fun (c : { c : program.Id // id < c }) f => IsMember c.val f) (program.children id) row) :
    Complete program id s (.objects ((rows.filter (!·.isEmpty)).map Value.ofFields)) := by
  -- No row is left out unless there are no children.
  have hkeyed : ∀ row ∈ rows.filter (!·.isEmpty),
      List.Forall₂ (Conforms program) (program.childIds id) (row.map (·.2)) ∧
        Keyed (program.childNames id) (row.map (·.2)) (Value.ofFields row) := fun row hrow =>
    keyed_row (hrows row (List.mem_of_mem_filter hrow))
  have hcount : program.childIds id ≠ [] →
      ((rows.filter (!·.isEmpty)).map (List.map (·.2))).length = s.size := fun hchildren => by
    have hfilter : rows.filter (!·.isEmpty) = rows := List.filter_eq_self.mpr fun row hrow => by
      have hwidth := (hrows row hrow).length_eq
      cases row with
      | nil => exact absurd (List.map_eq_nil_iff.mpr (List.length_eq_zero_iff.mp hwidth)) hchildren
      | cons => rfl
    rw [List.length_map, hfilter, hlength]
  refine .objects htype hcount (fun row hrow => ?_) ?_
  · obtain ⟨row, hmem, rfl⟩ := List.mem_map.mp hrow
    exact (hkeyed row hmem).1
  · exact List.forall₂_map_left_iff.mpr <| List.forall₂_map_right_iff.mpr <|
      List.forall₂_same.mpr fun row hrow => (hkeyed row hrow).2

end DocQuery
