import DocQuery.Proofs.Evaluation.Independence

/-! Fields inside one object.  Where the fields of a program are declared inside a single object that
makes no calls, every field stands one number further, and the top-level fields have the object as
their parent in place of the root.  The object has the selection of the root, and no name means the
object or anything around it, so the fields have the same values as before. -/

namespace DocQuery

/-- An object field that makes no calls. -/
def Field.block (name : String) : Field := { name, type := .object, pipeline := [] }

namespace Program

/-- The program that declares fields at the top. -/
def flat (fields : Forest Field) : Program := .ofFields .object fields

/-- The program that declares them inside one object. -/
def nested (name : String) (fields : Forest Field) : Program :=
  .ofFields .object (.cons (.block name) fields .nil)

section Shift

variable (name : String) (fields : Forest Field)

theorem size_nested : (nested name fields).tree.size = fields.size + 2 := by
  change (1 + fields.size + 0) + 1 = fields.size + 2
  omega

/-- Number of the object around the fields. -/
def wrapper : (nested name fields).Id := ⟨1, by rw [size_nested]; omega⟩

/-- The second field stands one number further than the first. -/
def Shifted (x : (flat fields).Id) (y : (nested name fields).Id) : Prop := y.val = x.val + 1

variable {name fields}

/-- All slots behind the root of the nested program. -/
theorem slots_nested (h : 2 + fields.size ≤ (nested name fields).tree.size)
    {y : (nested name fields).Id} (hy : 0 < y.val) :
    ({ label := .block name, parent := some (nested name fields).tree.rootId
       children := fields.roots 2 h, below := fields, extent := 1 + fields.size } ::
      fields.slots (some (wrapper name fields)) 2 h)[y.val - 1]? =
        some ((nested name fields).tree.slot y) := by
  have hsize : 1 + (Forest.cons (.block name) fields .nil).size ≤
      (nested name fields).tree.size := by
    rw [size_nested, Forest.size_cons, Forest.size_nil]
    omega
  have hslot := (nested name fields).tree.getElem?_slots
    (f := .cons (.block name) fields .nil) rfl hsize hy
  simp only [Forest.slots, List.append_nil] at hslot
  exact hslot

theorem slot_wrapper (h : 2 + fields.size ≤ (nested name fields).tree.size) :
    (nested name fields).tree.slot (wrapper name fields) =
      { label := .block name, parent := some (nested name fields).tree.rootId
        children := fields.roots 2 h, below := fields, extent := 1 + fields.size } := by
  have hslot := slots_nested h (y := wrapper name fields) Nat.zero_lt_one
  exact (Option.some.inj hslot).symm

theorem field_wrapper : (nested name fields).field (wrapper name fields) = .block name := by
  have h : 2 + fields.size ≤ (nested name fields).tree.size := by rw [size_nested]; omega
  rw [field, Layout.label, slot_wrapper h]

variable (name fields) in
theorem parent_wrapper : ∃ h, (nested name fields).parent (wrapper name fields) =
    some ⟨(nested name fields).root, h⟩ := by
  have h : 2 + fields.size ≤ (nested name fields).tree.size := by rw [size_nested]; omega
  have hslot : ((nested name fields).tree.slot (wrapper name fields)).parent =
      some (nested name fields).root := by
    rw [slot_wrapper h]
    rfl
  rw [← Layout.map_val_parent] at hslot
  obtain ⟨⟨q, hq⟩, hparent, rfl⟩ := Option.map_eq_some_iff.mp hslot
  exact ⟨hq, hparent⟩

theorem eq_root_of_shifted {x : (flat fields).Id} {y : (nested name fields).Id}
    (h : Shifted name fields x y) (hx : x.val = 0) :
    x = (flat fields).root ∧ y = wrapper name fields := by
  have hy : y.val = x.val + 1 := h
  refine ⟨Fin.ext hx, Fin.ext ?_⟩
  rw [hy, hx]
  rfl

/-- Slots of fields that correspond to each other. -/
theorem slots_shifted {x : (flat fields).Id} {y : (nested name fields).Id}
    (h : Shifted name fields x y) (hx : 0 < x.val) :
    Slot.Alike (Shifted name fields) (fun c d => 0 < c.val ∧ Shifted name fields c d)
      ((flat fields).tree.slot x) ((nested name fields).tree.slot y) := by
  have hy : y.val = x.val + 1 := h
  have hflat : 1 + fields.size ≤ (flat fields).tree.size := by
    change 1 + fields.size ≤ fields.size + 1
    omega
  have hnested : 2 + fields.size ≤ (nested name fields).tree.size := by rw [size_nested]; omega
  have hslot := (flat fields).tree.getElem?_slots (f := fields) rfl hflat hx
  have hslot' := slots_nested hnested (y := y) (by omega)
  have hindex : y.val - 1 = x.val - 1 + 1 := by omega
  rw [hindex, List.getElem?_cons_succ] at hslot'
  have hslots : List.Forall₂
      (Slot.Alike (Shifted name fields) fun c d => 0 < c.val ∧ Shifted name fields c d)
      (fields.slots (some (flat fields).tree.rootId) 1 hflat)
      (fields.slots (some (wrapper name fields)) 2 hnested) := by
    refine Forest.forall₂_slots rfl (fun _ _ => And.right) ?_
    intro z w hlow _ hshift
    have hval : w.val = z.val + 1 := by omega
    exact ⟨by omega, hval⟩
  exact Layout.forall₂_getElem? hslots hslot hslot'

/-- The children of fields that correspond to each other, among them the root and the object. -/
theorem children_shifted {x : (flat fields).Id} {y : (nested name fields).Id}
    (h : Shifted name fields x y) :
    List.Forall₂ (fun c d => 0 < c.val.val ∧ Shifted name fields c.val d.val)
      ((flat fields).children x) ((nested name fields).children y) := by
  rcases Nat.eq_zero_or_pos x.val with hx | hx
  · obtain ⟨rfl, rfl⟩ := eq_root_of_shifted h hx
    have hflat : 1 + fields.size ≤ (flat fields).tree.size := by
      change 1 + fields.size ≤ fields.size + 1
      omega
    have hnested : 2 + fields.size ≤ (nested name fields).tree.size := by rw [size_nested]; omega
    refine children_rel (R := fun c d => 0 < c.val ∧ Shifted name fields c d) ?_
    rw [slot_wrapper hnested, root, (flat fields).tree.slot_rootId rfl hflat]
    refine Forest.forall₂_roots fun z w hlow _ hshift => ?_
    have hval : w.val = z.val + 1 := by omega
    exact ⟨by omega, hval⟩
  · exact children_rel (slots_shifted h hx).children

theorem parent_shifted {x : (flat fields).Id} {y : (nested name fields).Id}
    (h : Shifted name fields x y) (hx : 0 < x.val) :
    ∃ p q, (flat fields).parent x = some p ∧ (nested name fields).parent y = some q ∧
      Shifted name fields p.val q.val :=
  parent_rel (slots_shifted h hx).parent

/-- No name means anything to the root. -/
theorem lookup_root (program : Program) (key : String) :
    program.lookup program.root key = none := by
  rw [lookup, earlierSiblings, parent_root]
  rfl

/-- Nor to the object, in front of which nothing stands. -/
theorem lookup_wrapper (key : String) :
    (nested name fields).lookup (wrapper name fields) key = none := by
  obtain ⟨_, hparent⟩ := parent_wrapper name fields
  have hsiblings : (nested name fields).earlierSiblings (wrapper name fields) = [] := by
    rw [earlierSiblings, hparent]
    refine List.filterMap_eq_nil_iff.mpr fun c _ => dif_neg fun hlt => ?_
    have hpos : 0 < c.val.val := c.property
    have hone : c.val.val < 1 := hlt
    omega
  rw [lookup, hsiblings, hparent, List.find?_nil]
  dsimp only
  rw [lookup_root]
  rfl

/-- A name means fields that correspond to each other, whatever the object is called. -/
theorem lookup_shifted (key : String) {x : (flat fields).Id} {y : (nested name fields).Id}
    (h : Shifted name fields x y) :
    Option.Rel (fun f g => 0 < f.val.val ∧ Shifted name fields f.val g.val)
      ((flat fields).lookup x key) ((nested name fields).lookup y key) := by
  refine lookup_rel_of_parent (T := Shifted name fields)
    (S := fun c d => 0 < c.val ∧ Shifted name fields c d) ?_ (fun _ _ => children_shifted) ?_ ?_ h
  · intro x y hxy
    rcases Nat.eq_zero_or_pos x.val with hx | hx
    · obtain ⟨rfl, rfl⟩ := eq_root_of_shifted hxy hx
      exact .inl ⟨lookup_root _ key, lookup_wrapper key⟩
    · obtain ⟨p, q, hp, hq, hpq⟩ := parent_shifted hxy hx
      rw [hp, hq]
      exact .inr (.some hpq)
  · intro c d x y hcd hxy
    have hd : d.val = c.val + 1 := hcd.2
    have hy : y.val = x.val + 1 := hxy
    simp only [Fin.lt_def]
    omega
  · intro x y hxy
    exact congrArg Field.name (slots_shifted hxy.2 hxy.1).label

/-- The fields are alike below the root of the one program and the object of the other. -/
theorem alike_nested : Alike (flat fields).root (wrapper name fields)
    fun x y => 0 < x.val ∧ Shifted name fields x y where
  field {x y} hxy := (slots_shifted hxy.2 hxy.1).label
  unique {x y z w} hxy hzw := by
    have hy : y.val = x.val + 1 := hxy.2
    have hw : w.val = z.val + 1 := hzw.2
    simp only [Fin.ext_iff]
    omega
  parent {x y} hxy := by
    obtain ⟨p, q, hp, hq, hpq⟩ := parent_shifted hxy.2 hxy.1
    refine ⟨p, q, hp, hq, ?_⟩
    rcases Nat.eq_zero_or_pos p.val.val with hzero | hpos
    · exact .inr (eq_root_of_shifted hpq hzero)
    · exact .inl ⟨hpos, hpq⟩
  children {x y} hxy := children_shifted hxy.2
  lookup {x y} hxy call _ key _ := lookup_shifted key hxy.2

end Shift

section Values

variable (name : String) (fields : Forest Field) (registry : Registry) (document : String)

theorem selection_root (program : Program) :
    Reference.selection registry (.start program document) program.root = some (.text document) :=
  Reference.selection_of_here (if_pos rfl)

/-- The object has the selection of the root. -/
theorem selection_wrapper :
    Reference.selection registry (.start (nested name fields) document) (wrapper name fields) =
      some (.text document) := by
  obtain ⟨hlt, hparent⟩ := parent_wrapper name fields
  have hhere : Context.start (nested name fields) document (wrapper name fields) = none :=
    if_neg hlt.ne'
  have hcalls : Reference.calls registry (.start (nested name fields) document)
      (wrapper name fields) = [] := by
    rw [Reference.calls, field_wrapper]
    rfl
  rw [Reference.selection_of_parent registry hhere hparent, selection_root, hcalls]
  rfl

theorem agree_nested : Agree registry (flat fields).root (wrapper name fields)
    (fun x y => 0 < x.val ∧ Shifted name fields x y) (.start (flat fields) document)
    (.start (nested name fields) document) where
  base := by rw [selection_root, selection_wrapper]
  fields {x y} hxy := by
    have hy : y.val = x.val + 1 := hxy.2
    have hx : x ≠ (flat fields).root := fun h => by
      rw [h] at hxy
      exact absurd hxy.1 (Nat.lt_irrefl 0)
    have hy' : y ≠ (nested name fields).root := fun h => by
      rw [h] at hy
      exact absurd hy (Nat.succ_ne_zero _).symm
    rw [Context.start, Context.start, if_neg hx, if_neg hy']

/-- The value of the object has the values of the top-level fields, under their names. -/
theorem value_wrapper :
    Reference.value registry (.start (nested name fields) document) (wrapper name fields) =
      .object (Value.ofFields ((flat fields).topValues registry document)) := by
  have hmembers : (flat fields).topValues registry document =
      ((nested name fields).children (wrapper name fields)).map fun c =>
        (((nested name fields).field c.val).name,
          Reference.value registry (.start (nested name fields) document) c.val) := by
    rw [topValues_eq, List.map_map, topLevel]
    refine map_eq_of_forall₂ (children_shifted rfl) fun c d hcd => ?_
    have hvalue := alike_nested.value_eq (agree_nested name fields registry document) hcd
    rw [Function.comp, entry, alike_nested.field hcd, hvalue]
  rw [Reference.value, field_wrapper, selection_wrapper, hmembers]
  rfl

theorem topLevel_nested : (nested name fields).topLevel.map (·.val) = [wrapper name fields] := by
  have hsize : 1 + (Forest.cons (.block name) fields .nil).size ≤
      (nested name fields).tree.size := by
    rw [size_nested, Forest.size_cons, Forest.size_nil]
    omega
  have hslot := (nested name fields).tree.slot_rootId
    (f := .cons (.block name) fields .nil) rfl hsize
  have hchildren := (nested name fields).tree.map_val_children (nested name fields).root
  rw [root, hslot] at hchildren
  exact hchildren

/-- An object without calls around all fields of a program changes nothing but the place of their
values.  The loop over the top-level fields of a run and the loop over the members of an object give
every field the same value, and the data of the run stands under the name of the object. -/
theorem run_nested :
    (nested name fields).topValues registry document =
        [(name, .object (Value.ofFields ((flat fields).topValues registry document)))] ∧
      (isVirtualName name = false →
        ((nested name fields).run registry document).data =
          .object [(name, ((flat fields).run registry document).data)]) := by
  have hvalues : (nested name fields).topValues registry document =
      [(name, .object (Value.ofFields ((flat fields).topValues registry document)))] := by
    rw [topValues_eq, topLevel_nested, List.map_singleton, entry, field_wrapper, value_wrapper]
    rfl
  refine ⟨hvalues, fun hname => ?_⟩
  rw [data_eq_topValues, data_eq_topValues, hvalues]
  change Json.ofMembers (Value.projectFields [(name, _)]) = _
  rw [Value.projectFields, hname, if_neg Bool.false_ne_true, Value.projectFields, Value.project]
  rfl

/-- The fields share a name, and one of them asks for the name of the object. -/
theorem run_nested_repeated :
    let fields : Forest Field := .cons ⟨"a", .text, [⟨"text", []⟩]⟩ .nil
      (.cons ⟨"b", .text, [⟨"link", ["o"]⟩]⟩ .nil (.cons ⟨"a", .number, [⟨"link", ["a"]⟩]⟩ .nil .nil))
    isVirtualName "o" = false ∧
      ((nested "o" fields).run .builtin "7").data =
        .object [("o", ((flat fields).run .builtin "7").data)] := by
  intro fields
  have hname : isVirtualName "o" = false := by decide
  exact ⟨hname, (run_nested "o" fields .builtin "7").2 hname⟩

end Values

end Program

end DocQuery
