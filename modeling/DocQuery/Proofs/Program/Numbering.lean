import DocQuery.Proofs.Bounds.Arena

/-! What the list of a program shows.  The fields stand in it in the preorder of the declared trees,
so a walk from the root meets the numbers one after the other.  The links to parents and those to
children belong together, and along the latter the declared trees can be read back.  So a program is
its shape and the trees that were declared, and nothing else. -/

namespace DocQuery.Indexed

variable {program : Program}

/-- The trees of the fields at these places, read along the links to children. -/
def declared (nodes : List Node) : Nat → List Nat → Option (Forest Field)
  | 0, _ => none
  | steps + 1, ids => ids.foldr (fun id rest => do
      let node ← nodes[id]?
      let children ← declared nodes steps node.children
      return .cons node.field children (← rest)) (some .nil)

/-- The trees below the first field, read along the links to children. -/
def readBack (nodes : List Node) : Option (Forest Field) := do
  let root ← nodes[0]?
  declared nodes nodes.length root.children

/-- Every field but the first hangs below one of smaller number, which lists it once.  The children
of a field stand in order, and they are those that hang below it. -/
structure Linked (nodes : List Node) : Prop where
  top {node : Node} : nodes[0]? = some node → node.parent = none
  below {id : Nat} {node : Node} : nodes[id]? = some node → id ≠ 0 →
    ∃ p above, node.parent = some p ∧ p < id ∧ nodes[p]? = some above ∧ above.children.count id = 1
  increasing {p : Nat} {above : Node} : nodes[p]? = some above → above.children.Pairwise (· < ·)
  mem_children {p : Nat} {above : Node} : nodes[p]? = some above → ∀ id,
    id ∈ above.children ↔ ∃ node, nodes[id]? = some node ∧ node.parent = some p

/-! ### Links -/

theorem exists_id_of_getElem? {i : Nat} {node : Node} (h : (nodesOf program)[i]? = some node) :
    ∃ id : program.Id, id.val = i ∧ Node.ofSlot (program.tree.slot id) = node := by
  obtain ⟨hi, -⟩ := List.getElem?_eq_some_iff.mp h
  have hlt : i < program.tree.below.size + 1 := by simpa [nodesOf] using hi
  refine ⟨⟨i, hlt⟩, rfl, Option.some.inj ?_⟩
  rw [← h]
  exact (getElem?_nodesOf ⟨i, hlt⟩).symm

theorem pairwise_children_ofSlot (id : program.Id) :
    (Node.ofSlot (program.tree.slot id)).children.Pairwise (· < ·) :=
  List.pairwise_map.mpr (Layout.pairwise_children id)

theorem mem_children_ofSlot {id c : program.Id} :
    c.val ∈ (Node.ofSlot (program.tree.slot id)).children ↔
      (program.tree.slot c).parent = some id := by
  rw [← Layout.mem_children_iff]
  exact List.mem_map_of_injective Fin.val_injective

theorem linked_nodesOf (program : Program) : Linked (nodesOf program) where
  top {node} h := by
    obtain ⟨id, hid, rfl⟩ := exists_id_of_getElem? h
    obtain rfl : id = program.root := Fin.ext hid
    exact congrArg (Option.map Fin.val) (Layout.parent_eq_none_iff.mpr rfl)
  below {i node} h hi := by
    obtain ⟨id, rfl, rfl⟩ := exists_id_of_getElem? h
    have hroot : (program.tree.slot id).parent ≠ none := fun hnone =>
      hi (congrArg Fin.val (Layout.parent_eq_none_iff.mp hnone))
    obtain ⟨q, hq⟩ := Option.ne_none_iff_exists'.mp hroot
    refine ⟨q.val, _, congrArg (Option.map Fin.val) hq, Layout.lt_of_parent hq,
      getElem?_nodesOf q, ?_⟩
    have hnodup : (Node.ofSlot (program.tree.slot q)).children.Nodup :=
      (pairwise_children_ofSlot q).imp Nat.ne_of_lt
    exact List.count_eq_one_of_mem hnodup (mem_children_ofSlot.mpr hq)
  increasing h := by
    obtain ⟨q, -, rfl⟩ := exists_id_of_getElem? h
    exact pairwise_children_ofSlot q
  mem_children h i := by
    obtain ⟨q, rfl, rfl⟩ := exists_id_of_getElem? h
    constructor
    · intro hi
      obtain ⟨c, hc, rfl⟩ := List.mem_map.mp hi
      exact ⟨_, getElem?_nodesOf c,
        congrArg (Option.map Fin.val) (Layout.mem_children_iff.mp hc)⟩
    · rintro ⟨node, hnode, hparent⟩
      obtain ⟨c, rfl, rfl⟩ := exists_id_of_getElem? hnode
      obtain ⟨q', hq', hval⟩ := Option.map_eq_some_iff.mp hparent
      obtain rfl : q' = q := Fin.ext hval
      exact mem_children_ofSlot.mpr hq'

/-! ### Preorder -/

theorem map_val_subtree {layout : Layout α} (id : layout.Id) :
    (layout.subtree id).map Fin.val = List.range' id.val (layout.slot id).extent := by
  have hall : ∀ i ∈ List.range' id.val (layout.slot id).extent,
      (if h : i < layout.size then some (⟨i, h⟩ : layout.Id) else none).map Fin.val = some i := by
    intro i hi
    have hlt := Nat.lt_of_lt_of_le (List.mem_range'_1.mp hi).2 (Layout.stop_le_size id)
    rw [dif_pos hlt, Option.map_some]
  rw [Layout.subtree, List.map_filterMap, List.filterMap_congr hall, List.filterMap_some]

theorem map_val_preorder (program : Program) :
    program.preorder.map Fin.val = List.range program.size := by
  have hroot : program.root.val + (program.tree.slot program.root).extent = program.size :=
    Layout.stop_rootId
  have hzero : program.root.val = 0 := rfl
  rw [hzero, Nat.zero_add] at hroot
  rw [Program.preorder, map_val_subtree, hroot, hzero, List.range_eq_range']

theorem traverse_root {steps : Nat} (h : program.size ≤ steps) :
    traverse (nodesOf program) steps 0 = some (List.range program.size) := by
  have hwalk : Program.subtreeWithin steps program.root = some program.preorder :=
    Program.subtreeWithin_eq (Nat.le_trans (Nat.sub_le _ _) h)
  have htraverse := traverse_eq_subtreeWithin steps program.root
  rw [hwalk, Option.map_some, map_val_preorder] at htraverse
  exact htraverse

/-! ### The declared trees -/

theorem declared_cons {nodes : List Node} {steps id : Nat} {ids : List Nat} {node : Node}
    {children rest : Forest Field} (hnode : nodes[id]? = some node)
    (hchildren : declared nodes steps node.children = some children)
    (hrest : declared nodes (steps + 1) ids = some rest) :
    declared nodes (steps + 1) (id :: ids) = some (.cons node.field children rest) := by
  rw [declared] at hrest
  rw [declared, List.foldr_cons, hrest, hnode]
  dsimp only [Option.bind_eq_bind, Option.bind_some]
  rw [hchildren]
  rfl

/-- Trees whose slots stand in a list from a number on are read back from there. -/
theorem declared_roots {n : Nat} {nodes : List Node} (parent : Option (Fin n))
    {fields : Forest Field} {start steps : Nat} {h : start + fields.size ≤ n}
    (hnodes : ∀ i (hi : i < (fields.slots parent start h).length),
      nodes[start + i]? = some (Node.ofSlot (fields.slots parent start h)[i]))
    (hsteps : fields.size ≤ steps) :
    declared nodes (steps + 1) ((fields.roots start h).map Fin.val) = some fields := by
  induction fields generalizing parent start steps with
  | nil => rfl
  | cons field children rest ihc ihr =>
    have hsize := Forest.size_cons field children rest
    have hinside : start + 1 + children.size ≤ n := by omega
    have hbehind : start + 1 + children.size + rest.size ≤ n := by omega
    obtain ⟨steps, rfl⟩ : ∃ k, steps = k + 1 := ⟨steps - 1, by omega⟩
    have hchildren : declared nodes (steps + 1)
        ((children.roots (start + 1) hinside).map Fin.val) = some children := by
      refine ihc (some ⟨start, by omega⟩) (fun i hi => ?_) (by omega)
      have hnode := hnodes (i + 1) (by simp at hi ⊢; omega)
      rwa [Forest.getElem_slots_children hi, Nat.add_comm i, ← Nat.add_assoc] at hnode
    have hrest : declared nodes (steps + 2)
        ((rest.roots (start + 1 + children.size) hbehind).map Fin.val) = some rest := by
      refine ihr parent (fun i hi => ?_) (by omega)
      have hnode := hnodes (children.size + i + 1) (by simp at hi ⊢; omega)
      rwa [Forest.getElem_slots_rest hi, Nat.add_comm _ 1, ← Nat.add_assoc, ← Nat.add_assoc]
        at hnode
    exact declared_cons (hnodes 0 (by simp)) hchildren hrest

theorem getElem?_nodesOf_zero (program : Program) :
    (nodesOf program)[0]? = some (Node.ofSlot (program.tree.slot program.root)) :=
  getElem?_nodesOf program.root

theorem readBack_nodesOf (program : Program) :
    readBack (nodesOf program) = some program.fields := by
  unfold readBack
  rw [length_nodesOf, getElem?_nodesOf_zero]
  have hsize : 1 + program.tree.below.size ≤ program.tree.size :=
    Nat.le_of_eq (Nat.add_comm 1 _)
  rw [Program.root, program.tree.slot_rootId rfl hsize]
  dsimp only [Option.bind_eq_bind, Option.bind_some, Node.ofSlot]
  refine declared_roots (some program.tree.rootId) (fun i hi => ?_) (Nat.le_refl _)
  have hlt := hi
  rw [Forest.length_slots] at hlt
  let id : program.Id := ⟨1 + i, Nat.lt_of_lt_of_le (Nat.add_lt_add_left hlt 1) hsize⟩
  have hindex : id.val - 1 = i := Nat.add_sub_cancel_left 1 i
  have hpos : 0 < id.val := Nat.lt_add_right i Nat.one_pos
  have hslot := program.tree.getElem?_slots rfl hsize hpos
  rw [hindex, List.getElem?_eq_getElem hi] at hslot
  rw [getElem?_nodesOf id, ← Option.some.inj hslot]

theorem arena_inj {fields fields' : Forest Field} :
    arena fields = arena fields' ↔ fields = fields' := by
  refine ⟨fun h => ?_, congrArg arena⟩
  rw [arena_eq .object, arena_eq .object, Option.some.injEq] at h
  have hread := readBack_nodesOf (.ofFields .object fields)
  rw [h, readBack_nodesOf] at hread
  exact (Option.some.inj hread).symm

theorem ofFields_inj {shape shape' : Shape} {fields fields' : Forest Field} :
    Program.ofFields shape fields = .ofFields shape' fields' ↔
      shape = shape' ∧ fields = fields' := by
  refine ⟨fun h => ⟨congrArg Program.shape h, congrArg Program.fields h⟩, ?_⟩
  rintro ⟨rfl, rfl⟩
  rfl

/-- Whatever trees are declared, they are put into a list in preorder, so that a walk from the root
visits every place once and in order.  The links in the list belong together, and the declared trees
can be read back along them.  So programs are equal exactly if their shapes and their declared trees
are, or else their shapes and their lists. -/
theorem arena_represents (shape : Shape) (fields : Forest Field) :
    ∃ nodes, arena fields = some nodes ∧ nodesOf (.ofFields shape fields) = nodes ∧
      nodes.length = (Program.ofFields shape fields).size ∧
      traverse nodes nodes.length 0 = some (List.range nodes.length) ∧
      (Program.ofFields shape fields).preorder.map Fin.val = List.range nodes.length ∧
      Linked nodes ∧
      (nodes[0]?).map Node.field = some Field.root ∧ readBack nodes = some fields ∧
      ∀ shape' fields',
        (Program.ofFields shape fields = .ofFields shape' fields' ↔
          shape = shape' ∧ fields = fields') ∧
        (Program.ofFields shape fields = .ofFields shape' fields' ↔
          shape = shape' ∧ arena fields = arena fields') := by
  let program := Program.ofFields shape fields
  have hlength : (nodesOf program).length = program.size := length_nodesOf program
  refine ⟨nodesOf program, arena_eq shape fields, rfl, hlength, ?_, ?_, linked_nodesOf program, ?_,
    readBack_nodesOf program, fun shape' fields' => ⟨ofFields_inj, ?_⟩⟩
  · rw [hlength]
    exact traverse_root (Nat.le_refl _)
  · rw [hlength]
    exact map_val_preorder program
  · rw [getElem?_nodesOf_zero]
    exact congrArg some (Layout.label_rootId program.tree)
  · rw [ofFields_inj, arena_inj]

end DocQuery.Indexed
