import DocQuery.Proofs.Program.Walk

/-! Programs by number.  The fields of a program stand in a list, and a field knows its parent and its
children by their places in it.  A field is put at the end of the list before its children are, and is
looked up again to be given them.  The list that comes out has a place for every number in it, so the
walks along the links, to a field that a name means and to all fields below one, never leave it. -/

namespace DocQuery.Indexed

/-- A field in the list, with the places of its parent and its children. -/
structure Node where
  field : Field
  children : List Nat
  parent : Option Nat

/-- Changes the item at an index. -/
def update? (items : List α) (index : Nat) (change : α → α) : Option (List α) := do
  let item ← items[index]?
  return items.set index (change item)

theorem update?_append (front back : List α) (item : α) (change : α → α) :
    update? (front ++ item :: back) front.length change = some (front ++ change item :: back) := by
  unfold update?
  rw [List.getElem?_append_right (Nat.le_refl _), Nat.sub_self]
  simp

/-- Puts fields at the end of the list, and gives their places. -/
def derive (parent : Nat) : Forest Field → List Node → Option (List Nat × List Node)
  | .nil, nodes => some ([], nodes)
  | .cons field children rest, nodes => do
    let id := nodes.length
    let (childIds, nodes) ← derive id children (nodes ++ [⟨field, [], some parent⟩])
    let nodes ← update? nodes id fun node => { node with children := childIds }
    let (ids, nodes) ← derive parent rest nodes
    return (id :: ids, nodes)

def arena (fields : Forest Field) : Option (List Node) := do
  let (ids, nodes) ← derive 0 fields [⟨Field.root, [], none⟩]
  update? nodes 0 fun node => { node with children := ids }

section

variable (nodes : List Node)

/-- The first field of a name in a list, as far as a field. -/
def findBefore (id : Nat) (name : String) : List Nat → Option (Option Nat)
  | [] => some none
  | sibling :: siblings =>
    if sibling = id then some none
    else do
      let node ← nodes[sibling]?
      if node.field.name = name then return some sibling
      else findBefore id name siblings

def previousSibling (id : Nat) (name : String) : Option (Option Nat) := do
  let node ← nodes[id]?
  match node.parent with
  | none => return none
  | some parent =>
    let above ← nodes[parent]?
    findBefore nodes id name above.children

def lookup (name : String) : Nat → Nat → Option (Option Nat)
  | 0, _ => none
  | steps + 1, id => do
    match ← previousSibling nodes id name with
    | some found => return some found
    | none =>
      let node ← nodes[id]?
      match node.parent with
      | none => return none
      | some parent => lookup name steps parent

/-- A field and all those below it, in preorder. -/
def traverse : Nat → Nat → Option (List Nat)
  | 0, _ => none
  | steps + 1, id => do
    let node ← nodes[id]?
    let below ← node.children.mapM (traverse steps)
    return id :: below.flatten

end

/-! ### The list of a program -/

def Node.ofSlot {n : Nat} (slot : Slot Field n) : Node where
  field := slot.label
  children := slot.children.map Fin.val
  parent := slot.parent.map Fin.val

theorem derive_eq {n : Nat} (parent : Fin n) (fields : Forest Field) {nodes : List Node}
    {start : Nat} (hstart : nodes.length = start) (h : start + fields.size ≤ n) :
    derive parent.val fields nodes = some ((fields.roots start h).map Fin.val,
      nodes ++ (fields.slots (some parent) start h).map Node.ofSlot) := by
  induction fields generalizing parent nodes start with
  | nil =>
    rw [Forest.slots, List.map_nil, List.append_nil]
    rfl
  | cons field children rest ihc ihr =>
    have hsize := Forest.size_cons field children rest
    have hinside : start + 1 + children.size ≤ n := by omega
    have hbehind : start + 1 + children.size + rest.size ≤ n := by omega
    let id : Fin n := ⟨start, by omega⟩
    let inside := (children.slots (some id) (start + 1) hinside).map Node.ofSlot
    let childIds := (children.roots (start + 1) hinside).map Fin.val
    have hlength : inside.length = children.size := by simp [inside]
    have hchildren : derive start children (nodes ++ [⟨field, [], some parent.val⟩]) =
        some (childIds, nodes ++ ⟨field, [], some parent.val⟩ :: inside) := by
      have hderive := @ihc id (nodes ++ [⟨field, [], some parent.val⟩]) (start + 1)
        (by simp [hstart]) hinside
      rw [List.append_assoc] at hderive
      exact hderive
    have hupdate : update? (nodes ++ ⟨field, [], some parent.val⟩ :: inside) start
        (fun node => { node with children := childIds }) =
          some (nodes ++ ⟨field, childIds, some parent.val⟩ :: inside) := by
      subst hstart
      exact update?_append nodes inside _ _
    have hrest := @ihr parent (nodes ++ ⟨field, childIds, some parent.val⟩ :: inside)
      (start + 1 + children.size) (by simp [hstart, hlength]; omega) hbehind
    unfold derive
    dsimp only
    rw [hstart, hchildren]
    dsimp only [Option.bind_eq_bind, Option.bind_some]
    rw [hupdate]
    dsimp only [Option.bind_some]
    rw [hrest]
    simp [Forest.roots, Forest.slots, Node.ofSlot, inside, childIds, id]

def nodesOf (program : Program) : List Node := program.tree.slots.toList.map Node.ofSlot

theorem length_nodesOf (program : Program) : (nodesOf program).length = program.size := by
  simp [nodesOf]

/-- No place is missing when the list is built. -/
theorem arena_eq (shape : Shape) (fields : Forest Field) :
    arena fields = some (nodesOf (.ofFields shape fields)) := by
  have hsize : 1 + fields.size ≤ fields.size + 1 := by omega
  have hderive := @derive_eq (fields.size + 1) ⟨0, by omega⟩ fields [⟨Field.root, [], none⟩] 1 rfl
    hsize
  have hupdate := update?_append [] ((fields.slots (some ⟨0, by omega⟩) 1 hsize).map Node.ofSlot)
    ⟨Field.root, [], none⟩ fun node =>
      { node with children := (fields.roots 1 hsize).map Fin.val }
  have hslots : nodesOf (.ofFields shape fields) =
      ⟨Field.root, (fields.roots 1 hsize).map Fin.val, none⟩ ::
        (fields.slots (some ⟨0, by omega⟩) 1 hsize).map Node.ofSlot := by
    unfold nodesOf
    rw [Layout.slots_eq]
    exact congrArg (fun slots : List (Slot Field (fields.size + 1)) =>
      Node.mk Field.root ((fields.roots 1 hsize).map Fin.val) none :: slots.map Node.ofSlot)
      (List.append_nil _)
  unfold arena
  dsimp only at hderive
  rw [hderive, hslots]
  exact hupdate

/-! ### Walks in the list of a program -/

variable {program : Program}

theorem getElem?_nodesOf (id : program.Id) :
    (nodesOf program)[id.val]? = some (Node.ofSlot (program.tree.slot id)) := by
  have hlt : id.val < program.tree.below.size + 1 := id.isLt
  have hid : id.val < program.tree.slots.toList.length := by simpa using hlt
  unfold nodesOf
  rw [List.getElem?_map, List.getElem?_eq_getElem hid, Vector.getElem_toList]
  rfl

theorem findBefore_eq (id : program.Id) (name : String) (siblings : List program.Id) :
    findBefore (nodesOf program) id.val name (siblings.map Fin.val) =
      some ((Program.findBefore id name siblings).map Fin.val) := by
  induction siblings with
  | nil => rfl
  | cons sibling siblings ih =>
    rw [List.map_cons, findBefore, Program.findBefore]
    by_cases hid : sibling = id
    · rw [if_pos hid, if_pos (congrArg Fin.val hid)]
      rfl
    rw [if_neg hid, if_neg (fun h => hid (Fin.val_injective h)), getElem?_nodesOf]
    dsimp only [Option.bind_eq_bind, Option.bind_some]
    by_cases hname : (program.field sibling).name = name
    · rw [if_pos (beq_iff_eq.mpr hname)]
      exact if_pos hname
    · rw [if_neg (mt beq_iff_eq.mp hname), ← ih]
      exact if_neg hname

theorem previousSibling_eq (id : program.Id) (name : String) :
    previousSibling (nodesOf program) id.val name =
      some ((Program.siblingBefore? id name).map Fin.val) := by
  unfold previousSibling Program.siblingBefore?
  rw [getElem?_nodesOf]
  dsimp only [Option.bind_eq_bind, Option.bind_some, Node.ofSlot]
  cases (program.tree.slot id).parent with
  | none => rfl
  | some parent =>
    dsimp only [Option.map_some]
    rw [getElem?_nodesOf]
    exact findBefore_eq id name (program.tree.slot parent).children

theorem lookup_eq_lookupWithin (name : String) (steps : Nat) (id : program.Id) :
    lookup (nodesOf program) name steps id.val =
      (Program.lookupWithin name steps id).map (Option.map Fin.val) := by
  induction steps generalizing id with
  | zero => rfl
  | succ steps ih =>
    rw [lookup, Program.lookupWithin, previousSibling_eq]
    dsimp only [Option.bind_eq_bind, Option.bind_some]
    cases Program.siblingBefore? id name with
    | some found => rfl
    | none =>
      dsimp only [Option.map_none]
      rw [getElem?_nodesOf]
      dsimp only [Option.bind_some, Node.ofSlot]
      cases (program.tree.slot id).parent with
      | none => rfl
      | some parent => exact ih parent

theorem mapM_map_val {steps : Nat} (ids : List program.Id) (h : ∀ id ∈ ids,
    traverse (nodesOf program) steps id.val =
      (Program.subtreeWithin steps id).map (List.map Fin.val)) :
    (ids.map Fin.val).mapM (traverse (nodesOf program) steps) =
      (ids.mapM (Program.subtreeWithin steps)).map (List.map (List.map Fin.val)) := by
  induction ids with
  | nil => rfl
  | cons id ids ih =>
    rw [List.forall_mem_cons] at h
    rw [List.map_cons, List.mapM_cons, List.mapM_cons, h.1, ih h.2]
    cases Program.subtreeWithin steps id with
    | none => rfl
    | some below => cases ids.mapM (Program.subtreeWithin steps) <;> rfl

theorem traverse_eq_subtreeWithin (steps : Nat) (id : program.Id) :
    traverse (nodesOf program) steps id.val =
      (Program.subtreeWithin steps id).map (List.map Fin.val) := by
  induction steps generalizing id with
  | zero => rfl
  | succ steps ih =>
    have hbelow := mapM_map_val (program.tree.slot id).children fun c _ => ih c
    rw [traverse, Program.subtreeWithin, getElem?_nodesOf]
    dsimp only [Option.bind_eq_bind, Option.bind_some, Node.ofSlot]
    rw [hbelow]
    cases (program.tree.slot id).children.mapM (Program.subtreeWithin steps) with
    | none => rfl
    | some below => simp

end DocQuery.Indexed
