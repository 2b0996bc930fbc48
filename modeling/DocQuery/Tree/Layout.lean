import DocQuery.Tree.Forest
/-!
Numbering a tree in preorder.  A `Layout` gives every node of a tree its preorder number and a slot
with its label, its parent, its children and its subtree.  A parent has a smaller number
than its children, so walks towards the root and walks towards the leaves both end, and the
subtree of a node is an interval of numbers that starts with the node itself.
-/

namespace DocQuery

/-- What is kept for one node of a tree of `n` nodes. -/
structure Slot (α : Type) (n : Nat) where
  label : α
  parent : Option (Fin n)
  children : List (Fin n)
  /-- The trees below the node. -/
  below : Forest α
  /-- Number of nodes of the subtree, the node itself included. -/
  extent : Nat

namespace Forest

/-- Numbers of the top nodes of a forest whose first node has number `start`. -/
def roots {n : Nat} : (f : Forest α) → (start : Nat) → start + f.size ≤ n → List (Fin n)
  | nil, _, _ => []
  | cons _ children rest, start, h =>
    ⟨start, by simp at h; omega⟩ ::
      rest.roots (start + 1 + children.size) (by simp at h; omega)

/-- Slots of all nodes of a forest in preorder, the first having number `start`. -/
def slots {n : Nat} (parent : Option (Fin n)) :
    (f : Forest α) → (start : Nat) → start + f.size ≤ n → List (Slot α n)
  | nil, _, _ => []
  | cons label children rest, start, h =>
    { label, parent
      children := children.roots (start + 1) (by simp at h; omega)
      below := children
      extent := 1 + children.size } ::
    (children.slots (some ⟨start, by simp at h; omega⟩) (start + 1) (by simp at h; omega) ++
      rest.slots parent (start + 1 + children.size) (by simp at h; omega))

/-- Every node has one slot. -/
@[simp] theorem length_slots {n : Nat} (parent : Option (Fin n)) (f : Forest α) (start : Nat)
    (h : start + f.size ≤ n) : (f.slots parent start h).length = f.size := by
  induction f generalizing parent start with
  | nil => rfl
  | cons label children rest ihc ihr => simp [slots, ihc, ihr]; omega

/-- Top nodes are numbered from `start` on. -/
theorem le_of_mem_roots {n : Nat} {f : Forest α} {start : Nat} {h : start + f.size ≤ n}
    {c : Fin n} (hc : c ∈ f.roots start h) : start ≤ c.val := by
  induction f generalizing start with
  | nil => simp [roots] at hc
  | cons label children rest _ ihr =>
    simp only [roots, List.mem_cons] at hc
    rcases hc with rfl | hc
    · exact Nat.le_refl _
    · have := ihr hc; omega

/-- A node's parent has a smaller number, if the parent of the forest has. -/
theorem slots_parent_lt {n : Nat} {parent : Option (Fin n)} {f : Forest α} {start : Nat}
    {h : start + f.size ≤ n} (hp : ∀ q, parent = some q → q.val < start) {i : Nat}
    (hi : i < (f.slots parent start h).length) {q : Fin n}
    (hq : (f.slots parent start h)[i].parent = some q) : q.val < start + i := by
  induction f generalizing parent start i with
  | nil => simp [slots] at hi
  | cons label children rest ihc ihr =>
    cases i with
    | zero => exact hp q (by simpa [slots] using hq)
    | succ i =>
      simp only [slots, List.getElem_cons_succ, List.getElem_append, length_slots] at hq
      split at hq
      · have := ihc (by rintro q ⟨⟩; exact Nat.lt_succ_self _) _ hq; omega
      · rename_i hlt
        have := ihr (fun q hq => by have := hp q hq; omega)
          (by simp [slots] at hi ⊢; omega) hq
        omega

/-- A node's children have greater numbers. -/
theorem slots_lt_children {n : Nat} {parent : Option (Fin n)} {f : Forest α} {start : Nat}
    {h : start + f.size ≤ n} {i : Nat} (hi : i < (f.slots parent start h).length) {c : Fin n}
    (hc : c ∈ (f.slots parent start h)[i].children) : start + i < c.val := by
  induction f generalizing parent start i with
  | nil => simp [slots] at hi
  | cons label children rest ihc ihr =>
    cases i with
    | zero =>
      have := le_of_mem_roots (by simpa [slots] using hc); omega
    | succ i =>
      simp only [slots, List.getElem_cons_succ, List.getElem_append, length_slots] at hc
      split at hc
      · have := ihc _ hc; omega
      · have := ihr (by simp [slots] at hi ⊢; omega) hc
        omega

/-- A tree has one node more than the forest below its root. -/
theorem size_tree_le (root : α) (below : Forest α) :
    0 + (Forest.cons root below .nil).size ≤ below.size + 1 := by
  simp only [size_cons, size_nil]; omega

end Forest

/-- A tree with its nodes numbered in preorder; the root has number `0`. -/
structure Layout (α : Type) where
  root : α
  below : Forest α
  slots : Vector (Slot α (below.size + 1)) (below.size + 1)
  slots_eq : slots.toList =
    (Forest.cons root below .nil).slots none 0 (Forest.size_tree_le root below)

namespace Layout

/-- Numbers the nodes of the tree with the given root label and children. -/
def of (root : α) (below : Forest α) : Layout α where
  root
  below
  slots :=
    ⟨((Forest.cons root below .nil).slots none 0 (Forest.size_tree_le root below)).toArray,
      by simp only [List.size_toArray, Forest.length_slots, Forest.size_cons, Forest.size_nil]
         omega⟩
  slots_eq := rfl

variable (layout : Layout α)

/-- Number of nodes, the root included. -/
abbrev size : Nat := layout.below.size + 1

/-- Preorder number of a node. -/
abbrev Id : Type := Fin layout.size

/-- Number of the root. -/
def rootId : layout.Id := ⟨0, Nat.succ_pos _⟩

/-- The slot of a node. -/
def slot (id : layout.Id) : Slot α layout.size := layout.slots.get id

/-- Label of a node. -/
def label (id : layout.Id) : α := (layout.slot id).label

/-- The trees below a node. -/
def subforest (id : layout.Id) : Forest α := (layout.slot id).below

/-- There are as many slots as numbers. -/
theorem lt_length_slots (id : layout.Id) :
    id.val < ((Forest.cons layout.root layout.below .nil).slots none 0
      (Forest.size_tree_le _ _) : List (Slot α (layout.below.size + 1))).length := by
  have : id.val < layout.below.size + 1 := id.isLt
  simp only [Forest.length_slots, Forest.size_cons, Forest.size_nil]
  omega

/-- The slot of a node, read off the tree. -/
theorem slot_eq_getElem (id : layout.Id) :
    have := layout.lt_length_slots id
    layout.slot id = ((Forest.cons layout.root layout.below .nil).slots none 0
      (Forest.size_tree_le _ _))[id.val] := by
  simp only [← layout.slots_eq, Vector.getElem_toList]
  rfl

/-- Parent of a node; the root has none. -/
def parent (id : layout.Id) : Option { q : layout.Id // q < id } :=
  match h : (layout.slot id).parent with
  | none => none
  | some q => some ⟨q, by
      rw [slot_eq_getElem] at h
      have := Forest.slots_parent_lt (by simp) _ h
      exact Fin.lt_def.mpr (by omega)⟩

/-- Children of a node in order. -/
def children (id : layout.Id) : List { c : layout.Id // id < c } :=
  (layout.slot id).children.attachWith _ fun c hc => by
    rw [slot_eq_getElem] at hc
    have := Forest.slots_lt_children _ hc
    exact Fin.lt_def.mpr (by omega)

/-- Nodes of the subtree of a node in preorder, the node itself first. -/
def subtree (id : layout.Id) : List layout.Id :=
  (List.range' id.val (layout.slot id).extent).filterMap fun i =>
    if h : i < layout.size then some ⟨i, h⟩ else none

/-- Proper descendants of a node in preorder. -/
def descendants (id : layout.Id) : List layout.Id :=
  (layout.subtree id).tail

/-- Two layouts are equal as soon as they show the same tree. -/
theorem ext {a b : Layout α} (hr : a.root = b.root) (hb : a.below = b.below) : a = b := by
  obtain ⟨ra, ba, sa, ha⟩ := a
  obtain ⟨rb, bb, sb, hb'⟩ := b
  simp only at hr hb
  subst hr hb
  have : sa = sb := Vector.toList_inj.mp (ha.trans hb'.symm)
  subst this
  rfl

instance [DecidableEq α] : DecidableEq (Layout α) := fun a b =>
  if h : a.root = b.root ∧ a.below = b.below then .isTrue (ext h.1 h.2)
  else .isFalse fun hab => h (by subst hab; exact ⟨rfl, rfl⟩)

end Layout

end DocQuery
