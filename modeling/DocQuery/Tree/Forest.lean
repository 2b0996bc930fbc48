/-!
Ordered trees.  A `Forest` is an ordered list of labelled trees, given by the first tree's label,
its children and the trees after it.  The declared fields of a query and the nodes of a parsed
document are both forests.
-/

namespace DocQuery

/-- An ordered list of labelled trees. -/
inductive Forest (α : Type) where
  | nil
  | cons (label : α) (children rest : Forest α)
  deriving DecidableEq, Repr, Inhabited

namespace Forest

/-- Number of nodes. -/
def size : Forest α → Nat
  | nil => 0
  | cons _ children rest => 1 + children.size + rest.size

/-- The trees of the first forest, then those of the second. -/
def append : Forest α → Forest α → Forest α
  | nil, other => other
  | cons label children rest, other => cons label children (rest.append other)

instance : Append (Forest α) := ⟨append⟩

/-- Applies a function to every label. -/
def map (f : α → β) : Forest α → Forest β
  | nil => nil
  | cons label children rest => cons (f label) (children.map f) (rest.map f)

/-- Labels in preorder. -/
def labels : Forest α → List α
  | nil => []
  | cons label children rest => label :: (children.labels ++ rest.labels)

/-- Number of trees at the top. -/
def width : Forest α → Nat
  | nil => 0
  | cons _ _ rest => rest.width + 1

@[simp] theorem size_nil : (nil : Forest α).size = 0 := rfl

@[simp] theorem size_cons (label : α) (children rest : Forest α) :
    (cons label children rest).size = 1 + children.size + rest.size := rfl

/-- Relabelling keeps the shape. -/
@[simp] theorem size_map (f : α → β) (t : Forest α) : (t.map f).size = t.size := by
  induction t with
  | nil => rfl
  | cons label children rest ihc ihr => simp [map, ihc, ihr]

end Forest

/-- One labelled tree. -/
structure Tree (α : Type) where
  label : α
  children : Forest α
  deriving DecidableEq, Repr, Inhabited

/-- Puts a tree before the trees of a forest. -/
def Tree.consTo (tree : Tree α) (rest : Forest α) : Forest α :=
  .cons tree.label tree.children rest

end DocQuery
