import DocQuery.Expression.Parser
import DocQuery.Expression.Printer
import DocQuery.Tree.Layout
/-! Programs.  A program is a compiled expression: its declared fields under a root field, numbered
in preorder.  A name in an argument means the nearest field of that name declared earlier: an
earlier sibling of the field itself, else of one of its ancestors. -/

namespace DocQuery

/-- The field above all declared ones. -/
def Field.root : Field := { name := "__ROOT__", type := .object, pipeline := [] }

/-- A compiled expression. -/
structure Program where
  shape : Shape
  tree : Layout Field
  root_eq : tree.root = Field.root

namespace Program

/-- Loads declared fields. -/
def ofFields (shape : Shape) (fields : Forest Field) : Program where
  shape
  tree := .of Field.root fields
  root_eq := rfl

/-- Two programs are equal as soon as they have the same shape and fields. -/
theorem ext {a b : Program} (hs : a.shape = b.shape) (hf : a.tree.below = b.tree.below) :
    a = b := by
  obtain ⟨sa, ta, ha⟩ := a
  obtain ⟨sb, tb, hb⟩ := b
  simp only at hs hf ha hb
  subst hs
  have : ta = tb := Layout.ext (ha.trans hb.symm) hf
  subst this
  rfl

instance : DecidableEq Program := fun a b =>
  if h : a.shape = b.shape ∧ a.tree.below = b.tree.below then .isTrue (ext h.1 h.2)
  else .isFalse fun hab => h (by subst hab; exact ⟨rfl, rfl⟩)

variable (program : Program)

/-- The declared fields. -/
def fields : Forest Field := program.tree.below

/-- Number of fields, the root included. -/
abbrev size : Nat := program.tree.size

/-- Preorder number of a field. -/
abbrev Id : Type := program.tree.Id

/-- Number of the root. -/
def root : program.Id := program.tree.rootId

/-- The field with a number. -/
def field (id : program.Id) : Field := program.tree.label id

/-- Parent of a field; it has a smaller number. -/
def parent (id : program.Id) : Option { q : program.Id // q < id } := program.tree.parent id

/-- Children of a field in order; they have greater numbers. -/
def children (id : program.Id) : List { c : program.Id // id < c } := program.tree.children id

/-- The top-level fields. -/
def topLevel : List { c : program.Id // program.root < c } := program.children program.root

/-- Whether no field is declared. -/
def isEmpty : Bool := program.topLevel.isEmpty

/-- All fields in preorder, the root first. -/
def preorder : List program.Id := program.tree.subtree program.root

/-- Siblings that are declared before a field. -/
def earlierSiblings (id : program.Id) : List { s : program.Id // s < id } :=
  match program.parent id with
  | none => []
  | some ⟨q, _⟩ =>
    (program.children q).filterMap fun c => if h : c.val < id then some ⟨c.val, h⟩ else none

/-- The field that a name means, as seen from a field. -/
def lookup (id : program.Id) (name : String) : Option { f : program.Id // f < id } :=
  match (program.earlierSiblings id).find? fun s => (program.field s.val).name == name with
  | some found => some found
  | none =>
    match program.parent id with
    | none => none
    | some ⟨q, hq⟩ => (lookup q name).map fun ⟨f, hf⟩ => ⟨f, Nat.lt_trans hf hq⟩
termination_by id.val

/-- The field at the end of a path of child positions from a field. -/
def descend (id : program.Id) : List Nat → Option program.Id
  | [] => some id
  | i :: path =>
    match (program.children id)[i]? with
    | none => none
    | some c => descend c.val path

/-- Child positions that lead from the root to a field. -/
def path (id : program.Id) : List Nat :=
  match program.parent id with
  | none => []
  | some ⟨q, _⟩ => path q ++ [(program.children q).findIdx fun c => c.val == id]
termination_by id.val

/-- The normalised expression. -/
def source : String := program.shape.source program.fields

end Program

/-- Compiles an expression. -/
def compile (bytes : List UInt8) : Except CompileError Program :=
  match Expression.readTop (.start bytes) with
  | .ok ⟨((shape, fields), _), _⟩ => .ok (.ofFields shape fields)
  | .error e => .error e

end DocQuery
