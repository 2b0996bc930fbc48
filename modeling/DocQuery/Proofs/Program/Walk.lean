import DocQuery.Proofs.Program.Lookup
import DocQuery.Proofs.Tree.Ancestry

/-! Walks along the links of a program.  A field has a link to its parent and links to its children,
and a walk follows them without looking at numbers: a list of children is searched as far as the
field itself, and the search goes on from the parent.  A walk may take a number of steps and has no
outcome where that does not suffice.  One step for each number up to that of the field, or from it
on, always does. -/

namespace DocQuery.Program

variable {program : Program}

/-- The first field of a name in a list, as far as a field. -/
def findBefore (id : program.Id) (name : String) : List program.Id → Option program.Id
  | [] => none
  | s :: rest =>
    if s = id then none
    else if (program.field s).name == name then some s
    else findBefore id name rest

/-- The first sibling of a name in front of a field. -/
def siblingBefore? (id : program.Id) (name : String) : Option program.Id :=
  match (program.tree.slot id).parent with
  | none => none
  | some q => findBefore id name (program.tree.slot q).children

/-- The field that a name means, found by a walk towards the root. -/
def lookupWithin (name : String) : Nat → program.Id → Option (Option program.Id)
  | 0, _ => none
  | steps + 1, id =>
    match siblingBefore? id name with
    | some found => some (some found)
    | none =>
      match (program.tree.slot id).parent with
      | none => some none
      | some q => lookupWithin name steps q

/-- A field and all those below it, found by a walk to the leaves. -/
def subtreeWithin : Nat → program.Id → Option (List program.Id)
  | 0, _ => none
  | steps + 1, id => do
    let below ← (program.tree.slot id).children.mapM (subtreeWithin steps)
    return id :: below.flatten

theorem findBefore_eq {id : program.Id} {name : String} {siblings : List program.Id}
    (hsorted : siblings.Pairwise (· < ·)) (hid : id ∈ siblings) :
    findBefore id name siblings =
      (siblings.filter (· < id)).find? fun s => (program.field s).name == name := by
  induction siblings with
  | nil => cases hid
  | cons s rest ih =>
    rw [List.pairwise_cons] at hsorted
    rw [findBefore]
    split
    · rename_i heq
      subst heq
      -- What stands behind the field has a greater number.
      have hnone : (s :: rest).filter (· < s) = [] := by
        rw [List.filter_eq_nil_iff]
        intro r hr
        rcases List.mem_cons.mp hr with rfl | hr
        · simp
        · simpa using (hsorted.1 r hr).le
      rw [hnone, List.find?_nil]
    · rename_i hne
      have hrest : id ∈ rest := (List.mem_cons.mp hid).resolve_left (Ne.symm hne)
      rw [List.filter_cons_of_pos (by simpa using hsorted.1 id hrest), List.find?_cons]
      split
      · rename_i hname
        rw [hname]
      · rename_i hname
        rw [Bool.eq_false_iff.mpr hname]
        exact ih hsorted.2 hrest

theorem map_val_earlierSiblings {id q : program.Id} (hq : q < id)
    (h : program.parent id = some ⟨q, hq⟩) :
    (program.earlierSiblings id).map Subtype.val =
      (program.tree.slot q).children.filter (· < id) := by
  have hfilter : ∀ cs : List { c : program.Id // q < c },
      (cs.filterMap fun c =>
          if h : c.val < id then some (⟨c.val, h⟩ : { s // s < id }) else none).map Subtype.val =
        (cs.map Subtype.val).filter (· < id) := by
    intro cs
    induction cs with
    | nil => rfl
    | cons c cs ih =>
      by_cases hlt : c.val < id
      · rw [List.filterMap_cons_some (dif_pos hlt), List.map_cons, ih, List.map_cons,
          List.filter_cons_of_pos (by simpa using hlt)]
      · rw [List.filterMap_cons_none (dif_neg hlt), ih, List.map_cons,
          List.filter_cons_of_neg (by simpa using hlt)]
  rw [earlierSiblings, h]
  dsimp only
  rw [hfilter, children, Layout.map_val_children]

theorem parentLink_of_none {id : program.Id} (h : program.parent id = none) :
    (program.tree.slot id).parent = none := by
  rw [← Layout.map_val_parent]
  exact congrArg (Option.map Subtype.val) h

theorem parentLink_of_some {id q : program.Id} {hq : q < id}
    (h : program.parent id = some ⟨q, hq⟩) : (program.tree.slot id).parent = some q := by
  rw [← Layout.map_val_parent]
  exact congrArg (Option.map Subtype.val) h

/-- A search as far as the field finds what a search among the smaller numbers finds. -/
theorem siblingBefore?_eq (id : program.Id) (name : String) :
    siblingBefore? id name = ((program.earlierSiblings id).find? fun s =>
      (program.field s.val).name == name).map Subtype.val := by
  rw [siblingBefore?]
  cases hparent : program.parent id with
  | none =>
    rw [parentLink_of_none hparent, earlierSiblings, hparent]
    rfl
  | some q =>
    obtain ⟨q, hq⟩ := q
    have hslot := parentLink_of_some hparent
    rw [hslot]
    dsimp only
    rw [findBefore_eq (Layout.pairwise_children q) (Layout.mem_children_iff.mpr hslot),
      ← map_val_earlierSiblings hq hparent, List.find?_map]
    rfl

/-- A walk towards the root finds what a name means, and takes no more steps than there are numbers
up to that of the field. -/
theorem lookupWithin_eq {name : String} {steps : Nat} {id : program.Id} (h : id.val < steps) :
    lookupWithin name steps id = some ((program.lookup id name).map Subtype.val) := by
  induction steps generalizing id with
  | zero => exact absurd h (Nat.not_lt_zero _)
  | succ steps ih =>
    rw [lookupWithin, lookup, siblingBefore?_eq]
    cases (program.earlierSiblings id).find? fun s => (program.field s.val).name == name with
    | some found => rfl
    | none =>
      cases hparent : program.parent id with
      | none =>
        rw [parentLink_of_none hparent]
        rfl
      | some q =>
        obtain ⟨q, hq⟩ := q
        have hlt : q.val < steps := Nat.lt_of_lt_of_le hq (Nat.le_of_lt_succ h)
        rw [parentLink_of_some hparent]
        dsimp only [Option.map_none]
        rw [ih hlt, Option.map_map]
        rfl

theorem mapM_subtreeWithin {steps : Nat} {id : program.Id}
    (h : ∀ c, id < c → subtreeWithin steps c = some (program.tree.subtree c)) :
    (program.tree.slot id).children.mapM (subtreeWithin steps) =
      some ((program.tree.slot id).children.map program.tree.subtree) := by
  have hbelow : ∀ cs : List program.Id, (∀ c ∈ cs, id < c) →
      cs.mapM (subtreeWithin steps) = some (cs.map program.tree.subtree) := by
    intro cs hcs
    induction cs with
    | nil => rfl
    | cons c cs ih =>
      rw [List.forall_mem_cons] at hcs
      rw [List.mapM_cons, h c hcs.1, ih hcs.2]
      rfl
  exact hbelow _ fun c hc => Layout.lt_of_parent (Layout.mem_children_iff.mp hc)

/-- A walk to the leaves finds the subtree in preorder, and goes no deeper than there are numbers
from that of the field on. -/
theorem subtreeWithin_eq {steps : Nat} {id : program.Id} (h : program.size - id.val ≤ steps) :
    subtreeWithin steps id = some (program.tree.subtree id) := by
  induction steps generalizing id with
  | zero => exact absurd h (Nat.not_le_of_gt (Nat.sub_pos_of_lt id.isLt))
  | succ steps ih =>
    have hchild : ∀ c, id < c → subtreeWithin steps c = some (program.tree.subtree c) :=
      fun c hc => ih (Nat.le_of_lt_succ (Nat.lt_of_lt_of_le (Nat.sub_lt_sub_left id.isLt hc) h))
    rw [subtreeWithin, mapM_subtreeWithin hchild, Layout.subtree_eq_cons, List.flatMap]
    rfl

end DocQuery.Program
