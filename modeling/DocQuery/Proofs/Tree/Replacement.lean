import DocQuery.Proofs.Tree.Preorder
import DocQuery.Proofs.Tree.Slots

/-! Trees that differ in one top tree.  A node outside that tree has the same number in both if it
comes before it, and a number shifted by the difference in size if it comes behind it.  Its slots in
both are alike. -/

namespace DocQuery

/-- Numbers of a node before the trees at number `p`. -/
def Before (p x y : Nat) : Prop := 0 < x ∧ x < p ∧ y = x

/-- Numbers of a node behind the trees at number `p`, which have `m` nodes and `m'` nodes. -/
def Behind (p m m' x y : Nat) : Prop := p + m ≤ x ∧ y + m = x + m'

namespace Layout

theorem forall₂_getElem? {β γ : Type} {R : β → γ → Prop} {xs : List β} {ys : List γ}
    (h : List.Forall₂ R xs ys) {i : Nat} {x : β} {y : γ} (hx : xs[i]? = some x)
    (hy : ys[i]? = some y) : R x y := by
  obtain ⟨hi, rfl⟩ := List.getElem?_eq_some_iff.mp hx
  obtain ⟨hi', rfl⟩ := List.getElem?_eq_some_iff.mp hy
  exact h.get hi hi'

section Cut

variable {label : α} {before children after : Forest α} {a : Layout α}
  (ha : a.below = before ++ .cons label children after)
include ha

theorem size_of_cut : a.size = 1 + before.size + (1 + children.size) + after.size := by
  rw [size, ha, Forest.size_append, Forest.size_cons]
  omega

theorem bounds_of_cut {p : Nat} (hp : p = 1 + before.size) :
    1 + (before ++ .cons label children after).size ≤ a.size ∧
      p + (Forest.cons label children after).size ≤ a.size := by
  rw [Forest.size_append, Forest.size_cons, size_of_cut ha]
  omega

section Slots

variable {x : a.Id} (hx : 0 < x.val) {p : Nat} (hp : p = 1 + before.size)
  (hbefore : 1 + before.size ≤ a.size) (hchildren : p + 1 + children.size ≤ a.size)
  (hafter : p + 1 + children.size + after.size ≤ a.size)
include hx hp

/-- The slots below the root, cut at a top tree. -/
theorem slots_of_cut :
    (before.slots (some a.rootId) 1 hbefore ++
        ({ label, parent := some a.rootId
           children := children.roots (p + 1) hchildren
           below := children, extent := 1 + children.size } ::
          (children.slots (some ⟨p, by omega⟩) (p + 1) hchildren ++
            after.slots (some a.rootId) (p + 1 + children.size) hafter)))[x.val - 1]? =
        some (a.slot x) := by
  obtain ⟨hbelow, htree⟩ := bounds_of_cut ha hp
  rw [← a.getElem?_slots ha hbelow hx, Forest.slots_append hbefore htree hp, Forest.slots]

theorem slot_before (hlt : x.val < p) :
    (before.slots (some a.rootId) 1 hbefore)[x.val - 1]? = some (a.slot x) := by
  have hsize := size_of_cut ha
  have hslot := slots_of_cut ha hx hp hbefore (by omega) (by omega)
  rwa [List.getElem?_append_left (by rw [Forest.length_slots]; omega)] at hslot

theorem slot_middle (heq : x.val = p) :
    a.slot x =
      { label, parent := some a.rootId, children := children.roots (p + 1) hchildren
        below := children, extent := 1 + children.size } := by
  have hsize := size_of_cut ha
  have hslot := slots_of_cut ha hx hp (by omega) hchildren (by omega)
  have hindex : x.val - 1 = before.size := by omega
  rw [List.getElem?_append_right (by rw [Forest.length_slots]; omega), Forest.length_slots, hindex,
    Nat.sub_self, List.getElem?_cons_zero] at hslot
  exact (Option.some.inj hslot).symm

omit hx in
theorem label_middle (heq : x.val = p) : a.label x = label := by
  have hsize := size_of_cut ha
  rw [Layout.label, slot_middle ha (by omega) hp (by omega) heq]

omit hx in
theorem not_mem_subtree_middle {y : a.Id} (heq : x.val = p)
    (hy : y.val < p ∨ p + (1 + children.size) ≤ y.val) : y ∉ a.subtree x := by
  have hsize := size_of_cut ha
  rw [mem_subtree, stop, slot_middle ha (by omega) hp (by omega) heq, Fin.le_def]
  dsimp only
  omega

theorem slot_after (hle : p + 1 + children.size ≤ x.val) :
    (after.slots (some a.rootId) (p + 1 + children.size) hafter)[
      x.val - (p + 1 + children.size)]? = some (a.slot x) := by
  have hsize := size_of_cut ha
  have hslot := slots_of_cut ha hx hp (by omega) (by omega) hafter
  have hindex : x.val - 1 - before.size = x.val - p - 1 + 1 := by omega
  have hlast : x.val - p - 1 - children.size = x.val - (p + 1 + children.size) := by omega
  rw [List.getElem?_append_right (by rw [Forest.length_slots]; omega), Forest.length_slots, hindex,
    List.getElem?_cons_succ, List.getElem?_append_right (by rw [Forest.length_slots]; omega),
    Forest.length_slots, hlast] at hslot
  exact hslot

end Slots

theorem children_of_cut {p : Nat} (hp : p = 1 + before.size) (hbefore : 1 + before.size ≤ a.size)
    (hlt : p < a.size) (hafter : p + 1 + children.size + after.size ≤ a.size) :
    (a.slot a.rootId).children =
      before.roots 1 hbefore ++ ⟨p, hlt⟩ :: after.roots (p + 1 + children.size) hafter := by
  obtain ⟨hbelow, htree⟩ := bounds_of_cut ha hp
  rw [a.slot_rootId ha hbelow]
  dsimp only
  rw [Forest.roots_append hbefore htree hp, Forest.roots]

end Cut

section Two

variable {label label' : α} {before children children' after : Forest α} {a b : Layout α}
  {p m m' : Nat}
  (ha : a.below = before ++ .cons label children after)
  (hb : b.below = before ++ .cons label' children' after)
  (hp : p = 1 + before.size)
include ha hb hp

/-- A node before the trees has its parent and its children there, or its parent is the root. -/
theorem alike_of_before {x : a.Id} {y : b.Id} (h : Before p x.val y.val) :
    Slot.Alike (fun x y => x.val = 0 ∧ y.val = 0 ∨ Before p x.val y.val)
      (fun x y => Before p x.val y.val) (a.slot x) (b.slot y) := by
  obtain ⟨hpos, hlt, heq⟩ := h
  have hsize := size_of_cut ha
  have hsize' := size_of_cut hb
  have hslot := slot_before ha hpos hp (by omega) hlt
  have hslot' := slot_before hb (by omega) hp (by omega) (x := y) (by omega)
  rw [heq] at hslot'
  refine forall₂_getElem? (Forest.forall₂_slots (.inl ⟨rfl, rfl⟩) (fun _ _ => .inr) ?_) hslot hslot'
  intro x y hlow hhigh hsame
  exact ⟨hlow, by omega, by omega⟩

/-- So does a node behind them. -/
theorem alike_of_behind (hm : m = 1 + children.size) (hm' : m' = 1 + children'.size) {x : a.Id}
    {y : b.Id} (h : Behind p m m' x.val y.val) :
    Slot.Alike (fun x y => x.val = 0 ∧ y.val = 0 ∨ Behind p m m' x.val y.val)
      (fun x y => Behind p m m' x.val y.val) (a.slot x) (b.slot y) := by
  obtain ⟨hle, hshift⟩ := h
  have hsize := size_of_cut ha
  have hsize' := size_of_cut hb
  have hslot := slot_after ha (by omega) hp (by omega) (x := x) (by omega)
  have hslot' := slot_after hb (by omega) hp (by omega) (x := y) (by omega)
  have hindex : y.val - (p + 1 + children'.size) = x.val - (p + 1 + children.size) := by omega
  rw [hindex] at hslot'
  refine forall₂_getElem? (Forest.forall₂_slots (.inl ⟨rfl, rfl⟩) (fun _ _ => .inr) ?_) hslot hslot'
  intro x y hlow hhigh hsame
  exact ⟨by omega, by omega⟩

/-- The top nodes before the trees and behind them stand side by side. -/
theorem forall₂_top (hm : m = 1 + children.size) (hm' : m' = 1 + children'.size) :
    ∃ front front' back back', ∃ (i : a.Id) (j : b.Id),
      (a.slot a.rootId).children = front ++ i :: back ∧
      (b.slot b.rootId).children = front' ++ j :: back' ∧ front.length = before.width ∧
      i.val = p ∧ j.val = p ∧ List.Forall₂ (fun x y => Before p x.val y.val) front front' ∧
        List.Forall₂ (fun x y => Behind p m m' x.val y.val) back back' := by
  have hsize := size_of_cut ha
  have hsize' := size_of_cut hb
  refine ⟨_, _, _, _, _, _, children_of_cut ha hp (by omega) (by omega) (by omega),
    children_of_cut hb hp (by omega) (by omega) (by omega), Forest.length_roots .., rfl, rfl,
    Forest.forall₂_roots ?_, Forest.forall₂_roots ?_⟩
  · intro x y hlow hhigh hsame
    exact ⟨hlow, by omega, by omega⟩
  · intro x y hlow hhigh hsame
    exact ⟨by omega, by omega⟩

end Two

end Layout

end DocQuery
