import Mathlib
import DocQuery.Tree.Layout

/-! What the slots of a tree show.  The labels of the slots are those of the tree.  The numbers in
them depend on where the tree starts only: two numberings of one forest put slots side by side that
are alike, with the same labels and with parents and children that stand side by side. -/

namespace DocQuery

/-- Slots of two trees with one label, parents that `T` relates and children that `R` relates. -/
structure Slot.Alike {n n' : Nat} (T R : Fin n → Fin n' → Prop) (a : Slot α n) (b : Slot α n') :
    Prop where
  label : a.label = b.label
  parent : ∃ p q, a.parent = some p ∧ b.parent = some q ∧ T p q
  children : List.Forall₂ R a.children b.children

theorem Slot.Alike.mono {n n' : Nat} {T T' R R' : Fin n → Fin n' → Prop} {a : Slot α n}
    {b : Slot α n'} (h : Slot.Alike T R a b) (hT : ∀ x y, T x y → T' x y)
    (hR : ∀ x y, R x y → R' x y) : Slot.Alike T' R' a b := by
  obtain ⟨p, q, hp, hq, hpq⟩ := h.parent
  exact ⟨h.label, ⟨p, q, hp, hq, hT p q hpq⟩, h.children.imp hR⟩

namespace Forest

section Shift

variable {n n' : Nat} {f : Forest α} {start start' : Nat} {h : start + f.size ≤ n}
  {h' : start' + f.size ≤ n'} {T R : Fin n → Fin n' → Prop}

theorem forall₂_roots
    (hR : ∀ x y, start ≤ x.val → x.val < start + f.size → y.val + start = x.val + start' → R x y) :
    List.Forall₂ R (f.roots start h) (f.roots start' h') := by
  induction f generalizing start start' with
  | nil => exact .nil
  | cons label children rest _ ihr =>
    simp only [size_cons] at hR
    refine .cons (hR _ _ (Nat.le_refl _) (by simp only; omega) (by simp only; omega)) (ihr ?_)
    intro x y hlow hhigh hshift
    exact hR x y (by omega) (by omega) (by omega)

/-- Two numberings of a forest, the nodes of which `R` relates one by one. -/
theorem forall₂_slots {parent : Fin n} {parent' : Fin n'} (hparent : T parent parent')
    (hT : ∀ x y, R x y → T x y)
    (hR : ∀ x y, start ≤ x.val → x.val < start + f.size → y.val + start = x.val + start' → R x y) :
    List.Forall₂ (Slot.Alike T R) (f.slots (some parent) start h)
      (f.slots (some parent') start' h') := by
  induction f generalizing parent parent' start start' with
  | nil => exact .nil
  | cons label children rest ihc ihr =>
    simp only [size_cons] at hR
    have hroot := hR ⟨start, by simp at h; omega⟩ ⟨start', by simp at h'; omega⟩ (Nat.le_refl _)
      (by simp only; omega) (by simp only; omega)
    have hchildren : ∀ x y : Fin _, start + 1 ≤ x.val → x.val < start + 1 + children.size →
        y.val + (start + 1) = x.val + (start' + 1) → R x y := fun x y hlow hhigh hshift =>
      hR x y (by omega) (by omega) (by omega)
    have hrest : ∀ x y : Fin _, start + 1 + children.size ≤ x.val →
        x.val < start + 1 + children.size + rest.size →
        y.val + (start + 1 + children.size) = x.val + (start' + 1 + children.size) → R x y :=
      fun x y hlow hhigh hshift => hR x y (by omega) (by omega) (by omega)
    refine .cons ⟨rfl, ⟨_, _, rfl, rfl, hparent⟩, forall₂_roots hchildren⟩ ?_
    exact List.rel_append (ihc (hT _ _ hroot) hchildren) (ihr hparent hrest)

end Shift

theorem length_roots {n : Nat} (f : Forest α) (start : Nat) (h : start + f.size ≤ n) :
    (f.roots start h).length = f.width := by
  induction f generalizing start with
  | nil => rfl
  | cons label children rest _ ihr => rw [roots, List.length_cons, ihr, width]

section Append

variable {n : Nat} {f g : Forest α} {start middle : Nat}

theorem size_append (f g : Forest α) : (f ++ g).size = f.size + g.size := by
  change (f.append g).size = _
  induction f with
  | nil => rw [append, size_nil, Nat.zero_add]
  | cons label children rest _ ihr => rw [append, size_cons, size_cons, ihr]; omega

theorem roots_append {h : start + (f ++ g).size ≤ n} (hf : start + f.size ≤ n)
    (hg : middle + g.size ≤ n) (hmiddle : middle = start + f.size) :
    (f ++ g).roots start h = f.roots start hf ++ g.roots middle hg := by
  induction f generalizing start with
  | nil => subst hmiddle; rfl
  | cons label children rest _ ihr =>
    simp only [size_cons] at hmiddle hf
    change _ :: Forest.roots (rest ++ g) _ _ = _ :: (_ ++ _)
    rw [ihr (by omega) (by omega)]

theorem slots_append {parent : Option (Fin n)} {h : start + (f ++ g).size ≤ n}
    (hf : start + f.size ≤ n) (hg : middle + g.size ≤ n) (hmiddle : middle = start + f.size) :
    (f ++ g).slots parent start h = f.slots parent start hf ++ g.slots parent middle hg := by
  induction f generalizing start with
  | nil => subst hmiddle; rfl
  | cons label children rest _ ihr =>
    simp only [size_cons] at hmiddle hf
    change _ :: (_ ++ Forest.slots parent (rest ++ g) _ _) = _ :: ((_ ++ _) ++ _)
    rw [ihr (by omega) (by omega), List.append_assoc]

end Append

theorem map_label_slots {n : Nat} (parent : Option (Fin n)) (f : Forest α) (start : Nat)
    (h : start + f.size ≤ n) : (f.slots parent start h).map Slot.label = f.labels := by
  induction f generalizing parent start with
  | nil => rfl
  | cons label children rest ihc ihr =>
    rw [slots, labels, List.map_cons, List.map_append, ihc, ihr]

end Forest

namespace Layout

variable (layout : Layout α)

theorem map_val_parent (id : layout.Id) :
    (layout.parent id).map (·.val) = (layout.slot id).parent := by
  rw [parent]
  split
  · rename_i hnone
    exact hnone.symm
  · rename_i q hsome
    exact hsome.symm

theorem map_val_children (id : layout.Id) :
    (layout.children id).map (·.val) = (layout.slot id).children :=
  List.attachWith_map_subtype_val ..

theorem label_mem (id : layout.Id) : layout.label id ∈ layout.root :: layout.below.labels := by
  have hlabels : ((Forest.cons layout.root layout.below .nil).slots none 0
      (Forest.size_tree_le _ _) : List (Slot α layout.size)).map Slot.label =
        layout.root :: layout.below.labels := by
    rw [Forest.map_label_slots, Forest.labels, Forest.labels, List.append_nil]
  rw [← hlabels, label, slot_eq_getElem]
  exact List.mem_map_of_mem (List.getElem_mem _)

theorem slot_rootId {f : Forest α} (hf : layout.below = f) (h : 1 + f.size ≤ layout.size) :
    layout.slot layout.rootId =
      { label := layout.root, parent := none, children := f.roots 1 h, below := f
        extent := 1 + f.size } := by
  subst hf
  rw [slot_eq_getElem]
  rfl

theorem label_rootId : layout.label layout.rootId = layout.root := by
  rw [label, slot_eq_getElem]
  rfl

theorem getElem?_slots {f : Forest α} (hf : layout.below = f) (h : 1 + f.size ≤ layout.size)
    {id : layout.Id} (hid : 0 < id.val) :
    (f.slots (some layout.rootId) 1 h)[id.val - 1]? = some (layout.slot id) := by
  subst hf
  have hslot : ((Forest.cons layout.root layout.below .nil).slots none 0
      (Forest.size_tree_le _ _) : List (Slot α layout.size))[id.val]? = some (layout.slot id) := by
    rw [slot_eq_getElem]
    exact List.getElem?_eq_getElem _
  have hindex : id.val = id.val - 1 + 1 := by omega
  rw [hindex, Forest.slots, Forest.slots, List.append_nil, List.getElem?_cons_succ] at hslot
  exact hslot

end Layout

end DocQuery
