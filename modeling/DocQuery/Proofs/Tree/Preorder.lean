import Mathlib
import DocQuery.Tree.Layout

/-! Subtrees as intervals of preorder numbers.  The subtree of a node is the numbers from its own up
to `stop`, its proper descendants are those behind its own number, and the subtree of a child lies
inside that of its parent. -/

namespace DocQuery

namespace Forest

variable {n : Nat} {parent : Option (Fin n)} {f : Forest α} {start : Nat} {h : start + f.size ≤ n}

/-- A subtree holds its own root, and it ends where the forest ends or earlier. -/
theorem extent_bounds {i : Nat} (hi : i < (f.slots parent start h).length) :
    1 ≤ (f.slots parent start h)[i].extent ∧ i + (f.slots parent start h)[i].extent ≤ f.size := by
  induction f generalizing parent start i with
  | nil => simp [slots] at hi
  | cons label children rest ihc ihr =>
    have hchildren : start + 1 + children.size ≤ n := by simp at h; omega
    have hrest : start + 1 + children.size + rest.size ≤ n := by simp at h; omega
    cases i with
    | zero => simp [slots]
    | succ i =>
      simp only [slots, List.getElem_cons_succ, List.getElem_append, length_slots]
      simp only [slots, List.length_cons, List.length_append, length_slots] at hi
      split
      · rename_i hlt
        have hi' : i < (children.slots (some ⟨start, by omega⟩) (start + 1) hchildren).length := by
          simpa using hlt
        have := ihc hi'
        simp only [size_cons]
        omega
      · have hi' : i - children.size <
            (rest.slots parent (start + 1 + children.size) hrest).length := by
          simp only [length_slots]; omega
        have := ihr hi'
        simp only [size_cons]
        omega

/-- The slot of a top node, which ends inside the forest. -/
theorem exists_slot_of_mem_roots (parent : Option (Fin n)) {c : Fin n} (hc : c ∈ f.roots start h) :
    ∃ (j : Nat) (hj : j < (f.slots parent start h).length), c.val = start + j ∧
      j + (f.slots parent start h)[j].extent ≤ f.size := by
  suffices ∃ j, ∃ (_ : j < (f.slots parent start h).length), c.val = start + j by
    obtain ⟨j, hj, hcj⟩ := this
    exact ⟨j, hj, hcj, (extent_bounds hj).2⟩
  induction f generalizing start with
  | nil => simp [roots] at hc
  | cons label children rest _ ihr =>
    simp only [roots, List.mem_cons] at hc
    rcases hc with rfl | hc
    · exact ⟨0, by simp only [length_slots, size_cons]; omega, rfl⟩
    · obtain ⟨j, hj, hcj⟩ := ihr hc
      refine ⟨1 + children.size + j, ?_, by omega⟩
      simp only [length_slots, size_cons] at hj ⊢
      omega

/-- The subtree of a child ends inside the subtree of its parent. -/
theorem exists_slot_of_mem_children {i : Nat} (hi : i < (f.slots parent start h).length)
    {c : Fin n} (hc : c ∈ (f.slots parent start h)[i].children) :
    ∃ (j : Nat) (hj : j < (f.slots parent start h).length), c.val = start + j ∧
      j + (f.slots parent start h)[j].extent ≤ i + (f.slots parent start h)[i].extent := by
  induction f generalizing parent start i with
  | nil => simp [slots] at hi
  | cons label children rest ihc ihr =>
    have hchildren : start + 1 + children.size ≤ n := by simp at h; omega
    have hrest : start + 1 + children.size + rest.size ≤ n := by simp at h; omega
    cases i with
    | zero =>
      have hc : c ∈ children.roots (start + 1) hchildren := by simpa [slots] using hc
      obtain ⟨j, hj, hcj, hle⟩ := exists_slot_of_mem_roots (some ⟨start, by omega⟩) hc
      refine ⟨j + 1, by simp at hj ⊢; omega, by omega, ?_⟩
      simp only [length_slots] at hj
      simp only [slots, List.getElem_cons_succ, List.getElem_append, length_slots, hj, dite_true,
        List.getElem_cons_zero]
      omega
    | succ i =>
      simp only [slots, List.getElem_cons_succ, List.getElem_append, length_slots] at hc
      split at hc
      · rename_i hlt
        obtain ⟨j, hj, hcj, hle⟩ := ihc _ hc
        refine ⟨j + 1, by simp at hj ⊢; omega, by omega, ?_⟩
        simp only [length_slots] at hj
        simp only [slots, List.getElem_cons_succ, List.getElem_append, length_slots, hj, hlt,
          dite_true]
        omega
      · rename_i hlt
        obtain ⟨j, hj, hcj, hle⟩ := ihr (by simp at hi ⊢; omega) hc
        refine ⟨children.size + j + 1, by simp at hj ⊢; omega, by omega, ?_⟩
        have hnot : ¬ children.size + j < children.size := by omega
        simp only [slots, List.getElem_cons_succ, List.getElem_append, length_slots, hnot, hlt,
          dite_false, Nat.add_sub_cancel_left]
        omega

end Forest

namespace Layout

variable (layout : Layout α)

/-- The number behind the subtree of a node. -/
def stop (id : layout.Id) : Nat := id.val + (layout.slot id).extent

variable {layout}

theorem lt_stop (id : layout.Id) : id.val < layout.stop id := by
  have := (Forest.extent_bounds (layout.lt_length_slots id)).1
  rw [← slot_eq_getElem] at this
  unfold stop
  omega

theorem stop_le_size (id : layout.Id) : layout.stop id ≤ layout.size := by
  have := (Forest.extent_bounds (layout.lt_length_slots id)).2
  rw [← slot_eq_getElem] at this
  simp only [Forest.size_cons, Forest.size_nil] at this
  change id.val + (layout.slot id).extent ≤ layout.below.size + 1
  omega

/-- The subtree of a child ends inside the subtree of its parent. -/
theorem stop_child_le {id : layout.Id} {c : { c : layout.Id // id < c }}
    (hc : c ∈ layout.children id) : layout.stop c.val ≤ layout.stop id := by
  have hc : c.val ∈ (layout.slot id).children := (List.mem_attachWith ..).mp hc
  rw [slot_eq_getElem] at hc
  obtain ⟨j, hj, hcj, hle⟩ := Forest.exists_slot_of_mem_children (layout.lt_length_slots id) hc
  obtain rfl : j = c.val.val := by omega
  rw [← slot_eq_getElem, ← slot_eq_getElem] at hle
  exact hle

/-- Numbers of nodes among consecutive numbers. -/
theorem mem_filterMap_range' {first count : Nat} {d : layout.Id} :
    (d ∈ (List.range' first count).filterMap fun i =>
      if h : i < layout.size then some (⟨i, h⟩ : layout.Id) else none) ↔
      first ≤ d.val ∧ d.val < first + count := by
  simp only [List.mem_filterMap, List.mem_range'_1]
  constructor
  · rintro ⟨i, hi, hd⟩
    split at hd
    · cases hd
      exact hi
    · cases hd
  · intro hd
    exact ⟨d.val, hd, dif_pos d.isLt⟩

theorem mem_subtree {id d : layout.Id} :
    d ∈ layout.subtree id ↔ id ≤ d ∧ d.val < layout.stop id :=
  mem_filterMap_range'

theorem pairwise_subtree (id : layout.Id) : (layout.subtree id).Pairwise (· < ·) := by
  have hrange : (List.range' id.val (layout.slot id).extent).Pairwise (· < ·) :=
    List.pairwise_lt_range'
  rw [subtree, List.pairwise_filterMap]
  refine hrange.imp ?_
  intro i j hij a ha b hb
  split at ha
  · cases ha
    split at hb
    · cases hb
      exact hij
    · cases hb
  · cases ha

/-- The proper descendants of a node are the rest of its subtree. -/
theorem mem_descendants {id d : layout.Id} :
    d ∈ layout.descendants id ↔ id < d ∧ d.val < layout.stop id := by
  obtain ⟨k, hk⟩ : ∃ k, (layout.slot id).extent = k + 1 :=
    ⟨(layout.slot id).extent - 1, by have := lt_stop id; unfold stop at this; omega⟩
  have hdesc : layout.descendants id = (List.range' (id.val + 1) k).filterMap fun i =>
      if h : i < layout.size then some ⟨i, h⟩ else none := by
    rw [descendants, subtree, hk, List.range'_succ,
      List.filterMap_cons_some (dif_pos id.isLt), List.tail_cons]
  rw [hdesc, mem_filterMap_range', stop, hk, Fin.lt_def]
  omega

/-- The subtree of the root is the whole tree. -/
theorem stop_rootId : layout.stop layout.rootId = layout.size := by
  simp only [stop, slot_eq_getElem, rootId, Forest.slots, List.getElem_cons_zero]
  change 0 + (1 + layout.below.size) = layout.below.size + 1
  omega

end Layout

end DocQuery
