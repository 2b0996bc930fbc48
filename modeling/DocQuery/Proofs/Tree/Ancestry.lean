import DocQuery.Proofs.Tree.Preorder
import DocQuery.Proofs.Tree.Slots

/-! Parents, children and depth.  A node is a child of its parent and of no other node.  Between a
parent and one of its children there are only subtrees that end before the child, so that subtrees
are nested or apart, and a node below another one is deeper. -/

namespace DocQuery

namespace Forest

variable {n : Nat} {parent : Option (Fin n)} {start : Nat}

section Cons

variable {label : α} {children rest : Forest α} {h : start + (cons label children rest).size ≤ n}
  (hstart : start < n) (hchildren : start + 1 + children.size ≤ n)
  (hrest : start + 1 + children.size + rest.size ≤ n)

/-- A slot of a forest is that of its first node, one below it or one of the other trees. -/
theorem index_cases {i : Nat} (hi : i < ((cons label children rest).slots parent start h).length) :
    i = 0 ∨
      (∃ j, j < (children.slots (some ⟨start, hstart⟩) (start + 1) hchildren).length ∧ i = j + 1) ∨
      ∃ j, j < (rest.slots parent (start + 1 + children.size) hrest).length ∧
        i = children.size + j + 1 := by
  simp only [length_slots, size_cons] at hi ⊢
  by_cases hzero : i = 0
  · exact .inl hzero
  by_cases hlt : i - 1 < children.size
  · exact .inr (.inl ⟨i - 1, hlt, by omega⟩)
  · exact .inr (.inr ⟨i - 1 - children.size, by omega, by omega⟩)

variable {hstart hchildren hrest} {j : Nat}

theorem getElem_slots_children
    (hj : j < (children.slots (some ⟨start, hstart⟩) (start + 1) hchildren).length)
    {hi : j + 1 < ((cons label children rest).slots parent start h).length} :
    ((cons label children rest).slots parent start h)[j + 1] =
      (children.slots (some ⟨start, hstart⟩) (start + 1) hchildren)[j] := by
  have hlt : j < children.size := by simpa using hj
  simp only [slots, List.getElem_cons_succ, List.getElem_append, length_slots, hlt, dite_true]

theorem getElem_slots_rest (hj : j < (rest.slots parent (start + 1 + children.size) hrest).length)
    {hi : children.size + j + 1 < ((cons label children rest).slots parent start h).length} :
    ((cons label children rest).slots parent start h)[children.size + j + 1] =
      (rest.slots parent (start + 1 + children.size) hrest)[j] := by
  have hnot : ¬ children.size + j < children.size := by omega
  simp only [slots, List.getElem_cons_succ, List.getElem_append, length_slots, hnot, dite_false,
    Nat.add_sub_cancel_left]

end Cons

variable {f : Forest α} {h : start + f.size ≤ n}

theorem pairwise_roots : (f.roots start h).Pairwise (· < ·) := by
  induction f generalizing start with
  | nil => exact .nil
  | cons label children rest _ ihr =>
    refine .cons ?_ ihr
    intro c hc
    have hle := le_of_mem_roots hc
    rw [Fin.lt_def]
    simp only
    omega

/-- The children of every node stand in order. -/
theorem pairwise_children {i : Nat} (hi : i < (f.slots parent start h).length) :
    (f.slots parent start h)[i].children.Pairwise (· < ·) := by
  induction f generalizing parent start i with
  | nil => simp [slots] at hi
  | cons label children rest ihc ihr =>
    have hsize := h
    rw [size_cons] at hsize
    obtain rfl | ⟨j, hj, rfl⟩ | ⟨j, hj, rfl⟩ :=
      index_cases (by omega) (by omega) (by omega) hi
    · exact pairwise_roots
    · rw [getElem_slots_children hj]
      exact ihc hj
    · rw [getElem_slots_rest hj]
      exact ihr hj

/-- A top node has the parent of the forest. -/
theorem parent_of_mem_roots (parent : Option (Fin n)) {c : Fin n} (hc : c ∈ f.roots start h) :
    ∃ (j : Nat) (hj : j < (f.slots parent start h).length), c.val = start + j ∧
      (f.slots parent start h)[j].parent = parent := by
  induction f generalizing start with
  | nil => simp [roots] at hc
  | cons label children rest _ ihr =>
    simp only [roots, List.mem_cons] at hc
    rcases hc with rfl | hc
    · exact ⟨0, by simp only [length_slots, size_cons]; omega, rfl, rfl⟩
    · obtain ⟨j, hj, hcj, hparent⟩ := ihr hc
      have hlt := hj
      rw [length_slots] at hlt
      refine ⟨children.size + j + 1, by simp; omega, by omega, ?_⟩
      rw [getElem_slots_rest hj]
      exact hparent

/-- A child of a node has that node for its parent. -/
theorem parent_of_mem_children {i : Nat} (hi : i < (f.slots parent start h).length) {c : Fin n}
    (hc : c ∈ (f.slots parent start h)[i].children) :
    ∃ (j : Nat) (hj : j < (f.slots parent start h).length), c.val = start + j ∧
      ∃ q, (f.slots parent start h)[j].parent = some q ∧ q.val = start + i := by
  induction f generalizing parent start i with
  | nil => simp [slots] at hi
  | cons label children rest ihc ihr =>
    have hsize := h
    rw [size_cons] at hsize
    obtain rfl | ⟨i, hlt, rfl⟩ | ⟨i, hlt, rfl⟩ :=
      index_cases (by omega) (by omega) (by omega) hi
    · have hc : c ∈ children.roots (start + 1) (by omega) := hc
      obtain ⟨j, hj, hcj, hparent⟩ := parent_of_mem_roots (some ⟨start, by omega⟩) hc
      refine ⟨j + 1, by simp at hj ⊢; omega, by omega, ⟨start, by omega⟩, ?_, rfl⟩
      rw [getElem_slots_children hj]
      exact hparent
    · rw [getElem_slots_children hlt] at hc
      obtain ⟨j, hj, hcj, q, hq, hqi⟩ := ihc hlt hc
      refine ⟨j + 1, by simp at hj ⊢; omega, by omega, q, ?_, by omega⟩
      rw [getElem_slots_children hj]
      exact hq
    · rw [getElem_slots_rest hlt] at hc
      obtain ⟨j, hj, hcj, q, hq, hqi⟩ := ihr hlt hc
      refine ⟨children.size + j + 1, by simp at hj ⊢; omega, by omega, q, ?_, by omega⟩
      rw [getElem_slots_rest hj]
      exact hq

/-- A node is at the top, or it is a child of its parent. -/
theorem mem_roots_or_mem_children {i : Nat} (hi : i < (f.slots parent start h).length) :
    ((f.slots parent start h)[i].parent = parent ∧ ∃ c ∈ f.roots start h, c.val = start + i) ∨
      ∃ (k : Nat) (hk : k < (f.slots parent start h).length) (q : Fin n), q.val = start + k ∧
        (f.slots parent start h)[i].parent = some q ∧
          ∃ c ∈ (f.slots parent start h)[k].children, c.val = start + i := by
  induction f generalizing parent start i with
  | nil => simp [slots] at hi
  | cons label children rest ihc ihr =>
    have hsize := h
    rw [size_cons] at hsize
    obtain rfl | ⟨i, hlt, rfl⟩ | ⟨i, hlt, rfl⟩ :=
      index_cases (by omega) (by omega) (by omega) hi
    · exact .inl ⟨rfl, _, List.mem_cons_self, rfl⟩
    · rw [getElem_slots_children hlt]
      rcases ihc hlt with ⟨hparent, c, hc, hci⟩ | ⟨k, hk, q, hqk, hq, c, hc, hci⟩
      · exact .inr ⟨0, by simp, ⟨start, by omega⟩, rfl, hparent, c, hc, by omega⟩
      · refine .inr ⟨k + 1, by simp at hk ⊢; omega, q, by omega, hq, c, ?_, by omega⟩
        rw [getElem_slots_children hk]
        exact hc
    · rw [getElem_slots_rest hlt]
      rcases ihr hlt with ⟨hparent, c, hc, hci⟩ | ⟨k, hk, q, hqk, hq, c, hc, hci⟩
      · exact .inl ⟨hparent, c, List.mem_cons_of_mem _ hc, by omega⟩
      · refine .inr ⟨children.size + k + 1, by simp at hk ⊢; omega, q, by omega, hq, c, ?_, by omega⟩
        rw [getElem_slots_rest hk]
        exact hc

/-- The subtrees between a parent and its child end before the child. -/
theorem stop_le_of_parent_lt (hparent : ∀ q, parent = some q → q.val < start) {i j : Nat}
    (hi : i < (f.slots parent start h).length) (hj : j < (f.slots parent start h).length)
    (hji : j < i) {q : Fin n} (hq : (f.slots parent start h)[i].parent = some q)
    (hqj : q.val < start + j) : j + (f.slots parent start h)[j].extent ≤ i := by
  induction f generalizing parent start i j with
  | nil => simp [slots] at hi
  | cons label children rest ihc ihr =>
    have hsize := h
    rw [size_cons] at hsize
    obtain rfl | ⟨i, hilt, rfl⟩ | ⟨i, hilt, rfl⟩ :=
      index_cases (by omega) (by omega) (by omega) hi
    · omega
    · rw [getElem_slots_children hilt] at hq
      -- the parent lies in the first tree as well
      have hge : start ≤ q.val := by
        rcases mem_roots_or_mem_children hilt with ⟨hroot, -⟩ | ⟨k, -, q', hk, hq', -⟩
        · have hval := congrArg Fin.val (Option.some.inj (hroot.symm.trans hq))
          exact Nat.le_of_eq hval
        · have hval := congrArg Fin.val (Option.some.inj (hq'.symm.trans hq))
          omega
      obtain ⟨j, rfl⟩ : ∃ k, j = k + 1 := Nat.exists_eq_succ_of_ne_zero (by omega)
      have hjlt := Nat.lt_trans (Nat.lt_of_succ_lt_succ hji) hilt
      rw [getElem_slots_children hjlt]
      have hle := ihc (by rintro q ⟨⟩; exact Nat.lt_succ_self _) hilt hjlt (by omega) hq (by omega)
      omega
    · rw [getElem_slots_rest hilt] at hq
      obtain rfl | ⟨j, hjlt, rfl⟩ | ⟨j, hjlt, rfl⟩ :=
        index_cases (by omega) (by omega) (by omega) hj
      · simp only [slots, List.getElem_cons_zero]
        omega
      · rw [getElem_slots_children hjlt]
        have hbounds := (extent_bounds hjlt).2
        omega
      · rw [getElem_slots_rest hjlt]
        have hle := ihr (fun q hq => by have := hparent q hq; omega) hilt hjlt (by omega) hq
          (by omega)
        omega

end Forest

namespace Layout

variable {layout : Layout α} {a b c p q : layout.Id}

/-- A node is a child of its parent and of no other node. -/
theorem mem_children_iff :
    c ∈ (layout.slot p).children ↔ (layout.slot c).parent = some p := by
  simp only [slot_eq_getElem]
  constructor
  · intro hc
    obtain ⟨j, hj, hcj, q, hq, hqp⟩ :=
      Forest.parent_of_mem_children (layout.lt_length_slots p) hc
    obtain rfl : j = c.val := by omega
    rw [hq, Option.some.injEq, Fin.ext_iff]
    omega
  · intro hp
    rcases Forest.mem_roots_or_mem_children (layout.lt_length_slots c) with
      ⟨hroot, -⟩ | ⟨k, hk, q, hqk, hq, c', hc', hcc⟩
    · cases hroot.symm.trans hp
    · obtain rfl : q = p := Option.some.inj (hq.symm.trans hp)
      obtain rfl : c' = c := Fin.ext (by omega)
      obtain rfl : k = q.val := by omega
      exact hc'

theorem parent_eq_none_iff : (layout.slot c).parent = none ↔ c = layout.rootId := by
  constructor
  · intro hnone
    rw [slot_eq_getElem] at hnone
    rcases Forest.mem_roots_or_mem_children (layout.lt_length_slots c) with
      ⟨-, r, hr, hrc⟩ | ⟨_, _, q, _, hq, _⟩
    · obtain rfl : r = layout.rootId := List.mem_singleton.mp hr
      exact Fin.ext (by omega)
    · cases hnone.symm.trans hq
  · rintro rfl
    rw [slot_eq_getElem]
    rfl

theorem lt_of_parent (hp : (layout.slot c).parent = some p) : p < c := by
  rw [← map_val_parent] at hp
  obtain ⟨q, -, rfl⟩ := Option.map_eq_some_iff.mp hp
  exact q.2

theorem stop_le_of_parent (hp : (layout.slot c).parent = some p) :
    layout.stop c ≤ layout.stop p := by
  have hc : c ∈ (layout.children p).map Subtype.val := by
    rw [map_val_children]
    exact mem_children_iff.mpr hp
  obtain ⟨c, hmem, rfl⟩ := List.mem_map.mp hc
  exact stop_child_le hmem

/-- The subtrees between a parent and its child end before the child. -/
theorem stop_le_of_between (hp : (layout.slot b).parent = some p) (hpa : p < a) (hab : a < b) :
    layout.stop a ≤ b.val := by
  rw [slot_eq_getElem] at hp
  have hle := Forest.stop_le_of_parent_lt (by simp) (layout.lt_length_slots b) (layout.lt_length_slots a)
    hab hp (by rw [Fin.lt_def] at hpa; omega)
  rw [← slot_eq_getElem] at hle
  exact hle

theorem pairwise_children (p : layout.Id) : (layout.slot p).children.Pairwise (· < ·) := by
  rw [slot_eq_getElem]
  exact Forest.pairwise_children _

/-- The parent of a node below another one is that one or lies below it. -/
theorem exists_parent_of_lt (hab : a < b) (hb : b.val < layout.stop a) :
    ∃ p, (layout.slot b).parent = some p ∧ a ≤ p ∧ p < b := by
  have hb0 : (layout.slot b).parent ≠ none := by
    intro hnone
    rw [parent_eq_none_iff] at hnone
    subst hnone
    exact absurd hab (Nat.not_lt_zero _)
  obtain ⟨p, hp⟩ := Option.ne_none_iff_exists'.mp hb0
  refine ⟨p, hp, ?_, lt_of_parent hp⟩
  by_contra hlt
  have hle := stop_le_of_between hp (not_le.mp hlt) hab
  omega

/-- The subtree of a node ends inside any subtree that holds the node. -/
theorem stop_le_stop (hab : a ≤ b) (hb : b.val < layout.stop a) :
    layout.stop b ≤ layout.stop a := by
  induction b using WellFoundedLT.induction with
  | ind b ih =>
    rcases hab.eq_or_lt with rfl | hlt
    · exact Nat.le_refl _
    · obtain ⟨p, hp, hap, hpb⟩ := exists_parent_of_lt hlt hb
      have hle := ih p hpb hap (Nat.lt_trans hpb hb)
      exact Nat.le_trans (stop_le_of_parent hp) hle

/-- A node below another one lies in the subtree of one of its children. -/
theorem exists_child_of_lt (hab : a < b) (hb : b.val < layout.stop a) :
    ∃ c, (layout.slot c).parent = some a ∧ c ≤ b ∧ b.val < layout.stop c := by
  induction b using WellFoundedLT.induction with
  | ind b ih =>
    obtain ⟨p, hp, hap, hpb⟩ := exists_parent_of_lt hab hb
    rcases hap.eq_or_lt with rfl | hlt
    · exact ⟨b, hp, le_rfl, lt_stop b⟩
    · obtain ⟨c, hc, hcp, hpc⟩ := ih p hpb hlt (Nat.lt_trans hpb hb)
      have hstop := Nat.le_trans (stop_le_of_parent hp) (stop_le_stop hcp hpc)
      exact ⟨c, hc, hcp.trans hpb.le, Nat.lt_of_lt_of_le (lt_stop b) hstop⟩

/-- The subtree of a node is the node and then the subtrees of its children. -/
theorem subtree_eq_cons (id : layout.Id) :
    layout.subtree id = id :: (layout.slot id).children.flatMap layout.subtree := by
  have hmem : ∀ d, d ∈ layout.subtree id ↔
      d ∈ id :: (layout.slot id).children.flatMap layout.subtree := by
    intro d
    rw [mem_subtree, List.mem_cons, List.mem_flatMap]
    constructor
    · rintro ⟨hle, hlt⟩
      rcases hle.eq_or_lt with rfl | hid
      · exact .inl rfl
      · obtain ⟨c, hc, hcd⟩ := exists_child_of_lt hid hlt
        exact .inr ⟨c, mem_children_iff.mpr hc, mem_subtree.mpr hcd⟩
    · rintro (rfl | ⟨c, hc, hd⟩)
      · exact ⟨le_rfl, lt_stop d⟩
      · rw [mem_children_iff] at hc
        rw [mem_subtree] at hd
        exact ⟨(lt_of_parent hc).le.trans hd.1, Nat.lt_of_lt_of_le hd.2 (stop_le_of_parent hc)⟩
  -- Both lists are in order, and the subtree of a child ends before that of the next one begins.
  have hsorted : (id :: (layout.slot id).children.flatMap layout.subtree).Pairwise (· < ·) := by
    rw [List.pairwise_cons, List.pairwise_flatMap]
    refine ⟨fun d hd => ?_, fun c _ => pairwise_subtree c, ?_⟩
    · obtain ⟨c, hc, hd⟩ := List.mem_flatMap.mp hd
      exact (lt_of_parent (mem_children_iff.mp hc)).trans_le (mem_subtree.mp hd).1
    · refine (pairwise_children id).imp_of_mem ?_
      intro b c hb hc hbc x hx y hy
      have hstop := stop_le_of_between (mem_children_iff.mp hc)
        (lt_of_parent (mem_children_iff.mp hb)) hbc
      exact Nat.lt_of_lt_of_le (Nat.lt_of_lt_of_le (mem_subtree.mp hx).2 hstop)
        (mem_subtree.mp hy).1
  have hperm : (layout.subtree id).Perm (id :: (layout.slot id).children.flatMap layout.subtree) :=
    (List.perm_ext_iff_of_nodup ((pairwise_subtree id).imp ne_of_lt) (hsorted.imp ne_of_lt)).mpr hmem
  exact hperm.eq_of_pairwise' (pairwise_subtree id) hsorted

/-! ### Depth -/

/-- Number of nodes above a node. -/
def depth (layout : Layout α) (id : layout.Id) : Nat :=
  match layout.parent id with
  | none => 0
  | some q => layout.depth q.val + 1
termination_by id
decreasing_by exact q.2

theorem depth_of_parent (hp : (layout.slot c).parent = some p) :
    layout.depth c = layout.depth p + 1 := by
  rw [← map_val_parent] at hp
  obtain ⟨q, hq, rfl⟩ := Option.map_eq_some_iff.mp hp
  rw [depth, hq]

/-- A node below another one is deeper. -/
theorem depth_lt_depth (hab : a < b) (hb : b.val < layout.stop a) :
    layout.depth a < layout.depth b := by
  induction b using WellFoundedLT.induction with
  | ind b ih =>
    obtain ⟨p, hp, hap, hpb⟩ := exists_parent_of_lt hab hb
    rw [depth_of_parent hp]
    rcases hap.eq_or_lt with rfl | hlt
    · exact Nat.lt_succ_self _
    · exact Nat.lt_succ_of_lt (ih p hpb hlt (Nat.lt_trans hpb hb))

/-- Of two nodes at one depth neither lies below the other. -/
theorem stop_le_of_depth_eq (hdepth : layout.depth a = layout.depth b) (hab : a < b) :
    layout.stop a ≤ b.val := by
  by_contra hlt
  have hlt := depth_lt_depth hab (not_le.mp hlt)
  omega

/-- The parents of two nodes at one depth are in the order of these nodes. -/
theorem parent_le_parent (hdepth : layout.depth a = layout.depth b) (hab : a < b)
    (hp : (layout.slot a).parent = some p) (hq : (layout.slot b).parent = some q) : p ≤ q := by
  by_contra hlt
  have hpa : p < a := lt_of_parent hp
  have hbq : b.val < layout.stop q := Nat.lt_of_lt_of_le (lt_stop b) (stop_le_of_parent hq)
  have hpq := depth_lt_depth (not_le.mp hlt) (Nat.lt_trans (Nat.lt_trans hpa hab) hbq)
  rw [depth_of_parent hp, depth_of_parent hq] at hdepth
  omega

end Layout

end DocQuery
