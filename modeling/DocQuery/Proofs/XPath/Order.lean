import DocQuery.Proofs.Tree.Ancestry
import DocQuery.XPath.Evaluation

/-! Points in document order.  A point comes before another one if its node does, a node before its
own attributes and the attributes of one node as they stand in the source.  From one point every
step leads to points in order.  From several points the candidates of one are listed before those of
the next, so that the order is kept only as long as the candidates do not interleave. -/

namespace DocQuery

section Distinct

variable {α β : Type} [BEq α] [LawfulBEq α] {R : α → α → Prop}

theorem eraseDups_filter (p : α → Bool) (l : List α) :
    (l.filter p).eraseDups = l.eraseDups.filter p := by
  induction h : l.length using Nat.strongRecOn generalizing l with
  | ind n ih =>
    cases l with
    | nil => rfl
    | cons a l =>
      have hlt : (l.filter fun b => !b == a).length < n := by
        have hle := List.length_filter_le (fun b => !b == a) l
        rw [List.length_cons] at h
        omega
      by_cases hp : p a
      · rw [List.filter_cons_of_pos hp, List.eraseDups_cons, List.eraseDups_cons,
          List.filter_cons_of_pos hp, ← ih _ hlt _ rfl, List.filter_comm]
      · rw [List.filter_cons_of_neg hp, List.eraseDups_cons, List.filter_cons_of_neg hp,
          ← ih _ hlt _ rfl, List.filter_filter]
        congr 2
        funext b
        by_cases hb : b = a
        · simp [hb, hp]
        · simp [hb]

theorem nodup_eraseDups (l : List α) : l.eraseDups.Nodup := by
  induction h : l.length using Nat.strongRecOn generalizing l with
  | ind n ih =>
    cases l with
    | nil => exact .nil
    | cons a l =>
      rw [List.eraseDups_cons, eraseDups_filter, List.nodup_cons]
      refine ⟨by simp, (ih l.length ?_ l rfl).filter _⟩
      rw [List.length_cons] at h
      omega

theorem eraseDups_of_nodup {l : List α} (h : l.Nodup) : l.eraseDups = l := by
  induction l with
  | nil => rfl
  | cons a l ih =>
    rw [List.nodup_cons] at h
    rw [List.eraseDups_cons, eraseDups_filter, ih h.2, List.filter_eq_self.mpr]
    intro b hb
    have hne : b ≠ a := fun heq => h.1 (heq ▸ hb)
    simpa using hne

/-- Lists put one after the other, each element where it stands first. -/
theorem pairwise_eraseDups_flatMap {f : β → List α} {l : List β}
    (hpieces : ∀ b ∈ l, (f b).eraseDups.Pairwise R)
    (hcross : l.Pairwise fun b c => ∀ x ∈ f b, ∀ y ∈ f c, y ∈ f b ∨ R x y) :
    (l.flatMap f).eraseDups.Pairwise R := by
  induction l with
  | nil => exact .nil
  | cons b l ih =>
    rw [List.pairwise_cons] at hcross
    rw [List.flatMap_cons, List.eraseDups_append, List.removeAll, eraseDups_filter,
      List.pairwise_append]
    refine ⟨hpieces b List.mem_cons_self, ?_, ?_⟩
    · have hrest := ih (fun c hc => hpieces c (List.mem_cons_of_mem b hc)) hcross.2
      exact hrest.filter _
    · intro x hx y hy
      rw [List.mem_filter, List.mem_eraseDups, List.mem_flatMap] at hy
      obtain ⟨⟨c, hc, hyc⟩, hnot⟩ := hy
      rcases hcross.1 c hc x (List.mem_eraseDups.mp hx) y hyc with hmem | hR
      · simp [hmem] at hnot
      · exact hR

end Distinct

namespace XPath

open Html

variable {d : Document} {p q x y : Point d} {points : List (Point d)} {step : Step}

/-! ### Document order -/

/-- The node of a point. -/
def Point.owner : Point d → d.Id
  | .node id => id
  | .attribute owner _ => owner

/-- Place of a point among those of its node: the node first, then its attributes. -/
def Point.rank : Point d → Nat
  | .node _ => 0
  | .attribute owner name => (attributesOf d owner).eraseDups.idxOf (.attribute owner name) + 1

/-- Document order. -/
def Point.Before (p q : Point d) : Prop :=
  p.owner < q.owner ∨ p.owner = q.owner ∧ p.rank < q.rank

/-- All points are in document order. -/
def InOrder (points : List (Point d)) : Prop := points.Pairwise Point.Before

/-- Number of points above a point. -/
def Point.depth : Point d → Nat
  | .node id => d.depth id
  | .attribute owner _ => d.depth owner + 1

theorem Point.Before.asymm (h : p.Before q) : ¬q.Before p := by
  rintro (h' | ⟨howner, h'⟩)
  · rcases h with h | ⟨howner, -⟩
    · exact lt_asymm h h'
    · exact absurd howner h'.ne'
  · rcases h with h | ⟨-, h⟩
    · exact absurd howner h.ne'
    · exact lt_asymm h h'

theorem Point.Before.ne (h : p.Before q) : p ≠ q := by
  rintro rfl
  exact h.asymm h

theorem Point.before_node {a b : d.Id} : (Point.node a).Before (.node b) ↔ a < b := by
  constructor
  · rintro (h | ⟨-, h⟩)
    · exact h
    · exact absurd h (lt_irrefl _)
  · exact .inl

theorem InOrder.nodup (h : InOrder points) : points.Nodup := h.imp Point.Before.ne

/-- A relation along a list in document order. -/
theorem InOrder.rel_of_before {R : Point d → Point d → Prop} (h : InOrder points)
    (hR : points.Pairwise R) (hp : p ∈ points) (hq : q ∈ points) (hpq : p.Before q) : R p q := by
  obtain ⟨i, hi, rfl⟩ := List.getElem_of_mem hp
  obtain ⟨j, hj, rfl⟩ := List.getElem_of_mem hq
  rcases lt_trichotomy i j with hlt | rfl | hlt
  · exact List.pairwise_iff_getElem.mp hR i j hi hj hlt
  · exact absurd rfl hpq.ne
  · exact absurd hpq (List.pairwise_iff_getElem.mp h j i hj hi hlt).asymm

theorem inOrder_map_node {ids : List d.Id} (h : ids.Pairwise (· < ·)) :
    InOrder (ids.map Point.node) :=
  List.pairwise_map.mpr (h.imp Point.before_node.mpr)

/-! ### One step from one point -/

/-- Where an axis leads from a point. -/
inductive Axis.Leads : Axis → Point d → Point d → Prop
  | child {id c : d.Id} (h : (d.slot c).parent = some id) : Leads .child (.node id) (.node c)
  | descendant {id c : d.Id} (hlow : id < c) (hhigh : c.val < d.stop id) :
    Leads .descendant (.node id) (.node c)
  | descendantOrSelf {id c : d.Id} (hlow : id ≤ c) (hhigh : c.val < d.stop id) :
    Leads .descendantOrSelf (.node id) (.node c)
  | self (p : Point d) : Leads .self p p
  | parent {id q : d.Id} (h : (d.slot id).parent = some q) : Leads .parent (.node id) (.node q)
  | owner (id : d.Id) (name : String) : Leads .parent (.attribute id name) (.node id)
  | attribute (id : d.Id) (name : String) : Leads .attribute (.node id) (.attribute id name)

theorem childIds_eq (id : d.Id) : d.childIds id = (d.slot id).children := d.map_val_children id

theorem mem_attributesOf {id : d.Id} (h : p ∈ attributesOf d id) :
    ∃ name, p = .attribute id name := by
  rw [attributesOf] at h
  split at h
  · cases h
  · obtain ⟨a, -, rfl⟩ := List.mem_map.mp h
    exact ⟨a.name, rfl⟩

theorem leads_of_mem_reach (h : x ∈ step.reach p) : step.axis.Leads p x := by
  obtain ⟨axis, test, conditions⟩ := step
  cases p with
  | node id =>
    cases axis with
    | child =>
      simp only [Step.reach, List.mem_map, List.mem_filter, childIds_eq] at h
      obtain ⟨c, ⟨hc, -⟩, rfl⟩ := h
      exact .child (Layout.mem_children_iff.mp hc)
    | descendant =>
      simp only [Step.reach, List.mem_map, List.mem_filter, Layout.mem_descendants] at h
      obtain ⟨c, ⟨⟨hlow, hhigh⟩, -⟩, rfl⟩ := h
      exact .descendant hlow hhigh
    | descendantOrSelf =>
      simp only [Step.reach, List.mem_map, List.mem_filter, Layout.mem_subtree] at h
      obtain ⟨c, ⟨⟨hlow, hhigh⟩, -⟩, rfl⟩ := h
      exact .descendantOrSelf hlow hhigh
    | self =>
      simp only [Step.reach, List.mem_map, List.mem_filter, List.mem_singleton] at h
      obtain ⟨c, ⟨rfl, -⟩, rfl⟩ := h
      exact .self _
    | parent =>
      simp only [Step.reach, List.mem_map, List.mem_filter, Option.mem_toList,
        Layout.map_val_parent] at h
      obtain ⟨c, ⟨hc, -⟩, rfl⟩ := h
      exact .parent hc
    | «attribute» =>
      simp only [Step.reach, List.mem_filter] at h
      obtain ⟨name, rfl⟩ := mem_attributesOf h.1
      exact .attribute id name
  | «attribute» owner name =>
    simp only [Step.reach] at h
    split at h
    · split at h
      · rw [List.mem_singleton] at h
        subst h
        exact .owner owner name
      · cases h
    · rw [List.mem_singleton] at h
      subst h
      exact .self _
    · cases h

theorem keep_sublist (condition : Condition) (candidates : List (Point d)) :
    (condition.keep candidates).Sublist candidates := by
  cases condition with
  | position n =>
    cases n with
    | zero => exact List.nil_sublist _
    | succ n =>
      rw [Condition.keep]
      cases hget : candidates[n]? with
      | none => exact List.nil_sublist _
      | some p => exact List.singleton_sublist.mpr (List.mem_of_getElem? hget)
  | last =>
    rw [Condition.keep]
    cases hlast : candidates.getLast? with
    | none => exact List.nil_sublist _
    | some p => exact List.singleton_sublist.mpr (List.mem_of_getLast? hlast)
  | hasAttribute name => exact List.filter_sublist
  | attributeEquals name value => exact List.filter_sublist

theorem foldl_keep_sublist (conditions : List Condition) (candidates : List (Point d)) :
    (conditions.foldl (fun candidates condition => condition.keep candidates) candidates).Sublist
      candidates := by
  induction conditions generalizing candidates with
  | nil => exact List.Sublist.refl _
  | cons condition conditions ih => exact (ih _).trans (keep_sublist condition candidates)

theorem fromPoint_sublist (step : Step) (p : Point d) :
    (step.fromPoint p).Sublist (step.reach p) :=
  foldl_keep_sublist step.conditions (step.reach p)

theorem leads_of_mem_fromPoint (h : x ∈ step.fromPoint p) : step.axis.Leads p x :=
  leads_of_mem_reach ((fromPoint_sublist step p).subset h)

/-- Nodes that a step leads to from a point stand in order. -/
theorem inOrder_reach (h : step.axis ≠ .attribute) : InOrder (step.reach p) := by
  obtain ⟨axis, test, conditions⟩ := step
  cases p with
  | node id =>
    cases axis with
    | child =>
      refine inOrder_map_node (List.Pairwise.filter _ ?_)
      rw [childIds_eq]
      exact Layout.pairwise_children id
    | descendant => exact inOrder_map_node (((Layout.pairwise_subtree id).tail).filter _)
    | descendantOrSelf => exact inOrder_map_node ((Layout.pairwise_subtree id).filter _)
    | self => exact inOrder_map_node ((List.pairwise_singleton _ _).filter _)
    | parent =>
      refine inOrder_map_node (List.Pairwise.filter _ ?_)
      cases (d.parent id).map Subtype.val with
      | none => exact .nil
      | some q => exact List.pairwise_singleton _ _
    | «attribute» => exact absurd rfl h
  | «attribute» owner name =>
    simp only [Step.reach]
    split
    · split
      · exact List.pairwise_singleton _ _
      · exact .nil
    · exact List.pairwise_singleton _ _
    · exact .nil

/-! ### Attributes of one node -/

theorem pairwise_idxOf {l : List (Point d)} (h : l.Nodup) :
    l.Pairwise fun p q => l.idxOf p < l.idxOf q := by
  rw [List.pairwise_iff_getElem]
  intro i j hi hj hij
  rw [h.idxOf_getElem i hi, h.idxOf_getElem j hj]
  exact hij

theorem inOrder_attributesOf (id : d.Id) : InOrder (attributesOf d id).eraseDups := by
  have hindex := pairwise_idxOf (nodup_eraseDups (attributesOf d id))
  refine hindex.imp_of_mem ?_
  intro p q hp hq hlt
  obtain ⟨name, rfl⟩ := mem_attributesOf (List.mem_eraseDups.mp hp)
  obtain ⟨other, rfl⟩ := mem_attributesOf (List.mem_eraseDups.mp hq)
  exact .inr ⟨rfl, Nat.succ_lt_succ hlt⟩

/-- A condition on attributes keeps at most one of them. -/
theorem length_keep_le {candidates : List (Point d)} (condition : Condition)
    (h : ∀ p ∈ candidates, ∃ owner name, p = .attribute owner name) :
    (condition.keep candidates).length ≤ 1 := by
  cases condition with
  | position n =>
    cases n with
    | zero => exact Nat.zero_le _
    | succ n => exact Option.length_toList_le
  | last => exact Option.length_toList_le
  | hasAttribute name =>
    rw [Condition.keep, List.filter_eq_nil_iff.mpr]
    · exact Nat.zero_le _
    · intro p hp
      obtain ⟨owner, other, rfl⟩ := h p hp
      simp [Point.attribute?]
  | attributeEquals name value =>
    rw [Condition.keep, List.filter_eq_nil_iff.mpr]
    · exact Nat.zero_le _
    · intro p hp
      obtain ⟨owner, other, rfl⟩ := h p hp
      simp [Point.attribute?]

theorem inOrder_eraseDups_of_length_le {candidates : List (Point d)} (h : candidates.length ≤ 1) :
    InOrder candidates.eraseDups := by
  rcases candidates with _ | ⟨p, _ | ⟨q, candidates⟩⟩
  · exact .nil
  · exact List.pairwise_singleton _ _
  · simp at h

/-- The points that a step leads to from one point stand in order. -/
theorem inOrder_fromPoint (step : Step) (p : Point d) :
    InOrder (step.fromPoint p).eraseDups := by
  by_cases haxis : step.axis = .attribute
  · have hattributes : ∀ q ∈ step.reach p, ∃ owner name, q = .attribute owner name := by
      intro q hq
      have hleads := leads_of_mem_reach hq
      rw [haxis] at hleads
      cases hleads
      exact ⟨_, _, rfl⟩
    rw [Step.fromPoint]
    cases step.conditions with
    | nil =>
      cases p with
      | node id =>
        simp only [List.foldl_nil, Step.reach, haxis, eraseDups_filter]
        exact (inOrder_attributesOf id).filter _
      | «attribute» owner name =>
        simp only [List.foldl_nil, Step.reach, haxis]
        exact .nil
    | cons condition conditions =>
      apply inOrder_eraseDups_of_length_le
      have hle := (foldl_keep_sublist conditions (condition.keep (step.reach p))).length_le
      exact Nat.le_trans hle (length_keep_le condition hattributes)
  · have horder : InOrder (step.fromPoint p) :=
      (inOrder_reach haxis).sublist (fromPoint_sublist step p)
    rw [eraseDups_of_nodup horder.nodup]
    exact horder

end XPath

end DocQuery
