import DocQuery.Proofs.XPath.Order
import DocQuery.Selection.Basic

/-! Points in document order along a path.  A step takes the candidates of one point after those of
the point before, so that the order is kept only as long as the candidates of two points do not
interleave.  How the points lie that a step starts from tells whether they do: children and parents
keep the order of points of one depth, and nodes further down that of any points in order.  A double
slash before a child breaks it, as nodes of all depths come between. -/

namespace DocQuery

namespace XPath

open Html

variable {d : Document} {p q x y : Point d} {points : List (Point d)} {step : Step}

/-- How points lie in their document. -/
inductive Spread where
  /-- In document order, and all of one depth. -/
  | level
  /-- In document order, and all of them attributes. -/
  | attributes
  /-- In document order. -/
  | ordered
  /-- In any order, each point once. -/
  | loose
  deriving DecidableEq, Repr, Inhabited

/-- Points that lie in that way. -/
def Spread.Holds (points : List (Point d)) : Spread → Prop
  | level => InOrder points ∧ ∀ p ∈ points, ∀ q ∈ points, p.depth = q.depth
  | attributes => InOrder points ∧ ∀ p ∈ points, ∃ owner name, p = .attribute owner name
  | ordered => InOrder points
  | loose => points.Nodup

/-- Whether a condition asks a node for its attributes only, not for its place among others. -/
def Condition.isFree : Condition → Bool
  | position _ | last => false
  | hasAttribute _ | attributeEquals _ _ => true

/-- How points lie that a step leads to.  The children of points one below the other interleave, the
parents of points of several depths do, and so do the nodes below points that are picked by their
place. -/
def Step.spread (step : Step) : Spread → Spread
  | .level =>
    match step.axis with
    | .descendant | .descendantOrSelf => .ordered
    | _ => .level
  | .attributes =>
    match step.axis with
    | .parent => .ordered
    | _ => .attributes
  | .ordered =>
    match step.axis with
    | .self => .ordered
    | .attribute => .attributes
    | .descendant | .descendantOrSelf =>
      if step.conditions.all Condition.isFree then .ordered else .loose
    | _ => .loose
  | .loose => .loose

theorem apply_eq (step : Step) (points : List (Point d)) :
    step.apply points = (points.flatMap step.fromPoint).eraseDups := rfl

theorem mem_apply : x ∈ step.apply points ↔ ∃ p ∈ points, x ∈ step.fromPoint p := by
  rw [apply_eq, List.mem_eraseDups, List.mem_flatMap]

theorem nodup_apply (step : Step) (points : List (Point d)) : (step.apply points).Nodup :=
  nodup_eraseDups _

/-- Points stand in order if the candidates of one point come before those of the next or are
among them. -/
theorem inOrder_apply (hpoints : InOrder points)
    (hcross : ∀ p ∈ points, ∀ q ∈ points, p.Before q → ∀ x ∈ step.fromPoint p,
      ∀ y ∈ step.fromPoint q, y ∈ step.fromPoint p ∨ x.Before y) :
    InOrder (step.apply points) := by
  refine pairwise_eraseDups_flatMap (fun p _ => inOrder_fromPoint step p) ?_
  refine hpoints.imp_of_mem ?_
  intro p q hp hq hbefore x hx y hy
  exact hcross p hp q hq hbefore x hx y hy

theorem before_of_owner_lt (h : x.owner < y.owner) : x.Before y := .inl h

theorem owner_le (h : p.Before q) : p.owner ≤ q.owner := by
  rcases h with h | ⟨h, -⟩
  · exact h.le
  · exact h.le

/-- Steps up, down and sideways by one change all depths alike. -/
theorem depth_eq_of_leads {axis : Axis} (hdown : axis ≠ .descendant ∧ axis ≠ .descendantOrSelf)
    (hx : axis.Leads p x) (hy : axis.Leads q y) (hdepth : p.depth = q.depth) :
    x.depth = y.depth := by
  cases hx with
  | child hc =>
    cases hy with
    | child he =>
      simp only [Point.depth] at hdepth ⊢
      rw [Layout.depth_of_parent hc, Layout.depth_of_parent he, hdepth]
  | descendant => exact absurd rfl hdown.1
  | descendantOrSelf => exact absurd rfl hdown.2
  | self =>
    cases hy
    exact hdepth
  | parent hc =>
    cases hy with
    | parent he =>
      simp only [Point.depth] at hdepth ⊢
      rw [Layout.depth_of_parent hc, Layout.depth_of_parent he] at hdepth
      omega
    | owner id name =>
      simp only [Point.depth] at hdepth ⊢
      rw [Layout.depth_of_parent hc] at hdepth
      omega
  | owner id name =>
    cases hy with
    | parent he =>
      simp only [Point.depth] at hdepth ⊢
      rw [Layout.depth_of_parent he] at hdepth
      omega
    | owner other name =>
      simp only [Point.depth] at hdepth ⊢
      omega
  | «attribute» id name =>
    cases hy with
    | «attribute» other name =>
      simp only [Point.depth] at hdepth ⊢
      omega

/-- What a step leads to from two points of one depth does not interleave. -/
theorem before_of_leads_level {axis : Axis} (hx : axis.Leads p x) (hy : axis.Leads q y)
    (hdepth : p.depth = q.depth) (hpq : p.Before q) : y = x ∨ x.Before y := by
  cases hx with
  | @child id c hc =>
    cases hy with
    | @child other e he =>
      have hlt := Point.before_node.mp hpq
      have hstop := Layout.stop_le_of_depth_eq hdepth hlt
      have hlow := Layout.lt_of_parent he
      have hhigh := Nat.lt_of_lt_of_le (Layout.lt_stop c) (Layout.stop_le_of_parent hc)
      refine .inr (before_of_owner_lt ?_)
      rw [Fin.lt_def] at hlow ⊢
      simp only [Point.owner]
      omega
  | @descendant id c hlow hhigh =>
    cases hy with
    | @descendant other e hlow' hhigh' =>
      have hstop := Layout.stop_le_of_depth_eq hdepth (Point.before_node.mp hpq)
      refine .inr (before_of_owner_lt ?_)
      rw [Fin.lt_def] at hlow' ⊢
      simp only [Point.owner]
      omega
  | @descendantOrSelf id c hlow hhigh =>
    cases hy with
    | @descendantOrSelf other e hlow' hhigh' =>
      have hstop := Layout.stop_le_of_depth_eq hdepth (Point.before_node.mp hpq)
      refine .inr (before_of_owner_lt ?_)
      rw [Fin.le_def] at hlow'
      rw [Fin.lt_def]
      simp only [Point.owner]
      omega
  | self =>
    cases hy
    exact .inr hpq
  | @parent id c hc =>
    cases hy with
    | @parent other e he =>
      have hle := Layout.parent_le_parent hdepth (Point.before_node.mp hpq) hc he
      rcases hle.eq_or_lt with rfl | hlt
      · exact .inl rfl
      · exact .inr (Point.before_node.mpr hlt)
    | owner other name =>
      have hle := owner_le hpq
      have hlt := Layout.lt_of_parent hc
      exact .inr (Point.before_node.mpr (lt_of_lt_of_le hlt hle))
  | owner id name =>
    cases hy with
    | @parent other e he =>
      have hlt : id < other := by
        rcases hpq with hlt | ⟨-, hrank⟩
        · exact hlt
        · exact absurd hrank (Nat.not_lt_zero _)
      have hle : id ≤ e := by
        by_contra hgt
        have hbelow := Nat.lt_of_lt_of_le (Layout.lt_stop other) (Layout.stop_le_of_parent he)
        have hdeeper := Layout.depth_lt_depth (not_le.mp hgt) (Nat.lt_trans hlt hbelow)
        simp only [Point.depth] at hdepth
        rw [Layout.depth_of_parent he] at hdepth
        omega
      rcases hle.eq_or_lt with rfl | hlt
      · exact .inl rfl
      · exact .inr (Point.before_node.mpr hlt)
    | owner other name' =>
      rcases (owner_le hpq).eq_or_lt with heq | hlt
      · exact .inl (congrArg Point.node heq.symm)
      · exact .inr (Point.before_node.mpr hlt)
  | «attribute» id name =>
    cases hy with
    | «attribute» other name' => exact .inr (before_of_owner_lt (Point.before_node.mp hpq))

/-- Whether a point passes a condition that does not ask for its place. -/
def Condition.passes : Condition → Point d → Bool
  | position _, _ | last, _ => false
  | hasAttribute name, p => (p.attribute? name).isSome
  | attributeEquals name value, p => p.attribute? name == some value

theorem keep_of_isFree {condition : Condition} (h : condition.isFree)
    (candidates : List (Point d)) :
    condition.keep candidates = candidates.filter condition.passes := by
  cases condition with
  | position n => cases h
  | last => cases h
  | hasAttribute name => rfl
  | attributeEquals name value => rfl

theorem foldl_keep_of_isFree {conditions : List Condition} (h : conditions.all Condition.isFree)
    (candidates : List (Point d)) :
    conditions.foldl (fun candidates condition => condition.keep candidates) candidates =
      candidates.filter fun p => conditions.all fun condition => condition.passes p := by
  induction conditions generalizing candidates with
  | nil => simp
  | cons condition conditions ih =>
    rw [List.all_cons, Bool.and_eq_true] at h
    rw [List.foldl_cons, keep_of_isFree h.1, ih h.2, List.filter_filter]
    congr 1
    funext p
    rw [List.all_cons, Bool.and_comm]

/-- A step down without conditions on places finds what it finds from a node from any node above
that one, too. -/
theorem mem_fromPoint_of_below {a b : d.Id}
    (haxis : step.axis = .descendant ∨ step.axis = .descendantOrSelf)
    (hfree : step.conditions.all Condition.isFree) (hab : a < b) (hb : b.val < d.stop a)
    (hy : y ∈ step.fromPoint (.node b)) : y ∈ step.fromPoint (.node a) := by
  have hstop := Layout.stop_le_stop hab.le hb
  rw [Step.fromPoint, foldl_keep_of_isFree hfree, List.mem_filter] at hy ⊢
  refine ⟨?_, hy.2⟩
  have hreach := hy.1
  rcases haxis with haxis | haxis
  · simp only [Step.reach, haxis, List.mem_map, List.mem_filter, Layout.mem_descendants]
      at hreach ⊢
    obtain ⟨c, ⟨⟨hlow, hhigh⟩, htest⟩, rfl⟩ := hreach
    exact ⟨c, ⟨⟨hab.trans hlow, by omega⟩, htest⟩, rfl⟩
  · simp only [Step.reach, haxis, List.mem_map, List.mem_filter, Layout.mem_subtree] at hreach ⊢
    obtain ⟨c, ⟨⟨hlow, hhigh⟩, htest⟩, rfl⟩ := hreach
    exact ⟨c, ⟨⟨hab.le.trans hlow, by omega⟩, htest⟩, rfl⟩

/-- What a step down leads to from a node comes before what it leads to from a later one that does
not lie below. -/
theorem before_of_leads_apart {a b : d.Id} {axis : Axis}
    (haxis : axis = .descendant ∨ axis = .descendantOrSelf) (hstop : d.stop a ≤ b.val)
    (hx : axis.Leads (.node a) x) (hy : axis.Leads (.node b) y) : x.Before y := by
  apply before_of_owner_lt
  rw [Fin.lt_def]
  rcases haxis with rfl | rfl
  · cases hx with
    | descendant hlow hhigh =>
      cases hy with
      | descendant hlow' hhigh' =>
        rw [Fin.lt_def] at hlow'
        simp only [Point.owner]
        omega
  · cases hx with
    | descendantOrSelf hlow hhigh =>
      cases hy with
      | descendantOrSelf hlow' hhigh' =>
        rw [Fin.le_def] at hlow'
        simp only [Point.owner]
        omega

/-- A step down without conditions on places keeps the order. -/
theorem inOrder_apply_down (haxis : step.axis = .descendant ∨ step.axis = .descendantOrSelf)
    (hfree : step.conditions.all Condition.isFree) (hpoints : InOrder points) :
    InOrder (step.apply points) := by
  refine inOrder_apply hpoints ?_
  intro p _ q _ hpq x hx y hy
  have hxp := leads_of_mem_fromPoint hx
  have hyq := leads_of_mem_fromPoint hy
  obtain ⟨a, rfl⟩ : ∃ a, p = .node a := by
    rcases haxis with haxis | haxis <;> rw [haxis] at hxp <;> cases hxp <;> exact ⟨_, rfl⟩
  obtain ⟨b, rfl⟩ : ∃ b, q = .node b := by
    rcases haxis with haxis | haxis <;> rw [haxis] at hyq <;> cases hyq <;> exact ⟨_, rfl⟩
  have hab := Point.before_node.mp hpq
  by_cases hb : b.val < d.stop a
  · exact .inl (mem_fromPoint_of_below haxis hfree hab hb hy)
  · exact .inr (before_of_leads_apart haxis (not_lt.mp hb) hxp hyq)

theorem Spread.Holds.nodup {spread : Spread} (h : spread.Holds points) : points.Nodup := by
  cases spread with
  | level => exact h.1.nodup
  | attributes => exact h.1.nodup
  | ordered => exact InOrder.nodup h
  | loose => exact h

theorem Spread.Holds.inOrder {spread : Spread} (h : spread.Holds points)
    (hspread : spread ≠ .loose) : InOrder points := by
  cases spread with
  | level => exact h.1
  | attributes => exact h.1
  | ordered => exact h
  | loose => exact absurd rfl hspread

/-- From points of one depth. -/
theorem holds_apply_level (h : Spread.level.Holds points) :
    (step.spread .level).Holds (step.apply points) := by
  have horder : InOrder (step.apply points) := by
    refine inOrder_apply h.1 ?_
    intro p hp q hq hpq x hx y hy
    rcases before_of_leads_level (leads_of_mem_fromPoint hx) (leads_of_mem_fromPoint hy)
      (h.2 p hp q hq) hpq with rfl | hbefore
    · exact .inl hx
    · exact .inr hbefore
  by_cases hdown : step.axis = .descendant ∨ step.axis = .descendantOrSelf
  · have hspread : step.spread .level = .ordered := by
      rcases hdown with haxis | haxis <;> rw [Step.spread, haxis]
    rw [hspread]
    exact horder
  · rw [not_or] at hdown
    have hspread : step.spread .level = .level := by
      rw [Step.spread]
      split
      · rename_i haxis
        exact absurd haxis hdown.1
      · rename_i haxis
        exact absurd haxis hdown.2
      · rfl
    rw [hspread]
    refine ⟨horder, ?_⟩
    intro x hx y hy
    obtain ⟨p, hp, hx⟩ := mem_apply.mp hx
    obtain ⟨q, hq, hy⟩ := mem_apply.mp hy
    exact depth_eq_of_leads hdown (leads_of_mem_fromPoint hx) (leads_of_mem_fromPoint hy)
      (h.2 p hp q hq)

/-- From attributes, which have an owner and nothing else around them. -/
theorem holds_apply_attributes (h : Spread.attributes.Holds points) :
    (step.spread .attributes).Holds (step.apply points) := by
  have hleads : ∀ x ∈ step.apply points, ∃ owner name, (Point.attribute owner name) ∈ points ∧
      step.axis.Leads (.attribute owner name) x := by
    intro x hx
    obtain ⟨p, hp, hx⟩ := mem_apply.mp hx
    obtain ⟨owner, name, rfl⟩ := h.2 p hp
    exact ⟨owner, name, hp, leads_of_mem_fromPoint hx⟩
  have horder : InOrder (step.apply points) := by
    refine inOrder_apply h.1 ?_
    intro p hp q hq hpq x hx y hy
    obtain ⟨owner, name, rfl⟩ := h.2 p hp
    obtain ⟨other, name', rfl⟩ := h.2 q hq
    have hxp := leads_of_mem_fromPoint hx
    have hyq := leads_of_mem_fromPoint hy
    generalize step.axis = axis at hxp hyq
    cases hxp with
    | self =>
      cases hyq
      exact .inr hpq
    | owner =>
      cases hyq
      rcases (owner_le hpq).eq_or_lt with heq | hlt
      · simp only [Point.owner] at heq
        subst heq
        exact .inl hx
      · exact .inr (Point.before_node.mpr hlt)
  rw [Step.spread]
  split
  · exact horder
  · rename_i haxis
    refine ⟨horder, ?_⟩
    intro x hx
    obtain ⟨owner, name, hmem, hx⟩ := hleads x hx
    generalize step.axis = axis at hx haxis
    cases hx with
    | self => exact ⟨owner, name, rfl⟩
    | owner => exact absurd rfl haxis

/-- From points in order. -/
theorem holds_apply_ordered (h : Spread.ordered.Holds points) :
    (step.spread .ordered).Holds (step.apply points) := by
  rw [Step.spread]
  split
  · rename_i haxis
    refine inOrder_apply h ?_
    intro p _ q _ hpq x hx y hy
    have hxp := leads_of_mem_fromPoint hx
    have hyq := leads_of_mem_fromPoint hy
    rw [haxis] at hxp hyq
    cases hxp
    cases hyq
    exact .inr hpq
  · rename_i haxis
    constructor
    · refine inOrder_apply h ?_
      intro p _ q _ hpq x hx y hy
      have hxp := leads_of_mem_fromPoint hx
      have hyq := leads_of_mem_fromPoint hy
      rw [haxis] at hxp hyq
      cases hxp
      cases hyq
      exact .inr (before_of_owner_lt (Point.before_node.mp hpq))
    · intro x hx
      obtain ⟨p, -, hx⟩ := mem_apply.mp hx
      have hxp := leads_of_mem_fromPoint hx
      rw [haxis] at hxp
      cases hxp
      exact ⟨_, _, rfl⟩
  · rename_i haxis
    split
    · rename_i hfree
      exact inOrder_apply_down (.inl haxis) hfree h
    · exact nodup_apply step points
  · rename_i haxis
    split
    · rename_i hfree
      exact inOrder_apply_down (.inr haxis) hfree h
    · exact nodup_apply step points
  · exact nodup_apply step points

/-- What is said of a step holds of the points that it leads to. -/
theorem holds_apply {spread : Spread} (h : spread.Holds points) :
    (step.spread spread).Holds (step.apply points) := by
  cases spread with
  | level => exact holds_apply_level h
  | attributes => exact holds_apply_attributes h
  | ordered => exact holds_apply_ordered h
  | loose => exact nodup_apply step points

/-! ### Paths -/

theorem holds_singleton (p : Point d) : Spread.level.Holds [p] := by
  refine ⟨List.pairwise_singleton _ _, ?_⟩
  intro x hx y hy
  rw [List.mem_singleton.mp hx, List.mem_singleton.mp hy]

/-- How points lie that a path leads to. -/
def Path.spread (path : Path) (spread : Spread) : Spread :=
  path.steps.foldl (fun spread step => step.spread spread)
    (if path.isAbsolute then .level else spread)

theorem holds_foldl {steps : List Step} {spread : Spread} (h : spread.Holds points) :
    (steps.foldl (fun spread step => step.spread spread) spread).Holds
      (steps.foldl (fun points step => step.apply points) points) := by
  induction steps generalizing points spread with
  | nil => exact h
  | cons step steps ih => exact ih (holds_apply h)

theorem holds_select {path : Path} {spread : Spread} (h : spread.Holds points) :
    (path.spread spread).Holds (path.select points) := by
  refine holds_foldl ?_
  split
  · exact holds_singleton _
  · exact h

/-! ### Any node of the document -/

/-- The path that a double slash and a test make. -/
def anywhere (test : NodeTest) : Path := ⟨true, [Step.anywhere, { axis := .child, test }]⟩

/-- The path to the nodes below the document. -/
def below (test : NodeTest) : Path := ⟨true, [{ axis := .descendant, test }]⟩

theorem inOrder_select_below (test : NodeTest) (points : List (Point d)) :
    InOrder ((below test).select points) :=
  (holds_apply (holds_singleton (Point.node d.rootId))).inOrder (fun h => by cases h)

theorem mem_select_below {test : NodeTest} :
    x ∈ (below test).select points ↔
      ∃ c, x = .node c ∧ c ≠ d.rootId ∧ test.accepts (d.label c) := by
  change x ∈ Step.apply _ [.node d.rootId] ↔ _
  simp only [mem_apply, List.mem_singleton, exists_eq_left, Step.fromPoint, List.foldl_nil,
    Step.reach, List.mem_map, List.mem_filter, Layout.mem_descendants, Layout.stop_rootId]
  constructor
  · rintro ⟨c, ⟨⟨hlow, -⟩, htest⟩, rfl⟩
    exact ⟨c, rfl, hlow.ne', htest⟩
  · rintro ⟨c, rfl, hne, htest⟩
    refine ⟨c, ⟨⟨?_, c.isLt⟩, htest⟩, rfl⟩
    exact lt_of_le_of_ne (Nat.zero_le _) hne.symm

/-- The points that a double slash goes through. -/
def everything (d : Document) : List (Point d) := Step.anywhere.apply [.node d.rootId]

theorem inOrder_everything : InOrder (everything d) :=
  (holds_apply (holds_singleton (Point.node d.rootId))).inOrder (fun h => by cases h)

theorem mem_everything : x ∈ everything d ↔ ∃ id, x = .node id := by
  simp only [everything, mem_apply, List.mem_singleton, exists_eq_left, Step.fromPoint,
    Step.anywhere, List.foldl_nil, Step.reach, List.mem_map, List.mem_filter, Layout.mem_subtree,
    Layout.stop_rootId, NodeTest.accepts]
  constructor
  · rintro ⟨id, -, rfl⟩
    exact ⟨id, rfl⟩
  · rintro ⟨id, rfl⟩
    exact ⟨id, ⟨⟨Nat.zero_le _, id.isLt⟩, trivial⟩, rfl⟩

theorem mem_fromPoint_child {test : NodeTest} {id : d.Id} :
    x ∈ ({ axis := .child, test } : Step).fromPoint (.node id) ↔
      ∃ c, x = .node c ∧ (d.slot c).parent = some id ∧ test.accepts (d.label c) := by
  simp only [Step.fromPoint, List.foldl_nil, Step.reach, List.mem_map, List.mem_filter, childIds_eq,
    Layout.mem_children_iff]
  constructor
  · rintro ⟨c, ⟨hparent, htest⟩, rfl⟩
    exact ⟨c, rfl, hparent, htest⟩
  · rintro ⟨c, rfl, hparent, htest⟩
    exact ⟨c, ⟨hparent, htest⟩, rfl⟩

theorem mem_select_anywhere {test : NodeTest} :
    x ∈ (anywhere test).select points ↔
      ∃ c, x = .node c ∧ c ≠ d.rootId ∧ test.accepts (d.label c) := by
  change x ∈ Step.apply _ (everything d) ↔ _
  rw [mem_apply]
  constructor
  · rintro ⟨p, hp, hx⟩
    obtain ⟨id, rfl⟩ := mem_everything.mp hp
    obtain ⟨c, rfl, hparent, htest⟩ := mem_fromPoint_child.mp hx
    refine ⟨c, rfl, ?_, htest⟩
    rintro rfl
    rw [Layout.parent_eq_none_iff.mpr rfl] at hparent
    cases hparent
  · rintro ⟨c, rfl, hne, htest⟩
    obtain ⟨id, hparent⟩ := Option.ne_none_iff_exists'.mp (mt Layout.parent_eq_none_iff.mp hne)
    exact ⟨.node id, mem_everything.mpr ⟨id, rfl⟩, mem_fromPoint_child.mpr ⟨c, rfl, hparent, htest⟩⟩

/-- By the parent first, then by the own place. -/
def ByParent (x y : Point d) : Prop :=
  ∃ c e p q, x = .node c ∧ y = .node e ∧ (d.slot c).parent = some p ∧ (d.slot e).parent = some q ∧
    (p < q ∨ p = q ∧ c < e)

/-- A double slash lists nodes by their parents. -/
theorem byParent_select_anywhere (test : NodeTest) (points : List (Point d)) :
    ((anywhere test).select points).Pairwise ByParent := by
  change (((everything d).flatMap _).eraseDups).Pairwise ByParent
  refine pairwise_eraseDups_flatMap ?_ ?_
  · intro p hp
    obtain ⟨id, rfl⟩ := mem_everything.mp hp
    refine (inOrder_fromPoint _ _).imp_of_mem ?_
    intro x y hx hy hbefore
    obtain ⟨c, rfl, hc, -⟩ := mem_fromPoint_child.mp (List.mem_eraseDups.mp hx)
    obtain ⟨e, rfl, he, -⟩ := mem_fromPoint_child.mp (List.mem_eraseDups.mp hy)
    exact ⟨c, e, id, id, rfl, rfl, hc, he, .inr ⟨rfl, Point.before_node.mp hbefore⟩⟩
  · refine inOrder_everything.imp_of_mem ?_
    intro p q hp hq hbefore x hx y hy
    obtain ⟨id, rfl⟩ := mem_everything.mp hp
    obtain ⟨other, rfl⟩ := mem_everything.mp hq
    obtain ⟨c, rfl, hc, -⟩ := mem_fromPoint_child.mp hx
    obtain ⟨e, rfl, he, -⟩ := mem_fromPoint_child.mp hy
    exact .inr ⟨c, e, id, other, rfl, rfl, hc, he, .inl (Point.before_node.mp hbefore)⟩

/-- Both paths lead to the same nodes. -/
theorem select_anywhere_perm (test : NodeTest) (points : List (Point d)) :
    ((anywhere test).select points).Perm ((below test).select points) := by
  have hnodup : ((anywhere test).select points).Nodup := nodup_apply _ _
  rw [List.perm_ext_iff_of_nodup hnodup (inOrder_select_below test points).nodup]
  intro x
  rw [mem_select_anywhere, mem_select_below]

theorem select_anywhere_eq_of_inOrder {test : NodeTest}
    (h : InOrder ((anywhere test).select points)) :
    (anywhere test).select points = (below test).select points := by
  refine (select_anywhere_perm test points).eq_of_pairwise ?_ h (inOrder_select_below test points)
  intro x y _ _ hxy hyx
  exact absurd hyx (Point.Before.asymm hxy)

/-- Parents of the nodes below the document that pass a test are in the order of these nodes. -/
def ParentsInOrder (d : Document) (test : NodeTest) : Prop :=
  ∀ a b p q : d.Id, a < b → test.accepts (d.label a) → test.accepts (d.label b) →
    (d.slot a).parent = some p → (d.slot b).parent = some q → p ≤ q

/-- Both paths list the nodes in the same order exactly if their parents are in that order, too. -/
theorem select_anywhere_eq_iff (test : NodeTest) (points : List (Point d)) :
    (anywhere test).select points = (below test).select points ↔ ParentsInOrder d test := by
  constructor
  · intro heq a b p q hab ha hb hp hq
    have hbyParent := byParent_select_anywhere test points
    rw [heq] at hbyParent
    have hmem : ∀ c r : d.Id, (d.slot c).parent = some r → test.accepts (d.label c) →
        Point.node c ∈ (below test).select points := by
      intro c r hparent htest
      refine mem_select_below.mpr ⟨c, rfl, ?_, htest⟩
      rintro rfl
      rw [Layout.parent_eq_none_iff.mpr rfl] at hparent
      cases hparent
    obtain ⟨c, e, p', q', hc, he, hp', hq', hle⟩ :=
      (inOrder_select_below test points).rel_of_before hbyParent (hmem a p hp ha) (hmem b q hq hb)
        (Point.before_node.mpr hab)
    cases hc
    cases he
    obtain rfl : p' = p := Option.some.inj (hp'.symm.trans hp)
    obtain rfl : q' = q := Option.some.inj (hq'.symm.trans hq)
    rcases hle with hlt | ⟨rfl, -⟩
    · exact hlt.le
    · exact le_refl _
  · intro hparents
    have horder : InOrder ((anywhere test).select points) := by
      refine (byParent_select_anywhere test points).imp_of_mem ?_
      rintro x y hx hy ⟨c, e, p, q, rfl, rfl, hp, hq, hpq⟩
      obtain ⟨_, hc, -, hctest⟩ := mem_select_anywhere.mp hx
      obtain ⟨_, he, -, hetest⟩ := mem_select_anywhere.mp hy
      cases hc
      cases he
      rw [Point.before_node]
      rcases hpq with hpq | ⟨-, hlt⟩
      · rcases lt_trichotomy c e with hlt | rfl | hlt
        · exact hlt
        · cases hp.symm.trans hq
          exact absurd hpq (lt_irrefl _)
        · have hqp := hparents e c q p hlt hetest hctest hq hp
          exact absurd hpq (not_lt.mpr hqp)
      · exact hlt
    exact select_anywhere_eq_of_inOrder horder

end XPath

/-! ### Selections -/

open XPath

theorem readPath_empty : readPath "" = .error (.unexpected .nodeTest []) := by cbv

/-- A search by a location path takes the path from all of the points. -/
theorem find_eq {d : Html.Document} {selector : String} {path : Path}
    (hpath : readPath selector = .ok path) (points : List (Point d)) :
    (Selection.xpath d points).find selector = .ok (.xpath d (path.select points)) := by
  have hselector : selector.isEmpty = false := by
    by_contra hempty
    obtain rfl : selector = "" := by simpa using hempty
    rw [readPath_empty] at hpath
    cases hpath
  simp only [Selection.find, hselector, hpath, Bool.false_eq_true, if_false]

/-- Selections that any searches and picks lead to from a document, with what the paths tell of how
their points lie. -/
inductive Reached (document : String) : Spread → Selection → Prop
  | start {s : Selection} (h : Selection.ofDocument .xpath document = .ok s) :
    Reached document .level s
  | find {spread : Spread} {s t : Selection} {selector : String} {path : Path}
    (hs : Reached document spread s) (hpath : readPath selector = .ok path)
    (ht : s.find selector = .ok t) : Reached document (path.spread spread) t
  | findEmpty {spread : Spread} {s t : Selection} (hs : Reached document spread s)
    (ht : s.find "" = .ok t) : Reached document spread t
  | pick {spread : Spread} {s t : Selection} {index : Nat} (hs : Reached document spread s)
    (ht : s.at? index = some t) : Reached document .level t
  | element {spread : Spread} {s t : Selection} (hs : Reached document spread s)
    (ht : t ∈ s.elements) : Reached document .level t

theorem exists_points_of_reached {document : String} {spread : Spread} {s : Selection}
    (h : Reached document spread s) :
    ∃ points : List (Point (Html.Document.ofText document)),
      s = .xpath _ points ∧ spread.Holds points := by
  induction h with
  | start h =>
    cases h
    exact ⟨_, rfl, holds_singleton _⟩
  | @find spread s t selector path _ hpath ht ih =>
    obtain ⟨points, rfl, hpoints⟩ := ih
    refine ⟨path.select points, ?_, holds_select hpoints⟩
    exact Except.ok.inj (ht.symm.trans (find_eq hpath points))
  | findEmpty _ ht ih =>
    obtain ⟨points, rfl, hpoints⟩ := ih
    cases ht
    exact ⟨points, rfl, hpoints⟩
  | pick _ ht ih =>
    obtain ⟨points, rfl, -⟩ := ih
    obtain ⟨p, -, rfl⟩ := Option.map_eq_some_iff.mp ht
    exact ⟨[p], rfl, holds_singleton p⟩
  | element _ ht ih =>
    obtain ⟨points, rfl, -⟩ := ih
    obtain ⟨p, -, rfl⟩ := List.mem_map.mp ht
    exact ⟨[p], rfl, holds_singleton p⟩

/-- A search by location paths never gives a point twice, and it gives points in document order as
long as no step starts from points whose candidates interleave.  A double slash before a child gives
the nodes below the document that pass the test, but by the order of their parents. -/
theorem reached_in_order {document : String} {spread : Spread} {s : Selection}
    (h : Reached document spread s) :
    ∃ points : List (Point (Html.Document.ofText document)),
      s = .xpath _ points ∧ points.Nodup ∧ (spread ≠ .loose → InOrder points) ∧
        ∀ test, ((anywhere test).select points).Perm ((below test).select points) ∧
          InOrder ((below test).select points) ∧
          ((anywhere test).select points = (below test).select points ↔
            ParentsInOrder (Html.Document.ofText document) test) := by
  obtain ⟨points, rfl, hpoints⟩ := exists_points_of_reached h
  refine ⟨points, rfl, hpoints.nodup, hpoints.inOrder, ?_⟩
  intro test
  exact ⟨select_anywhere_perm test points, inOrder_select_below test points,
    select_anywhere_eq_iff test points⟩

/-- All paragraphs of a document. -/
theorem reached_in_order_paragraphs :
    ∃ points : List (Point (Html.Document.ofText "<p>1</p><p>2</p>")),
      Selection.find (.xpath _ [.node (Html.Document.ofText "<p>1</p><p>2</p>").rootId])
        "/descendant::p" = .ok (.xpath _ points) ∧ points.Nodup ∧ InOrder points := by
  have hpath : readPath "/descendant::p" = .ok (below (.name "p")) := by cbv
  have hfind := find_eq hpath [.node (Html.Document.ofText "<p>1</p><p>2</p>").rootId]
  have hs : Reached "<p>1</p><p>2</p>" .level _ := .start rfl
  obtain ⟨points, ht, hnodup, horder, -⟩ := reached_in_order (hs.find hpath hfind)
  refine ⟨points, ?_, hnodup, horder (fun h => by cases h)⟩
  rw [← ht]
  exact hfind

/-- A double slash lists the second of two elements first if the first one stands deeper. -/
theorem exists_path_out_of_order :
    ∃ points : List (Point (Html.Document.ofText "<i><b>1</b></i><b>2</b>")),
      Selection.find (.xpath _ [.node (Html.Document.ofText "<i><b>1</b></i><b>2</b>").rootId])
        "//b" = .ok (.xpath _ points) ∧ points.map Point.text = ["2", "1"] ∧ ¬InOrder points ∧
      Selection.find (.xpath _ [.node (Html.Document.ofText "<i><b>1</b></i><b>2</b>").rootId])
        "/descendant::b" ≠ .ok (.xpath _ points) := by
  have hanywhere : readPath "//b" = .ok (anywhere (.name "b")) := by cbv
  have hbelow : readPath "/descendant::b" = .ok (below (.name "b")) := by cbv
  have htexts : ((anywhere (.name "b")).select
      [.node (Html.Document.ofText "<i><b>1</b></i><b>2</b>").rootId]).map Point.text =
        ["2", "1"] := by cbv
  have htexts' : ((below (.name "b")).select
      [.node (Html.Document.ofText "<i><b>1</b></i><b>2</b>").rootId]).map Point.text =
        ["1", "2"] := by cbv
  have hne : (anywhere (.name "b")).select
      [.node (Html.Document.ofText "<i><b>1</b></i><b>2</b>").rootId] ≠
        (below (.name "b")).select
          [.node (Html.Document.ofText "<i><b>1</b></i><b>2</b>").rootId] := by
    intro heq
    rw [heq, htexts'] at htexts
    exact absurd htexts (by decide)
  refine ⟨_, find_eq hanywhere _, htexts, ?_, ?_⟩
  · intro horder
    exact hne (select_anywhere_eq_of_inOrder horder)
  · intro heq
    rw [find_eq hbelow] at heq
    exact hne (eq_of_heq (Selection.xpath.inj (Except.ok.inj heq)).2).symm

end DocQuery
