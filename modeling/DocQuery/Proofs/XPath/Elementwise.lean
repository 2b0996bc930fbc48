import DocQuery.Proofs.XPath.Reading

/-! Searches from many points and from one.  A point found twice is dropped after every step, but the
conditions of a step look at the candidates of one point at a time, so that nothing is lost by that:
what is found from many points is what is found from each of them, one after the other.  From one
point there is found what a chain of candidates leads to. -/

namespace DocQuery

section Distinct

variable {α β : Type} [BEq α] [LawfulBEq α]

theorem eraseDups_append_filter (l m : List α) :
    (l ++ m).eraseDups = l.eraseDups ++ m.eraseDups.filter fun x => !l.elem x := by
  rw [List.eraseDups_append, List.removeAll, eraseDups_filter]

theorem elem_congr {l m : List α} (h : ∀ x, x ∈ l ↔ x ∈ m) (x : α) : l.elem x = m.elem x := by
  rw [Bool.eq_iff_iff, List.elem_iff, List.elem_iff, h]

/-- What has been dropped before an expansion would be dropped after it. -/
theorem eraseDups_flatMap_eraseDups [BEq β] [LawfulBEq β] (f : α → List β) (l : List α) :
    (l.eraseDups.flatMap f).eraseDups = (l.flatMap f).eraseDups := by
  -- On the last element: it is dropped if it stands in front of the end, too.
  induction l using List.reverseRecOn with
  | nil => rfl
  | append_singleton l a ih =>
    have hmem : ∀ x, x ∈ l.eraseDups.flatMap f ↔ x ∈ l.flatMap f := by simp
    rw [List.flatMap_append, eraseDups_append_filter (l.flatMap f), eraseDups_append_filter l]
    by_cases ha : a ∈ l
    · have hsingle : [a].eraseDups.filter (fun x => !l.elem x) = [] := by
        simp [List.eraseDups_cons, ha]
      rw [hsingle, List.append_nil, ih, List.filter_eq_nil_iff.mpr, List.append_nil]
      intro x hx
      have hxl : x ∈ l.flatMap f := List.mem_flatMap.mpr ⟨a, ha, by simpa using hx⟩
      simpa using hxl
    · have hsingle : [a].eraseDups.filter (fun x => !l.elem x) = [a] := by
        simp [List.eraseDups_cons, ha]
      rw [hsingle, List.flatMap_append, eraseDups_append_filter, ih]
      simp only [elem_congr hmem]

/-- It does not matter either whether each of several lists holds an element twice. -/
theorem eraseDups_flatMap_of_eraseDups (f : β → List α) (l : List β) :
    (l.flatMap fun b => (f b).eraseDups).eraseDups = (l.flatMap f).eraseDups := by
  induction l with
  | nil => rfl
  | cons b l ih =>
    rw [List.flatMap_cons, List.flatMap_cons, eraseDups_append_filter, eraseDups_append_filter, ih,
      eraseDups_of_nodup (nodup_eraseDups (f b))]
    simp only [elem_congr fun x => List.mem_eraseDups (l := f b)]

end Distinct

namespace XPath

open Html

variable {d : Document} {p x : Point d} {points : List (Point d)} {step : Step} {steps : List Step}

/-! ### The candidates of one point -/

/-- All points along an axis. -/
def Axis.along (axis : Axis) : Point d → List (Point d)
  | .node id =>
    match axis with
    | .child => (d.childIds id).map .node
    | .descendant => (d.descendants id).map .node
    | .descendantOrSelf => (d.subtree id).map .node
    | .self => [.node id]
    | .parent => ((d.parent id).map fun q => .node q.val).toList
    | .attribute => attributesOf d id
  | .attribute owner name =>
    match axis with
    | .self => [.attribute owner name]
    | .parent => [.node owner]
    | _ => []

/-- Whether a point passes a test.  Away from their own axis attributes have no name. -/
def NodeTest.admits (test : NodeTest) (axis : Axis) : Point d → Bool
  | .node id => test.accepts (d.label id)
  | .attribute _ key => if axis = .attribute then test.acceptsAttribute key else test == .node

theorem reach_eq_filter (step : Step) (p : Point d) :
    step.reach p = (step.axis.along p).filter (step.test.admits step.axis) := by
  obtain ⟨axis, test, conditions⟩ := step
  have hnodes : ∀ ids : List d.Id,
      (ids.filter fun i => test.accepts (d.label i)).map Point.node =
        (ids.map Point.node).filter (test.admits axis) := by
    intro ids
    rw [List.filter_map]
    rfl
  cases p with
  | node id =>
    cases axis with
    | child => exact hnodes _
    | descendant => exact hnodes _
    | descendantOrSelf => exact hnodes _
    | self => exact hnodes [id]
    | parent =>
      have hparent : ((d.parent id).map fun q => Point.node q.val).toList =
          ((d.parent id).map Subtype.val).toList.map Point.node := by
        cases d.parent id <;> rfl
      rw [Axis.along, hparent]
      exact hnodes _
    | «attribute» =>
      refine List.filter_congr fun q hq => ?_
      obtain ⟨name, rfl⟩ := mem_attributesOf hq
      rfl
  | «attribute» owner name =>
    cases axis with
    | parent =>
      rw [Axis.along, List.filter_cons]
      rfl
    | self => cases test <;> rfl
    | _ => rfl

/-- `x` is reached from `p` along a chain: each point is one of the candidates of the point before
it, taken alone, that the conditions of the step keep one after the other. -/
inductive Chain : List Step → Point d → Point d → Prop
  | nil (p : Point d) : Chain [] p p
  | cons {step : Step} {steps : List Step} {p y x : Point d}
    (hstep : y ∈ step.conditions.foldl (fun candidates condition => condition.keep candidates)
      ((step.axis.along p).filter (step.test.admits step.axis)))
    (hsteps : Chain steps y x) : Chain (step :: steps) p x

/-- The ends of all chains from a point, one after the other. -/
def chainEnds : List Step → Point d → List (Point d)
  | [], p => [p]
  | step :: steps, p => (step.fromPoint p).flatMap (chainEnds steps)

theorem mem_chainEnds : x ∈ chainEnds steps p ↔ Chain steps p x := by
  induction steps generalizing p with
  | nil =>
    rw [chainEnds, List.mem_singleton]
    constructor
    · rintro rfl
      exact .nil x
    · rintro ⟨⟩
      rfl
  | cons step steps ih =>
    rw [chainEnds, List.mem_flatMap, Step.fromPoint, reach_eq_filter]
    constructor
    · rintro ⟨y, hy, hx⟩
      exact .cons hy (ih.mp hx)
    · rintro (_ | ⟨hy, hx⟩)
      exact ⟨_, hy, ih.mpr hx⟩

/-! ### Paths from many points -/

theorem eraseDups_foldl_apply (steps : List Step) (points : List (Point d)) :
    (steps.foldl (fun points step => step.apply points) points).eraseDups =
      (points.flatMap (chainEnds steps)).eraseDups := by
  induction steps generalizing points with
  | nil => simp [chainEnds]
  | cons step steps ih =>
    rw [List.foldl_cons, ih, apply_eq, eraseDups_flatMap_eraseDups, List.flatMap_assoc]
    rfl

theorem nodup_foldl_apply (hsteps : steps ≠ []) (points : List (Point d)) :
    (steps.foldl (fun points step => step.apply points) points).Nodup := by
  cases steps with
  | nil => exact absurd rfl hsteps
  | cons step steps =>
    have hfirst : Spread.loose.Holds (step.apply points) := nodup_apply step points
    exact (holds_foldl hfirst).nodup

/-- A path that takes a step finds the ends of its chains, each where it comes first. -/
theorem select_eq_chainEnds {path : Path} (hrelative : path.isAbsolute = false)
    (hsteps : path.steps ≠ []) (points : List (Point d)) :
    path.select points = (points.flatMap (chainEnds path.steps)).eraseDups := by
  rw [Path.select, hrelative, ← eraseDups_foldl_apply]
  exact (eraseDups_of_nodup (nodup_foldl_apply hsteps points)).symm

theorem steps_ne_nil_of_relative {text : String} {path : Path} (h : readPath text = .ok path)
    (hrelative : path.isAbsolute = false) : path.steps ≠ [] := by
  obtain ⟨step, rest, -, hsteps⟩ := readSteps_eq_ok.mp (steps_of_relative h hrelative).1
  rcases hsteps with ⟨_, _, _, _, heq⟩ | ⟨_, ⟨_, _, _, _, heq⟩ | ⟨_, _, heq⟩⟩ <;>
    rw [← heq] <;> exact List.cons_ne_nil _ _

end XPath

open XPath

/-- A search by a relative path finds what it finds from each point alone, one after the other, and
each of it once.  From one point it finds what the chains of the path lead to. -/
theorem find_elementwise {selector : String} {path : Path} (hpath : readPath selector = .ok path)
    (hrelative : path.isAbsolute = false) {d : Html.Document} (points : List (Point d)) :
    ∃ (found : List (Point d)) (piece : Point d → List (Point d)),
      (Selection.xpath d points).find selector = .ok (.xpath d found) ∧ found.Nodup ∧
      found = (points.flatMap piece).eraseDups ∧
      ∀ i p, points[i]? = some p →
        ∃ s, (Selection.xpath d points).at? i = some s ∧
          s.find selector = .ok (.xpath d (piece p)) ∧ ∀ x, x ∈ piece p ↔ Chain path.steps p x := by
  have hsteps := steps_ne_nil_of_relative hpath hrelative
  have hselect := select_eq_chainEnds (d := d) hrelative hsteps
  have hpiece : ∀ p : Point d, path.select [p] = (chainEnds path.steps p).eraseDups := by
    intro p
    rw [hselect, List.flatMap_singleton]
  refine ⟨path.select points, fun p => path.select [p], find_eq hpath points, ?_, ?_, ?_⟩
  · rw [hselect]
    exact nodup_eraseDups _
  · simp only [hpiece, eraseDups_flatMap_of_eraseDups, hselect]
  · intro i p hp
    refine ⟨.xpath d [p], ?_, find_eq hpath [p], fun x => ?_⟩
    · rw [Selection.at?, hp]
      rfl
    · dsimp only
      rw [hpiece, List.mem_eraseDups, mem_chainEnds]

/-- Two elements, one of them below another element. -/
def bolds : Html.Document := .ofText "<i><b>1</b></i><b>2</b>"

/-- From every node the first `b` below it, which is the same one for several nodes. -/
theorem find_elementwise_first :
    ∃ (found : List (Point bolds)) (piece : Point bolds → List (Point bolds)),
      (Selection.xpath bolds (everything bolds)).find "descendant::b[1]" = .ok (.xpath _ found) ∧
        found.Nodup ∧ found = ((everything bolds).flatMap piece).eraseDups ∧
        found.map Point.text = ["1"] := by
  have hpath : readPath "descendant::b[1]" =
      .ok ⟨false, [{ axis := .descendant, test := .name "b", conditions := [.position 1] }]⟩ := by
    cbv
  obtain ⟨found, piece, hfind, hnodup, hfound, -⟩ :=
    find_elementwise hpath rfl (everything bolds)
  refine ⟨found, piece, hfind, hnodup, hfound, ?_⟩
  rw [find_eq hpath] at hfind
  obtain rfl := eq_of_heq (Selection.xpath.inj (Except.ok.inj hfind)).2
  cbv

end DocQuery
