import DocQuery.Proofs.Evaluation.Frequency

/-! Visits.  An evaluation visits a field once in each context that the iteration of the fields
above it gives, and each visit adds the errors of the field's pipeline and of its scalar.  Among the
children of a field one at most leads to visits of `n`: those before it lie before `n`, and from
those behind it only references lead there, and only if `n` is a child itself. -/

namespace DocQuery

open Evaluation Evaluating
open Reference (Raised)

variable {program : Program}

namespace Reference

variable (registry : Registry)

/-- The fields that an evaluation visits, each with the context of the visit. -/
def visits (here : Context program) (id : program.Id) : List (Context program × program.Id) :=
  (here, id) ::
    match selection registry here id with
    | none => []
    | some s =>
      match (program.field id).type with
      | .text | .number => []
      | .object => (program.children id).flatMap fun ⟨c, _⟩ => visits here c
      | .array | .objects =>
        s.elements.flatMap fun element =>
          (program.children id).flatMap fun ⟨c, _⟩ => visits (here.enter id element) c
termination_by program.size - id.val
decreasing_by all_goals exact Nat.sub_lt_sub_left id.isLt ‹_›

/-- The visits of a run on a document. -/
def runVisits (program : Program) (registry : Registry) (document : String) :
    List (Context program × program.Id) :=
  program.topLevel.flatMap fun ⟨c, _⟩ => visits registry (.start program document) c

/-- Errors of the scalar of a field under a context. -/
def scalarErrors (here : Context program) (id : program.Id) : List EvaluationError :=
  match selection registry here id with
  | none => []
  | some s =>
    match (program.field id).type with
    | .text | .number =>
      match scalar (program.field id).type s with
      | .ok _ => []
      | .error e => [.value e]
    | .object | .array | .objects => []

/-- Errors that a visit raises itself: those of the pipeline and of the scalar. -/
def ownErrors (visit : Context program × program.Id) : Raised program :=
  (operationErrors registry visit.1 visit.2 ++ scalarErrors registry visit.1 visit.2).map
    fun error => (visit.2, error)

variable {registry} {here : Context program} {id n : program.Id} {P : EvaluationError → Bool}

theorem visits_eq : visits registry here id = (here, id) :: (visits registry here id).tail := by
  rw [visits]
  rfl

theorem self_mem_visits : (here, id) ∈ visits registry here id := by
  rw [visits_eq]
  exact List.mem_cons_self

/-- The other visits are those of children. -/
theorem exists_of_mem_tail_visits {visit : Context program × program.Id}
    (h : visit ∈ (visits registry here id).tail) :
    ∃ c ∈ program.children id, ∃ here', visit ∈ visits registry here' c.val := by
  rw [visits, List.tail_cons] at h
  split at h
  · cases h
  split at h
  · cases h
  · cases h
  · obtain ⟨c, hc, hvisit⟩ := List.mem_flatMap.mp h
    exact ⟨c, hc, here, hvisit⟩
  · obtain ⟨element, -, h⟩ := List.mem_flatMap.mp h
    obtain ⟨c, hc, hvisit⟩ := List.mem_flatMap.mp h
    exact ⟨c, hc, here.enter id element, hvisit⟩
  · obtain ⟨element, -, h⟩ := List.mem_flatMap.mp h
    obtain ⟨c, hc, hvisit⟩ := List.mem_flatMap.mp h
    exact ⟨c, hc, here.enter id element, hvisit⟩

theorem mem_visits {visit : Context program × program.Id} (h : visit ∈ visits registry here id) :
    id ≤ visit.2 ∧ visit.2.val < program.tree.stop id := by
  induction hk : program.size - id.val using Nat.strongRecOn generalizing id here with
  | ind k ih =>
  subst hk
  rw [visits_eq] at h
  rcases List.mem_cons.mp h with rfl | h
  · exact ⟨le_rfl, Layout.lt_stop id⟩
  obtain ⟨c, hc, here', hvisit⟩ := exists_of_mem_tail_visits h
  obtain ⟨hle, hlt⟩ := ih _ (Nat.sub_lt_sub_left id.isLt c.property) hvisit rfl
  exact ⟨c.property.le.trans hle, Nat.lt_of_lt_of_le hlt (Layout.stop_child_le hc)⟩

theorem ne_of_mem_visits {visit : Context program × program.Id}
    (h : n < id ∨ program.tree.stop id ≤ n.val) (hvisit : visit ∈ visits registry here id) :
    visit.2 ≠ n := by
  rintro rfl
  obtain ⟨hle, hlt⟩ := mem_visits hvisit
  rcases h with hlow | hhigh
  · exact absurd hle (not_le.mpr hlow)
  · exact absurd hlt (not_lt.mpr hhigh)

theorem tally_ownErrors_of_ne {l : List (Context program × program.Id)}
    (h : ∀ visit ∈ l, visit.2 ≠ n) : tally (l.flatMap (ownErrors registry)) n P = 0 := by
  rw [tally, List.countP_eq_zero]
  intro p hp
  obtain ⟨visit, hvisit, hp⟩ := List.mem_flatMap.mp hp
  obtain ⟨error, -, rfl⟩ := List.mem_map.mp hp
  simp [h visit hvisit]

/-- A field is visited once by its own evaluation. -/
theorem tally_visits_self : tally ((visits registry here n).flatMap (ownErrors registry)) n P =
    (operationErrors registry here n).countP P + (scalarErrors registry here n).countP P := by
  have hbelow : ∀ visit ∈ (visits registry here n).tail, visit.2 ≠ n := by
    rintro visit hvisit rfl
    obtain ⟨c, -, here', hvisit⟩ := exists_of_mem_tail_visits hvisit
    exact absurd (mem_visits hvisit).1 (not_le.mpr c.property)
  rw [visits_eq, List.flatMap_cons, tally_append, tally_ownErrors_of_ne hbelow, ownErrors,
    tally_self, List.countP_append, Nat.add_zero]

theorem tally_visits_of_apart {children : List { c : program.Id // id < c }}
    (h : ∀ c ∈ children, n < c.val ∨ program.tree.stop c.val ≤ n.val) :
    tally ((children.flatMap fun c => visits registry here c.val).flatMap (ownErrors registry))
      n P = 0 := by
  refine tally_ownErrors_of_ne fun visit hvisit => ?_
  obtain ⟨c, hc, hvisit⟩ := List.mem_flatMap.mp hvisit
  exact ne_of_mem_visits (h c hc) hvisit

/-- Of the children of a field at most one leads to visits of another field. -/
theorem tally_visits_of_split (registry : Registry) (here : Context program)
    {before after : List { c : program.Id // id < c }} (c : { c : program.Id // id < c })
    (hbefore : ∀ b ∈ before, n < b.val ∨ program.tree.stop b.val ≤ n.val)
    (hafter : ∀ a ∈ after, n < a.val ∨ program.tree.stop a.val ≤ n.val) :
    tally (((before ++ c :: after).flatMap fun c => visits registry here c.val).flatMap
        (ownErrors registry)) n P =
      tally ((visits registry here c.val).flatMap (ownErrors registry)) n P := by
  simp only [List.flatMap_append, List.flatMap_cons, tally_append, tally_visits_of_apart hbefore,
    tally_visits_of_apart hafter, Nat.zero_add, Nat.add_zero]

end Reference

/-- The slot of a field stays filled after a visit: there is a selection, and the field does not
belong to an object. -/
def Keeps (registry : Registry) (here : Context program) (n : program.Id) : Prop :=
  (Reference.selection registry here n).isSome ∧ ∀ q, (program.tree.slot n).parent = some q →
    q = program.root ∨ (program.field q).type ≠ .object

/-- No reference adds to the record of a field: there is none, or every visit either keeps the slot
filled or raises no error of the sort in the pipeline. -/
def Settled (registry : Registry) (n : program.Id) (P : EvaluationError → Bool)
    (visits : List (Context program × program.Id)) : Prop :=
  (∀ z, ¬Refers z n) ∨ ∀ visit ∈ visits, visit.2 = n →
    (Reference.operationErrors registry visit.1 n).countP P = 0 ∨ Keeps registry visit.1 n

theorem Settled.mono {registry : Registry} {n : program.Id} {P : EvaluationError → Bool}
    {l l' : List (Context program × program.Id)} (h : Settled registry n P l) (hle : l' ⊆ l) :
    Settled registry n P l' :=
  h.imp_right fun h visit hvisit => h visit (hle hvisit)

/-- After the visit of a field that is `n` or lies above it, nothing behind the field adds to the
record of `n`, or the visit was to `n` and keeps its slot filled. -/
theorem Settled.after {registry : Registry} {here : Context program} {n c : program.Id}
    {P : EvaluationError → Bool} {l : List (Context program × program.Id)}
    (h : Settled registry n P l) (hmem : (here, c) ∈ l) (hcn : c ≤ n)
    (hnc : n.val < program.tree.stop c) :
    (∀ a : program.Id, program.tree.stop c ≤ a.val → Silent registry here n P a) ∨
      c = n ∧ Keeps registry here n := by
  rcases hcn.eq_or_lt with rfl | hlt
  · rcases h with halone | hvisits
    · exact .inl fun a ha => .inl (.inr (.inr ⟨halone, ha⟩))
    · exact (hvisits _ hmem rfl).imp (fun hnone _ _ => .inr hnone) fun hkeeps => ⟨rfl, hkeeps⟩
  · obtain ⟨p, hp, hcp, hpn⟩ := Layout.exists_parent_of_lt hlt hnc
    have hstop := Layout.stop_le_stop hcp (Nat.lt_trans hpn hnc)
    exact .inl fun a ha => .inl (.inr (.inl ⟨p, hp, Nat.le_trans hstop ha⟩))

namespace Evaluating

variable {α β : Type} {registry : Registry} {here : Context program} {bound : Nat}
  {n id c : program.Id} {P : EvaluationError → Bool}

/-- The slots of a subtree are empty. -/
structure Fresh (c : program.Id) (e : Evaluation program) : Prop where
  empty (x : program.Id) : c ≤ x → x.val < program.tree.stop c → e.cache[x] = none

/-- The slots below a field are empty. -/
structure FreshBelow (id : program.Id) (e : Evaluation program) : Prop where
  empty (x : program.Id) : id < x → x.val < program.tree.stop id → e.cache[x] = none

/-- How a computation that visits a field adds to the record of `n`: nothing if the field lies
apart, and the errors of the visits if `n` is the field or lies below it. -/
structure Counted (registry : Registry) (here : Context program) (bound : Nat) (n : program.Id)
    (P : EvaluationError → Bool) (c : program.Id) (m : Evaluating program α) : Prop where
  coherent {e} : Coherent registry here bound e → Coherent registry here bound (m.run e).2
  frame {e} : Coherent registry here bound e → ∀ x : program.Id, program.tree.stop c ≤ x.val →
    (m.run e).2.cache[x] = e.cache[x]
  apart {e} : n < c ∨ program.tree.stop c ≤ n.val → Coherent registry here bound e →
    Tallies n P [] (Silent registry here n P c) e (m.run e).2
  own {e} : c ≤ n → n.val < program.tree.stop c → Coherent registry here bound e → Fresh c e →
    Adds n P ((Reference.visits registry here c).flatMap (Reference.ownErrors registry))
      (Settled registry n P (Reference.visits registry here c)) e (m.run e).2
  kept {e} : c = n → Keeps registry here n → Coherent registry here bound e →
    (m.run e).2.cache[n].isSome

namespace Counted

theorem map {m : Evaluating program α} (h : Counted registry here bound n P c m) (f : α → β) :
    Counted registry here bound n P c (do return f (← m)) :=
  ⟨h.coherent, h.frame, h.apart, h.own, h.kept⟩

section Row

variable {children : List { c : program.Id // id < c }}
  {body : { c : program.Id // id < c } → Evaluating program α}
  (h : ∀ c ∈ children, Counted registry here bound n P c.val (body c))
include h

theorem row_apart (hn : ∀ c ∈ children, n < c.val ∨ program.tree.stop c.val ≤ n.val) :
    Tallying (Coherent registry here bound) n P []
      (∀ c ∈ children, Silent registry here n P c.val) (children.mapM body) :=
  Tallying.mapM_nil fun c hc _ he =>
    ⟨(h c hc).coherent he, ((h c hc).apart (hn c hc) he).mono fun hsilent => hsilent c hc⟩

theorem row_coherent {e : Evaluation program} (he : Coherent registry here bound e) :
    Coherent registry here bound ((children.mapM body).run e).2 := by
  induction children generalizing e with
  | nil => exact he
  | cons c children ih =>
    rw [List.mapM_cons]
    exact ih (fun d hd => h d (List.mem_cons_of_mem c hd)) ((h c List.mem_cons_self).coherent he)

theorem row_frame {x : program.Id} (hx : ∀ c ∈ children, program.tree.stop c.val ≤ x.val)
    {e : Evaluation program} (he : Coherent registry here bound e) :
    ((children.mapM body).run e).2.cache[x] = e.cache[x] := by
  induction children generalizing e with
  | nil => rfl
  | cons c children ih =>
    have hc := h c List.mem_cons_self
    rw [List.mapM_cons]
    refine (ih (fun d hd => h d (List.mem_cons_of_mem c hd))
      (fun d hd => hx d (List.mem_cons_of_mem c hd)) (hc.coherent he)).trans ?_
    exact hc.frame he x (hx c List.mem_cons_self)

/-- Visits of all children of a field, one of which is `n` or lies above it.  The children before
that one lie before `n`, and from those behind it nothing leads to `n`, unless it is a child. -/
theorem row (hn : id < n) (hstop : n.val < program.tree.stop id)
    (hchildren : children = program.children id) {e : Evaluation program}
    (he : Coherent registry here bound e) (hfresh : FreshBelow id e) :
    Adds n P ((children.flatMap fun c => Reference.visits registry here c.val).flatMap
        (Reference.ownErrors registry))
      (Settled registry n P (children.flatMap fun c => Reference.visits registry here c.val)) e
      ((children.mapM body).run e).2 := by
  obtain ⟨before, c, after, hsplit, ⟨hcn, hnc⟩, hbefore, hafter⟩ :=
    Program.exists_split_children hn hstop
  obtain rfl := hchildren.trans hsplit
  have hmem : ∀ b ∈ before, b ∈ before ++ c :: after := fun b => List.mem_append_left _
  have hlater : ∀ a ∈ after, a ∈ before ++ c :: after := fun a ha =>
    List.mem_append_right before (List.mem_cons_of_mem c ha)
  have hlast : c ∈ before ++ c :: after := List.mem_append_right before List.mem_cons_self
  have hc := h c hlast
  -- The children before `c` lie before `n`, and they leave the slots of `c` empty.
  have hlow : ∀ b ∈ before, b.val < n := fun b hb =>
    Nat.lt_of_lt_of_le (Layout.lt_stop b.val) (Nat.le_trans (hbefore b hb) hcn)
  have hapart1 : ∀ b ∈ before, n < b.val ∨ program.tree.stop b.val ≤ n.val := fun b hb =>
    .inr (Nat.le_trans (hbefore b hb) hcn)
  obtain ⟨he1, hstep1⟩ := row_apart (fun b hb => h b (hmem b hb)) hapart1 e he
  have hfresh1 : Fresh c.val ((before.mapM body).run e).2 := by
    refine ⟨fun x hcx hx => ?_⟩
    rw [row_frame (fun b hb => h b (hmem b hb))
      (fun b hb => Nat.le_trans (hbefore b hb) hcx) he]
    rw [← hsplit] at hlast
    exact hfresh.empty x (lt_of_lt_of_le c.property hcx)
      (Nat.lt_of_lt_of_le hx (Layout.stop_child_le hlast))
  -- The children behind `c` add nothing, or they find the slot of `n` filled.
  have hapart3 : ∀ a ∈ after, n < a.val ∨ program.tree.stop a.val ≤ n.val := fun a ha =>
    .inl (Fin.lt_def.mpr (Nat.lt_of_lt_of_le hnc (hafter a ha)))
  obtain ⟨-, hstep3⟩ := row_apart (fun a ha => h a (hlater a ha)) hapart3 _ (hc.coherent he1)
  have htally := Reference.tally_visits_of_split registry here c (P := P) hapart1 hapart3
  have hvisits : Reference.visits registry here c.val ⊆
      (before ++ c :: after).flatMap fun c => Reference.visits registry here c.val :=
    fun visit hvisit => List.mem_flatMap.mpr ⟨c, hlast, hvisit⟩
  generalize (before ++ c :: after).flatMap (fun c => Reference.visits registry here c.val) =
    all at hvisits htally ⊢
  have hadds1 := hstep1.adds.mono fun _ : Settled registry n P all =>
    .inl fun b hb => .inl (.inl (hlow b hb))
  have hadds2 := (hc.own hcn hnc he1 hfresh1).mono fun hsettled : Settled registry n P all =>
    hsettled.mono hvisits
  have hadds3 := hstep3.adds.mono fun hsettled : Settled registry n P all =>
    (hsettled.after (hvisits Reference.self_mem_visits) hcn hnc).imp
      (fun hsilent a ha => hsilent a.val (hafter a ha))
      fun hkept => hc.kept hkept.1 hkept.2 he1
  rw [List.mapM_append, List.mapM_cons]
  refine (hadds1.trans (hadds2.trans hadds3)).congr ?_
  rw [List.nil_append, List.append_nil, htally]

end Row

/-- A member of an object does not keep its slot filled. -/
theorem member {c : { c : program.Id // id < c }} (hc : c ∈ program.children id)
    (hroot : id ≠ program.root) (hobject : (program.field id).type = .object)
    (hnone : here c.val = none)
    (h : Counted registry here bound n P c.val (evaluate registry c.val)) :
    Counted registry here bound n P c.val (do
      let value ← evaluate registry c.val
      setCached c.val none
      return ((program.field c.val).name, value)) where
  coherent he := (h.coherent he).set hnone (by simp)
  frame he x hx := by
    have hne : x ≠ c.val := by
      rintro rfl
      exact Nat.not_lt.mpr hx (Layout.lt_stop _)
    refine Eq.trans ?_ (h.frame he x hx)
    change (Vector.set _ c.val none)[x] = _
    rw [getElem_set_id, if_neg hne]
    rfl
  apart hn he := by
    refine (h.apart hn he).trans (tallies_setCached (fun hcn => ?_) _)
    subst hcn
    have hlt := Layout.lt_stop c.val
    rcases hn with hn | hn
    · exact absurd hn (lt_irrefl _)
    · omega
  own hcn hnc he hfresh := by
    have hadds := h.own hcn hnc he hfresh
    exact ⟨hadds.least, hadds.same⟩
  kept hcn hkeeps := by
    subst hcn
    rcases hkeeps.2 id (Program.parent_of_mem_children hc) with heq | hne
    · exact absurd heq hroot
    · exact absurd hobject hne

end Counted

end Evaluating

end DocQuery
