import Mathlib
import DocQuery.Proofs.Evaluation.Run
import DocQuery.Proofs.Evaluation.Visits

/-! How often a run records the errors of a field: at least as often as its visits raise them.  What
is added besides comes from references to the field that find its slot empty after a visit, since
its pipeline failed or since the field belongs to an object, whose members are forgotten. -/

namespace DocQuery

open Evaluation Evaluating
open Reference (Raised)

variable {program : Program}

namespace Evaluating

variable {α : Type} {registry : Registry} {here : Context program}
  {n id : program.Id} {P : EvaluationError → Bool}

section Rounds

variable {element s : Selection} {exactly : Prop}

/-- A move to an element or back empties no slot outside the subtree, and the field's own is
filled. -/
theorem tallies_moved {e : Evaluation program} {cache : Vector (Option Selection) program.size}
    (hn : n ≤ id ∨ program.tree.stop id ≤ n.val) (h : Moved id s e.cache cache) :
    Tallies n P [] exactly e { e with cache } := by
  refine .of_tally (fun hfilled => ?_) rfl
  rw [h.slot n]
  split
  · rfl
  rw [if_neg]
  · exact hfilled
  rintro ⟨hlt, hstop⟩
  rcases hn with hn | hn
  · exact absurd hlt (not_lt.mpr hn)
  · omega

theorem tallying_round {row : Evaluating program α}
    (hn : n ≤ id ∨ program.tree.stop id ≤ n.val) (hbefore : here.Before id)
    (h : Tallying (Coherent registry (here.enter id element) (program.tree.stop id)) n P [] exactly
      row) :
    Tallying (Coherent registry here id.val) n P [] exactly
      (do setCached id (some element); forgetBelow id; row) := by
  intro e he
  obtain ⟨cache, hrun, hmoved⟩ := enter_run id element e
  obtain ⟨he1, hstep⟩ := h _ (hmoved.enter hbefore he)
  rw [← bind_assoc, run_bind_of hrun]
  exact ⟨he1.leave, (tallies_moved hn hmoved).trans hstep⟩

theorem tallies_iterate {row : Selection → Evaluating program α}
    (hn : n ≤ id ∨ program.tree.stop id ≤ n.val) (hbefore : here.Before id)
    (h : ∀ element, Tallying (Coherent registry (here.enter id element) (program.tree.stop id)) n P
      [] exactly (row element))
    (f : List α → Value) {e : Evaluation program} (he : Coherent registry here id.val e) :
    Tallies n P [] exactly e ((do
      let rows ← s.elements.mapM fun element => do
        setCached id (some element)
        forgetBelow id
        row element
      forgetBelow id
      setCached id (some s)
      return f rows : Evaluating program Value).run e).2 := by
  obtain ⟨rows, e1, hrun1⟩ : ∃ rows e1, (s.elements.mapM fun element => (do
      setCached id (some element)
      forgetBelow id
      row element : Evaluating program α)).run e = (rows, e1) := ⟨_, _, rfl⟩
  obtain ⟨cache, hrun2, hmoved⟩ := leave_run id s e1
  have hrounds := Tallying.mapM_nil (l := s.elements) fun element _ =>
    tallying_round hn hbefore (h element)
  have hstep := (hrounds e he).2
  rw [hrun1] at hstep
  rw [run_bind_of hrun1, ← bind_assoc, run_bind_of hrun2]
  exact hstep.trans (tallies_moved hn hmoved)

theorem adds_round {row : Evaluating program α} {own : Raised program} (hbefore : here.Before id)
    (h : ∀ e, Coherent registry (here.enter id element) (program.tree.stop id) e →
      FreshBelow id e →
        Coherent registry (here.enter id element) (program.tree.stop id) (row.run e).2 ∧
          Adds n P own exactly e (row.run e).2)
    {e : Evaluation program} (he : Coherent registry here id.val e) :
    Coherent registry here id.val
        ((do setCached id (some element); forgetBelow id; row : Evaluating program α).run e).2 ∧
      Adds n P own exactly e
        ((do setCached id (some element); forgetBelow id; row : Evaluating program α).run e).2 := by
  obtain ⟨cache, hrun, hmoved⟩ := enter_run id element e
  -- The move empties the slots below, whatever the round before left there.
  obtain ⟨he1, hadds⟩ := h _ (hmoved.enter hbefore he) ⟨fun x hid hx => by
    rw [hmoved.slot x, if_neg (Fin.ne_of_gt hid), if_pos ⟨hid, hx⟩]⟩
  rw [← bind_assoc, run_bind_of hrun]
  exact ⟨he1.leave, hadds.least, hadds.same⟩

theorem adds_mapM {γ : Type} {inv : Evaluation program → Prop} {l : List γ}
    {f : γ → Evaluating program α} {own : γ → Raised program}
    (h : ∀ x ∈ l, ∀ e, inv e → inv ((f x).run e).2 ∧ Adds n P (own x) exactly e ((f x).run e).2)
    {e : Evaluation program} (he : inv e) :
    Adds n P (l.flatMap own) exactly e ((l.mapM f).run e).2 := by
  induction l generalizing e with
  | nil => exact .of_tally rfl
  | cons x l ih =>
    obtain ⟨he1, hadds⟩ := h x List.mem_cons_self e he
    rw [List.mapM_cons, List.flatMap_cons]
    exact hadds.trans (ih (fun y hy => h y (List.mem_cons_of_mem x hy)) he1)

theorem adds_iterate {row : Selection → Evaluating program α} {own : Selection → Raised program}
    (hbefore : here.Before id)
    (h : ∀ element ∈ s.elements, ∀ e,
      Coherent registry (here.enter id element) (program.tree.stop id) e →
      FreshBelow id e →
        Coherent registry (here.enter id element) (program.tree.stop id) ((row element).run e).2 ∧
          Adds n P (own element) exactly e ((row element).run e).2)
    (f : List α → Value) {e : Evaluation program} (he : Coherent registry here id.val e) :
    Adds n P (s.elements.flatMap own) exactly e ((do
      let rows ← s.elements.mapM fun element => do
        setCached id (some element)
        forgetBelow id
        row element
      forgetBelow id
      setCached id (some s)
      return f rows : Evaluating program Value).run e).2 := by
  have hadds := adds_mapM (fun element helement _ he => adds_round hbefore (h element helement) he)
    he
  exact ⟨hadds.least, hadds.same⟩

end Rounds

theorem tallying_scalar (id : program.Id) (bound : Nat) (exactly : Prop) (empty : Value)
    (result : Except ValueError Value) :
    Tallying (Coherent registry here bound) n P
      ((match result with
        | .ok _ => []
        | .error error => [EvaluationError.value error]).map fun error => (id, error))
      exactly
      (match result with
      | .ok value => return value
      | .error error => do
        record id (.value error)
        return empty) := by
  cases result with
  | ok value => exact .pure value
  | error error =>
    exact (Tallying.record (computes_record registry here bound 0 id (.value error))).map

section Assemble

variable {s : Selection}
  (hchild : ∀ c ∈ program.children id, ∀ here' : Context program, here'.Before c.val →
    Counted registry here' (program.tree.stop id) n P c.val (evaluate registry c.val))
  (hroot : id ≠ program.root) (hbefore : here.Before id)
include hchild hroot hbefore

theorem counted_members (hobject : (program.field id).type = .object) :
    ∀ c ∈ program.children id, Counted registry here (program.tree.stop id) n P c.val (do
      let value ← evaluate registry c.val
      setCached c.val none
      return ((program.field c.val).name, value)) := fun c hc =>
  (hchild c hc here (hbefore.mono c.property)).member hc hroot hobject
    (hbefore.eq_none (Program.ne_root_of_lt c.property) c.property.le)

variable (hs : Reference.selection registry here id = some s)
include hs

/-- After its search a field that does not lie above `n` adds the error of its scalar. -/
theorem tallies_assemble (hn : n ≤ id ∨ program.tree.stop id ≤ n.val) {e : Evaluation program}
    (he : Coherent registry here (program.tree.stop id) e) :
    Tallies n P ((Reference.scalarErrors registry here id).map fun error => (id, error))
      (n ≠ id ∧ Silent registry here n P id) e ((assemble registry id s).run e).2 := by
  have hapart : ∀ c ∈ program.children id, n < c.val ∨ program.tree.stop c.val ≤ n.val :=
    fun c hc => hn.imp (fun hle => lt_of_le_of_lt hle c.property) fun hle =>
      Nat.le_trans (Layout.stop_child_le hc) hle
  have hsilent : n ≠ id ∧ Silent registry here n P id → ∀ here' : Context program,
      (∀ x < id, here x = here' x) → ∀ c ∈ program.children id, Silent registry here' n P c.val :=
    fun h here' hsame c hc =>
      h.2.below (hn.imp_left fun hle => lt_of_le_of_ne hle h.1) c.property
        (Nat.lt_of_lt_of_le (Layout.lt_stop c.val) (Layout.stop_child_le hc)) hsame
  have henter : ∀ element, ∀ x < id, here x = here.enter id element x := fun _ x hx =>
    (if_neg (Fin.ne_of_lt hx)).symm
  have hlow := he.narrow (Layout.lt_stop id).le
  rw [assemble, Reference.scalarErrors, hs]
  cases htype : (program.field id).type with
  | text | number =>
    dsimp only
    rw [Reference.scalar]
    by_cases hempty : s.isEmpty
    · rw [if_pos hempty, if_pos hempty]
      exact .refl e
    · rw [if_neg hempty, if_neg hempty]
      -- The result is a variable here, since unfolding it would read the text as a number.
      generalize Value.setScalar _ s.textContent = result
      exact (tallying_scalar id _ _ _ result e he).2
  | object =>
    have hmembers := counted_members hchild hroot hbefore htype
    have hrow := Counted.row_apart hmembers hapart e he
    exact hrow.2.mono fun h => hsilent h here fun _ _ => rfl
  | array =>
    refine tallies_iterate hn hbefore (fun element => ?_) _ hlow
    have hrow := Counted.row_apart (fun c hc =>
      hchild c hc (here.enter id element) (hbefore.enter c.property element)) hapart
    exact hrow.mono fun h => hsilent h _ (henter element)
  | objects =>
    refine tallies_iterate hn hbefore (fun element => ?_) _ hlow
    have hrow := Counted.row_apart (fun c hc =>
      (hchild c hc (here.enter id element) (hbefore.enter c.property element)).map
        fun value => ((program.field c.val).name, value)) hapart
    exact hrow.mono fun h => hsilent h _ (henter element)

/-- After its search a field above `n` adds what the visits of its children raise. -/
theorem adds_assemble (hn : id < n) (hstop : n.val < program.tree.stop id)
    {e : Evaluation program} (he : Coherent registry here (program.tree.stop id) e)
    (hfresh : FreshBelow id e) :
    Adds n P ((Reference.visits registry here id).tail.flatMap (Reference.ownErrors registry))
      (Settled registry n P (Reference.visits registry here id).tail) e
      ((assemble registry id s).run e).2 := by
  have hlow := he.narrow (Layout.lt_stop id).le
  have hround : ∀ element ∈ s.elements,
      (program.children id).flatMap (fun c =>
          Reference.visits registry (here.enter id element) c.val) ⊆
        s.elements.flatMap fun element => (program.children id).flatMap fun c =>
          Reference.visits registry (here.enter id element) c.val :=
    fun element helement visit hvisit => List.mem_flatMap.mpr ⟨element, helement, hvisit⟩
  rw [assemble, Reference.visits, List.tail_cons, hs]
  cases htype : (program.field id).type with
  | text | number =>
    dsimp only
    by_cases hempty : s.isEmpty
    · rw [if_pos hempty]
      exact .of_tally rfl
    · rw [if_neg hempty]
      generalize Value.setScalar _ s.textContent = result
      exact ((tallying_scalar id _ True _ result e he).2.adds.mono fun _ => .inl trivial).congr
        (Reference.tally_of_ne hn.ne)
  | object =>
    have hmembers := counted_members hchild hroot hbefore htype
    exact Counted.row hmembers hn hstop rfl he hfresh
  | array =>
    dsimp only
    rw [List.flatMap_assoc]
    refine adds_iterate hbefore (fun element helement e he hfresh => ?_) _ hlow
    have hrow := fun c hc =>
      hchild c hc (here.enter id element) (hbefore.enter c.property element)
    exact ⟨Counted.row_coherent hrow he, (Counted.row hrow hn hstop rfl he hfresh).mono
      fun hsettled => hsettled.mono (hround element helement)⟩
  | objects =>
    dsimp only
    rw [List.flatMap_assoc]
    refine adds_iterate hbefore (fun element helement e he hfresh => ?_) _ hlow
    have hrow := fun c hc =>
      (hchild c hc (here.enter id element) (hbefore.enter c.property element)).map
        fun value => ((program.field c.val).name, value)
    exact ⟨Counted.row_coherent hrow he, (Counted.row hrow hn hstop rfl he hfresh).mono
      fun hsettled => hsettled.mono (hround element helement)⟩

end Assemble

/-- An evaluation is a search, which changes no slot behind the field, and what is made of the
selection. -/
theorem evaluate_run {e : Evaluation program}
    (he : Coherent registry here (program.tree.stop id) e) :
    ∃ e1, (selection registry id).run e = (Reference.selection registry here id, e1) ∧
      Coherent registry here (program.tree.stop id) e1 ∧
      (∀ x : program.Id, id < x → e1.cache[x] = e.cache[x]) ∧
      ((evaluate registry id).run e).2 = match Reference.selection registry here id with
        | none => e1
        | some s => ((assemble registry id s).run e1).2 := by
  have hsearch := (computes_selection registry here id (Nat.lt_succ_self id.val)).raise le_rfl
    (Layout.lt_stop id)
  obtain ⟨e1, hrun1, he1, hstep1⟩ := hsearch e he
  refine ⟨e1, hrun1, he1, fun x hx => hstep1.frame x hx, ?_⟩
  rw [evaluate_eq, run_bind_of hrun1]
  cases Reference.selection registry here id <;> rfl

section Evaluate

variable (hchild : ∀ c ∈ program.children id, ∀ here' : Context program, here'.Before c.val →
    Counted registry here' (program.tree.stop id) n P c.val (evaluate registry c.val))
  (hroot : id ≠ program.root) (hbefore : here.Before id) {e : Evaluation program}
  (he : Coherent registry here (program.tree.stop id) e)
include hchild hroot hbefore he

/-- Evaluating a field that lies apart from `n` adds nothing, if it does not lead there. -/
theorem tallies_evaluate (hn : n < id ∨ program.tree.stop id ≤ n.val) :
    Tallies n P [] (Silent registry here n P id) e ((evaluate registry id).run e).2 := by
  obtain ⟨e1, hrun1, he1, -, hrun⟩ := evaluate_run he
  have hne : id ≠ n := by
    rintro rfl
    have hlt := Layout.lt_stop id
    rcases hn with hn | hn
    · exact lt_irrefl _ hn
    · omega
  have hstep1 := (tallying_selection n P id (Layout.lt_stop id) e he).2
  rw [hrun1] at hstep1
  rw [hrun]
  cases hs : Reference.selection registry here id with
  | none => exact hstep1
  | some s =>
    have hstep2 := tallies_assemble hchild hroot hbefore hs (hn.imp_left le_of_lt) he1
    exact hstep1.trans ((hstep2.mono fun hsilent => ⟨hne.symm, hsilent⟩).congr
      (Reference.tally_of_ne hne))

/-- Evaluating `n` itself with an empty slot adds the errors of one visit: the search fills the slot
or fails, and no child leads back to the field after that. -/
theorem adds_evaluate_self (hid : id = n) (hempty : e.cache[id] = none) :
    Adds n P ((Reference.visits registry here id).flatMap (Reference.ownErrors registry)) True e
      ((evaluate registry id).run e).2 := by
  subst hid
  obtain ⟨e1, hrun1, he1, -, hrun⟩ := evaluate_run he
  have hsearch := tallies_selection_of_empty (n := id) (P := P) (Layout.lt_stop id)
    (fun y hy => tallying_selection id P y (Nat.lt_trans hy (Layout.lt_stop id))) he hempty
  have hfills := (fills_selection registry id).filled e
  rw [hrun1] at hsearch hfills
  have hadds1 := hsearch.adds.mono fun _ : True => .inl (.inl rfl)
  rw [hrun]
  cases hs : Reference.selection registry here id with
  | none =>
    refine hadds1.congr ?_
    rw [Reference.tally_self, Reference.tally_visits_self, Reference.scalarErrors, hs]
    rfl
  | some s =>
    have hfilled : e1.cache[id].isSome := hfills (by rw [hs]; rfl)
    have hstep2 := tallies_assemble hchild hroot hbefore hs (.inl le_rfl) he1
    refine (hadds1.trans (hstep2.adds.mono fun _ => .inr hfilled)).congr ?_
    rw [Reference.tally_append, Reference.tally_self, Reference.tally_self,
      Reference.tally_visits_self]

/-- Evaluating `n` itself leaves its slot filled, if there is a selection. -/
theorem isSome_cache_evaluate (hid : id = n)
    (hs : (Reference.selection registry here id).isSome) :
    ((evaluate registry id).run e).2.cache[id].isSome := by
  subst hid
  obtain ⟨e1, hrun1, he1, -, hrun⟩ := evaluate_run he
  have hfills := (fills_selection registry id).filled e
  rw [hrun1] at hfills
  obtain ⟨s, hs⟩ := Option.isSome_iff_exists.mp hs
  have hfilled : e1.cache[id].isSome := hfills (by rw [hs]; rfl)
  rw [hrun, hs]
  exact (tallies_assemble hchild hroot hbefore hs (.inl le_rfl) he1).filled hfilled

/-- Evaluating a field above `n` adds the errors of the visits of its children. -/
theorem adds_evaluate_above (hn : id < n) (hstop : n.val < program.tree.stop id)
    (hfresh : Fresh id e) :
    Adds n P ((Reference.visits registry here id).flatMap (Reference.ownErrors registry))
      (Settled registry n P (Reference.visits registry here id)) e
      ((evaluate registry id).run e).2 := by
  obtain ⟨e1, hrun1, he1, hframe, hrun⟩ := evaluate_run he
  have hstep1 := (tallying_selection n P id (Layout.lt_stop id) e he).2
  rw [hrun1] at hstep1
  have hadds1 := hstep1.adds.mono fun _ : Settled registry n P
    (Reference.visits registry here id) => .inl (.inl (.inl hn))
  have hown : Reference.tally (Reference.ownErrors registry (here, id)) n P = 0 :=
    Reference.tally_of_ne hn.ne
  rw [hrun]
  cases hs : Reference.selection registry here id with
  | none =>
    refine hadds1.congr ?_
    rw [Reference.visits, hs]
    change _ = Reference.tally (_ ++ []) n P
    rw [List.append_nil, hown]
    rfl
  | some s =>
    have hadds2 := adds_assemble hchild hroot hbefore hs hn hstop he1
      ⟨fun x hx hlt => by rw [hframe x hx, hfresh.empty x hx.le hlt]⟩
    have hadds3 := hadds2.mono fun hsettled : Settled registry n P
      (Reference.visits registry here id) => hsettled.mono (List.tail_subset _)
    refine (hadds1.trans hadds3).congr ?_
    rw [Reference.visits_eq, List.flatMap_cons, Reference.tally_append, Reference.tally_append,
      hown]
    rfl

end Evaluate

theorem counted_evaluate (registry : Registry) (here : Context program) (n : program.Id)
    (P : EvaluationError → Bool) (id : program.Id) (hroot : id ≠ program.root)
    (hbefore : here.Before id) {bound : Nat} (hbound : program.tree.stop id ≤ bound) :
    Counted registry here bound n P id (evaluate registry id) := by
  induction hk : program.size - id.val using Nat.strongRecOn generalizing id here bound with
  | ind k ih =>
  subst hk
  have hchild : ∀ c ∈ program.children id, ∀ here' : Context program, here'.Before c.val →
      Counted registry here' (program.tree.stop id) n P c.val (evaluate registry c.val) :=
    fun c hc here' hbefore' => ih _ (Nat.sub_lt_sub_left id.isLt c.property) here' c.val
      (Program.ne_root_of_lt c.property) hbefore' (Layout.stop_child_le hc) rfl
  have hcomputes := (computes_evaluate registry here id hbefore).raise le_rfl hbound
  constructor
  case coherent =>
    intro e he
    obtain ⟨e', hrun, he', -⟩ := hcomputes e he
    rwa [hrun]
  case frame =>
    intro e he x hx
    obtain ⟨e', hrun, -, hstep⟩ := hcomputes e he
    rw [hrun]
    exact hstep.frame x hx
  case apart =>
    intro e hn he
    exact tallies_evaluate hchild hroot hbefore (he.narrow hbound) hn
  case own =>
    intro e hle hlt he hfresh
    rcases hle.eq_or_lt with heq | hid
    · exact (adds_evaluate_self hchild hroot hbefore (he.narrow hbound) heq
        (hfresh.empty id le_rfl (Layout.lt_stop id))).mono fun _ => trivial
    · exact adds_evaluate_above hchild hroot hbefore (he.narrow hbound) hid hlt hfresh
  case kept =>
    rintro e rfl hkeeps he
    exact isSome_cache_evaluate hchild hroot hbefore (he.narrow hbound) rfl hkeeps.1

/-- A run adds the errors of its visits. -/
theorem adds_finish (program : Program) (registry : Registry) (document : String)
    (n : program.Id) (P : EvaluationError → Bool) :
    Adds n P
      ((Reference.runVisits program registry document).flatMap (Reference.ownErrors registry))
      (Settled registry n P (Reference.runVisits program registry document))
      (.start program document) ((finish registry).run (.start program document)).2 := by
  have hstart : Coherent registry (.start program document) program.size
      (.start program document) := coherent_start registry document program.size
  have htop : ∀ c ∈ program.topLevel,
      Counted registry (.start program document) program.size n P c.val
        (do return ((program.field c.val).name, ← evaluate registry c.val)) := fun c _ =>
    (counted_evaluate registry _ n P c.val (Program.ne_root_of_lt c.property)
      (.start document c.val) (Layout.stop_le_size c.val)).map
        fun value => ((program.field c.val).name, value)
  by_cases hroot : n = program.root
  · subst hroot
    have hapart : ∀ c ∈ program.topLevel, program.root < c.val ∨
        program.tree.stop c.val ≤ program.root.val := fun c _ => .inl c.property
    have hfilled : (Evaluation.start program document).cache[program.root].isSome := by
      rw [Evaluation.start, getElem_set_id, if_pos rfl]
      rfl
    obtain ⟨-, hstep⟩ := Counted.row_apart htop hapart _ hstart
    exact (hstep.adds.mono fun _ => .inr hfilled).congr
      (Reference.tally_visits_of_apart hapart).symm
  · have hn : program.root < n := Nat.pos_of_ne_zero fun h => hroot (Fin.ext h)
    have hstop : n.val < program.tree.stop program.root := by
      rw [Program.root, Layout.stop_rootId]
      exact n.isLt
    refine Counted.row htop hn hstop rfl hstart ⟨fun x hx _ => ?_⟩
    rw [Evaluation.start, getElem_set_id, if_neg (Fin.ne_of_gt hx)]
    simp

end Evaluating

/-- How often errors of a sort, say with one message, are recorded against a field; the response
shows each line with the number of its records.  A run records at least what its visits of the field
raise.  It records no more if no field refers to the one, or if each visit that raises such an error
in the pipeline leaves the slot filled: a reference that leads to the field adds nothing while the
slot is filled, and one that finds it empty adds the errors of the pipeline. -/
theorem recorded_of_visits (program : Program) (registry : Registry) (document : String)
    (n : program.Id) (P : EvaluationError → Bool) :
    let final := ((finish registry).run (.start program document)).2
    let visits := Reference.runVisits program registry document
    let raised := Reference.tally (visits.flatMap (Reference.ownErrors registry)) n P
    (program.run registry document).errors =
        final.recorded.eraseDups.map (fun line => showCount line (final.recorded.count line)) ∧
      (∀ line, final.recorded.count line = (program.preorder.map fun id =>
        final.tally id fun error => Reference.errorLine (id, error) == line).sum) ∧
      raised ≤ final.tally n P ∧
      (Settled registry n P visits → final.tally n P = raised) ∧
      ∀ here bound e, Coherent registry here bound e →
        (∀ y : program.Id, y.val < bound → e.cache[n].isSome →
          ((fieldText registry y).run e).2.tally n P = e.tally n P) ∧
        (n.val < bound → e.cache[n] = none → ((fieldText registry n).run e).2.tally n P =
          e.tally n P + (Reference.operationErrors registry here n).countP P) := by
  intro final visits raised
  have hadds := adds_finish program registry document n P
  have hstart : (Evaluation.start program document).tally n P = 0 := by
    simp [Evaluation.tally, Evaluation.start]
  refine ⟨errorLines_eq final, count_recorded final, ?_, fun hsettled => ?_, ?_⟩
  · have hleast := hadds.least
    rwa [hstart, Nat.zero_add] at hleast
  · have hsame := hadds.same hsettled
    rwa [hstart, Nat.zero_add] at hsame
  · intro here bound e he
    refine ⟨fun y hy hfilled => ?_, fun hn hempty => ?_⟩
    · exact (tallying_selection n P y hy e he).2.adds.same (.inr hfilled)
    · have hsearch := tallies_selection_of_empty (n := n) (P := P) hn
        (fun y hy => tallying_selection n P y (Nat.lt_trans hy hn)) he hempty
      rw [← Reference.tally_self]
      exact hsearch.adds.same (.inl (.inl rfl))

/-- A field that fails, and another one. -/
def failing : Program :=
  .ofFields .object (.cons ⟨"a", .text, [⟨"foo", []⟩]⟩ .nil (.cons ⟨"b", .text, []⟩ .nil .nil))

/-- A field that fails, and one that refers to it. -/
def failingReferred : Program :=
  .ofFields .object (.cons ⟨"a", .text, [⟨"foo", []⟩]⟩ .nil
    (.cons ⟨"b", .text, [⟨"link", ["a"]⟩]⟩ .nil .nil))

/-- No field refers to the one that fails. -/
theorem recorded_of_visits_alone :
    let a : failing.Id := ⟨1, by decide⟩
    let P := fun error : EvaluationError => error.message == "undefined method: foo"
    (∀ z, ¬Refers z a) ∧
      ((finish .builtin).run (.start failing "")).2.tally a P =
        Reference.tally ((Reference.runVisits failing .builtin "").flatMap
          (Reference.ownErrors .builtin)) a P ∧
      (Evaluation.start failing "").cache[a] = none ∧
      ((fieldText .builtin a).run (.start failing "")).2.tally a P =
        (Evaluation.start failing "").tally a P +
          (Reference.operationErrors .builtin (.start failing "") a).countP P := by
  intro a P
  have halone : ∀ z, ¬Refers z a := by
    intro z hz
    have hlt : 1 < z.val := hz.lt
    have hsize : z.val < 3 := z.isLt
    have hval : z.val = 2 := Nat.le_antisymm (Nat.le_of_lt_succ hsize) hlt
    obtain rfl : z = ⟨2, by decide⟩ := Fin.ext hval
    have hpipeline : (failing.field ⟨2, by decide⟩).pipeline = [] := by cbv
    obtain ⟨call, hcall, -⟩ := hz
    rw [hpipeline] at hcall
    cases hcall
  have hempty : (Evaluation.start failing "").cache[(⟨1, by decide⟩ : failing.Id)] = none := by cbv
  obtain ⟨-, -, -, hsettled, hsearch⟩ := recorded_of_visits failing .builtin "" a P
  exact ⟨halone, hsettled (.inl halone), hempty,
    (hsearch _ _ _ (coherent_start .builtin "" failing.size)).2 a.isLt hempty⟩

/-- A reference to a field that fails has the error recorded once more. -/
theorem exists_error_recorded_again :
    let a : failingReferred.Id := ⟨1, by decide⟩
    let P := fun error : EvaluationError => error.message == "undefined method: foo"
    compile (Utf8.encode "\x7b a `foo()` b `link(\"a\")` \x7d") = .ok failingReferred ∧
      Reference.tally ((Reference.runVisits failingReferred .builtin "").flatMap
        (Reference.ownErrors .builtin)) a P = 1 ∧
      ((finish .builtin).run (.start failingReferred "")).2.tally a P = 2 ∧
      (failingReferred.run .builtin "").errors = ["a: undefined method: foo (2 times)"] := by
  have hcompile : compile (Utf8.encode "\x7b a `foo()` b `link(\"a\")` \x7d") =
      .ok failingReferred := by cbv
  have hraised : (Reference.runVisits failingReferred .builtin "").flatMap
      (Reference.ownErrors .builtin) = [(⟨1, by decide⟩, .operation (.undefined "foo"))] := by cbv
  have herrors : ((topLevelFields .builtin).run (.start failingReferred "")).2.errors =
      #v[[], [.operation (.undefined "foo"), .operation (.undefined "foo")], []] := by cbv
  have hpreorder : failingReferred.preorder =
      [⟨0, by decide⟩, ⟨1, by decide⟩, ⟨2, by decide⟩] := by cbv
  have hrecorded : ((topLevelFields .builtin).run (.start failingReferred "")).2.recorded =
      ["a: undefined method: foo", "a: undefined method: foo"] := by
    rw [recorded, hpreorder, herrors]
    rfl
  intro a P
  refine ⟨hcompile, ?_, ?_, ?_⟩
  · rw [hraised]
    rfl
  · change ((topLevelFields .builtin).run (.start failingReferred "")).2.tally a P = 2
    rw [Evaluation.tally, herrors]
    rfl
  · change ((topLevelFields .builtin).run (.start failingReferred "")).2.errorLines = _
    rw [errorLines, hrecorded]
    rfl

end DocQuery
