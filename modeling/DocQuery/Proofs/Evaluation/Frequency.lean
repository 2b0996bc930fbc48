import DocQuery.Proofs.Evaluation.Selection
import DocQuery.Proofs.Program.Scope

/-! How often errors are recorded against a field.  Searching for a selection records errors against
a field only where that field's own slot is empty, and then those of its pipeline under the context.
So nothing is recorded against a field while its slot is filled, and nothing from fields that it
cannot be reached from. -/

namespace DocQuery

open Evaluation Evaluating
open Reference (Raised)

variable {program : Program}

namespace Reference

variable (registry : Registry) (here : Context program) (id : program.Id)

/-- Errors that the pipeline of a field raises under a context. -/
def operationErrors : List EvaluationError :=
  match program.parent id with
  | none => []
  | some ⟨q, _⟩ =>
    match selection registry here q with
    | none => []
    | some s =>
      (program.field id).pipeline.flatMap callErrors ++
        resultErrors (runPipeline registry s (calls registry here id)).2

variable {registry here id} {here' : Context program}

theorem operationErrors_congr (h : ∀ x < id, here x = here' x) :
    operationErrors registry here id = operationErrors registry here' id := by
  rw [operationErrors, operationErrors, calls_congr id h]
  split
  · rfl
  rename_i q hq _
  rw [selection_congr q fun x hx => h x (lt_of_le_of_lt hx hq)]

end Reference

/-- Number of errors of a sort that are raised by a field. -/
def Reference.tally (own : Raised program) (n : program.Id) (P : EvaluationError → Bool) : Nat :=
  own.countP fun p => p.1 == n && P p.2

/-- Number of errors of a sort that are on record against a field. -/
def Evaluation.tally (e : Evaluation program) (n : program.Id) (P : EvaluationError → Bool) : Nat :=
  (e.errors.get n).countP P

namespace Reference

variable {n id : program.Id} {P : EvaluationError → Bool} {own own' : Raised program}
  {errors : List EvaluationError}

@[simp] theorem tally_nil : tally ([] : Raised program) n P = 0 := rfl

@[simp] theorem tally_append : tally (own ++ own') n P = tally own n P + tally own' n P :=
  List.countP_append

theorem tally_of_ne (hne : id ≠ n) : tally (errors.map fun e => (id, e)) n P = 0 := by
  rw [tally, List.countP_map, List.countP_eq_zero]
  intro e _
  simp [hne]

theorem tally_self : tally (errors.map fun e => (n, e)) n P = errors.countP P := by
  rw [tally, List.countP_map]
  congr 1
  funext e
  simp

end Reference

/-- From `e` to `e'` at least the errors of a field among `own` are added to its record, and no
others if `exactly` holds. -/
structure Adds (n : program.Id) (P : EvaluationError → Bool) (own : Raised program)
    (exactly : Prop) (e e' : Evaluation program) : Prop where
  least : e.tally n P + Reference.tally own n P ≤ e'.tally n P
  same : exactly → e'.tally n P = e.tally n P + Reference.tally own n P

/-- From `e` to `e'` moreover the slot of the field is not emptied, and while it is filled no others
are added. -/
structure Tallies (n : program.Id) (P : EvaluationError → Bool) (own : Raised program)
    (exactly : Prop) (e e' : Evaluation program) : Prop where
  filled : e.cache[n].isSome → e'.cache[n].isSome
  adds : Adds n P own (exactly ∨ e.cache[n].isSome) e e'

section Tallies

variable {n : program.Id} {P : EvaluationError → Bool} {own own' : Raised program}
  {exactly exactly' : Prop} {e e1 e2 : Evaluation program}

namespace Adds

theorem of_tally (h : e1.tally n P = e.tally n P + Reference.tally own n P) :
    Adds n P own exactly e e1 :=
  ⟨h.ge, fun _ => h⟩

theorem trans (h1 : Adds n P own exactly e e1) (h2 : Adds n P own' exactly e1 e2) :
    Adds n P (own ++ own') exactly e e2 where
  least := by
    have hleast1 := h1.least
    have hleast2 := h2.least
    rw [Reference.tally_append]
    omega
  same h := by
    rw [h2.same h, h1.same h, Reference.tally_append]
    omega

theorem mono (h : Adds n P own exactly e e1) (himp : exactly' → exactly) :
    Adds n P own exactly' e e1 :=
  ⟨h.least, fun hexact => h.same (himp hexact)⟩

/-- Only the number of the field's errors counts. -/
theorem congr (h : Adds n P own exactly e e1)
    (heq : Reference.tally own n P = Reference.tally own' n P) : Adds n P own' exactly e e1 :=
  ⟨heq ▸ h.least, fun hexact => heq ▸ h.same hexact⟩

end Adds

namespace Tallies

theorem of_tally (hfilled : e.cache[n].isSome → e1.cache[n].isSome)
    (htally : e1.tally n P = e.tally n P + Reference.tally own n P) :
    Tallies n P own exactly e e1 :=
  ⟨hfilled, .of_tally htally⟩

theorem refl (e : Evaluation program) : Tallies n P [] exactly e e := of_tally id rfl

theorem trans (h1 : Tallies n P own exactly e e1) (h2 : Tallies n P own' exactly e1 e2) :
    Tallies n P (own ++ own') exactly e e2 :=
  ⟨fun h => h2.filled (h1.filled h), h1.adds.trans (h2.adds.mono (Or.imp_right h1.filled))⟩

theorem mono (h : Tallies n P own exactly e e1) (himp : exactly' → exactly) :
    Tallies n P own exactly' e e1 :=
  ⟨h.filled, h.adds.mono (Or.imp_left himp)⟩

theorem congr (h : Tallies n P own exactly e e1)
    (heq : Reference.tally own n P = Reference.tally own' n P) : Tallies n P own' exactly e e1 :=
  ⟨h.filled, h.adds.congr heq⟩

end Tallies

end Tallies

namespace Evaluating

variable {α β γ : Type} {n id : program.Id} {P : EvaluationError → Bool} {exactly exactly' : Prop}
  {inv : Evaluation program → Prop} {high : Nat}

/-- From every state with `inv` the computation keeps `inv` and adds `own` to the record. -/
def Tallying (inv : Evaluation program → Prop) (n : program.Id) (P : EvaluationError → Bool)
    (own : Raised program) (exactly : Prop) (m : Evaluating program α) : Prop :=
  ∀ e, inv e → inv (m.run e).2 ∧ Tallies n P own exactly e (m.run e).2

namespace Tallying

variable {m : Evaluating program α} {a : α} {raised own own' : Raised program}

theorem of_computes (hm : Computes inv high m a raised)
    (h : ∀ e, inv e → Tallies n P own exactly e (m.run e).2) : Tallying inv n P own exactly m := by
  intro e he
  obtain ⟨e1, hrun, he1, -⟩ := hm e he
  refine ⟨?_, h e he⟩
  rw [hrun]
  exact he1

theorem pure (a : α) : Tallying inv n P [] exactly (Pure.pure a : Evaluating program α) :=
  fun e he => ⟨he, .refl e⟩

theorem mono (h : Tallying inv n P own exactly m) (himp : exactly' → exactly) :
    Tallying inv n P own exactly' m :=
  fun e he => ⟨(h e he).1, (h e he).2.mono himp⟩

theorem bind {f : α → Evaluating program β} (h : Tallying inv n P own exactly m)
    (hf : ∀ a, Tallying inv n P own' exactly (f a)) :
    Tallying inv n P (own ++ own') exactly (m >>= f) := by
  intro e he
  obtain ⟨he1, hstep1⟩ := h e he
  obtain ⟨he2, hstep2⟩ := hf (m.run e).1 (m.run e).2 he1
  exact ⟨he2, hstep1.trans hstep2⟩

theorem map {f : α → β} (h : Tallying inv n P own exactly m) :
    Tallying inv n P own exactly (do return f (← m)) :=
  fun e he => h e he

theorem mapM {l : List γ} {f : γ → Evaluating program α} {own : γ → Raised program}
    (h : ∀ x ∈ l, Tallying inv n P (own x) exactly (f x)) :
    Tallying inv n P (l.flatMap own) exactly (l.mapM f) := by
  induction l with
  | nil => exact .pure []
  | cons x l ih =>
    have ih := ih fun y hy => h y (List.mem_cons_of_mem x hy)
    rw [List.mapM_cons, List.flatMap_cons]
    exact (h x List.mem_cons_self).bind fun _ => ih.map

theorem filterMapM {l : List γ} {f : γ → Evaluating program (Option α)} {own : γ → Raised program}
    (h : ∀ x ∈ l, Tallying inv n P (own x) exactly (f x)) :
    Tallying inv n P (l.flatMap own) exactly (l.filterMapM f) := by
  induction l with
  | nil => exact .pure []
  | cons x l ih =>
    have ih := ih fun y hy => h y (List.mem_cons_of_mem x hy)
    rw [List.filterMapM_cons, List.flatMap_cons]
    refine (h x List.mem_cons_self).bind fun a => ?_
    cases a with
    | none => exact ih
    | some b => exact ih.map

theorem mapM_nil {l : List γ} {f : γ → Evaluating program α}
    (h : ∀ x ∈ l, Tallying inv n P [] exactly (f x)) :
    Tallying inv n P [] exactly (l.mapM f) := by
  have hmapM := mapM h
  rwa [List.flatMap_eq_nil_iff.mpr fun _ _ => rfl] at hmapM

theorem forM {l : List γ} {f : γ → Evaluating program Unit}
    (h : ∀ x ∈ l, Tallying inv n P [] exactly (f x)) : Tallying inv n P [] exactly (l.forM f) := by
  induction l with
  | nil => exact .pure ()
  | cons x l ih =>
    exact (h x List.mem_cons_self).bind fun _ => ih fun y hy => h y (List.mem_cons_of_mem x hy)

theorem logEvent (hm : Computes inv high (logEvent event) () raised) :
    Tallying inv n P [] exactly (Evaluating.logEvent event) :=
  of_computes hm fun _ _ => .of_tally id rfl

theorem record {error : EvaluationError} (hm : Computes inv high (record id error) () raised) :
    Tallying inv n P [(id, error)] exactly (Evaluating.record id error) := by
  refine of_computes hm fun e _ => .of_tally (fun h => h) ?_
  rw [Evaluation.tally, Evaluation.tally, Reference.tally, List.countP_singleton]
  change ((e.errors.set id (e.errors[id] ++ [error]))[n]).countP P = e.errors[n].countP P + _
  simp only [Fin.getElem_fin, Vector.getElem_set, ← Fin.ext_iff]
  by_cases hid : id = n
  · subst hid
    simp [List.countP_append, List.countP_singleton]
  · simp [hid]

end Tallying

/-- Filling any slot or emptying that of another field. -/
theorem tallies_setCached {s : Option Selection} (h : id = n → s.isSome)
    (e : Evaluation program) :
    Tallies n P [] exactly e ((setCached id s).run e).2 := by
  refine .of_tally (fun hfilled => ?_) rfl
  change ((e.cache.set id s)[n]).isSome
  rw [getElem_set_id]
  split
  · rename_i heq
    exact h heq.symm
  · exact hfilled

section Resolving

variable {text : (f : program.Id) → f < id → Evaluating program String}

/-- Expanding an argument does what searching for the fields does that it refers to. -/
theorem tallying_renderWith {arg : String}
    (h : ∀ f hf, ⟨f, hf⟩ ∈ Reference.references id arg →
      Tallying inv n P [] exactly (text f hf)) :
    Tallying inv n P [] exactly (renderWith id text arg) := by
  refine Tallying.map (Tallying.mapM_nil ?_)
  intro x hx
  obtain ⟨before, name⟩ := x
  dsimp only
  split
  · exact .pure _
  rename_i hname
  split
  · rename_i f hf hlookup
    refine (h f hf ?_).map
    refine List.mem_filterMap.mpr ⟨(before, name), hx, ?_⟩
    simp only [hname, Bool.false_eq_true, if_false, hlookup]
  · exact .pure _

theorem tallying_resolveCall {call : Call}
    (hrecord : ∀ error, Computes inv high (record id error) () [(id, error)])
    (h : ∀ f hf, ⟨f, hf⟩ ∈ Reference.callReferences id call →
      Tallying inv n P [] exactly (text f hf)) :
    Tallying inv n P ((Reference.callErrors call).map fun e => (id, e)) exactly
      (resolveCall id text call) := by
  unfold resolveCall
  unfold Reference.callReferences at h
  unfold Reference.callErrors
  by_cases hlink : call.name = "link"
  · simp only [hlink, bne_self_eq_false, Bool.false_eq_true, if_false, true_and] at h ⊢
    by_cases hone : call.args.length = 1
    · obtain ⟨target, hargs⟩ := List.length_eq_one_iff.mp hone
      rw [hargs] at h ⊢
      simp only [List.length_singleton, ne_eq, not_true_eq_false, if_false, List.map_nil] at h ⊢
      split
      · exact .pure _
      rename_i hown
      rw [if_neg hown] at h
      split
      · rename_i f hf hlookup
        exact (h f hf (Option.mem_toList.mpr hlookup)).map
      · exact .pure _
    · rw [if_pos hone]
      split
      · rename_i target hargs
        rw [hargs] at hone
        exact absurd rfl hone
      · exact (Tallying.record (hrecord _)).map (f := fun _ => none)
  · simp only [bne_iff_ne, ne_eq, hlink, not_false_eq_true, if_true, false_and, if_false,
      List.map_nil] at h ⊢
    refine Tallying.map (Tallying.mapM_nil ?_)
    intro arg harg
    refine tallying_renderWith ?_
    intro f hf hmem
    exact h f hf (List.mem_flatMap.mpr ⟨arg, harg, hmem⟩)

end Resolving

section Search

variable {registry : Registry} {here : Context program} {bound : Nat}

/-- Searching for a field adds nothing to the record of `n`: it does not lead there, or the pipeline
there raises no error of the sort. -/
def Silent (registry : Registry) (here : Context program) (n : program.Id)
    (P : EvaluationError → Bool) (y : program.Id) : Prop :=
  Clear n y ∨ (Reference.operationErrors registry here n).countP P = 0

theorem Silent.parent {q : program.Id} (h : id = n ∨ Silent registry here n P id)
    (hparent : (program.tree.slot id).parent = some q) : Silent registry here n P q := by
  rcases h with rfl | hclear | hnone
  · exact .inl (.inl (Layout.lt_of_parent hparent))
  · exact .inl (hclear.parent hparent)
  · exact .inr hnone

theorem Silent.reference {f : program.Id} (h : id = n ∨ Silent registry here n P id)
    (href : Refers id f) : Silent registry here n P f := by
  rcases h with rfl | hclear | hnone
  · exact .inl (.inl href.lt)
  · exact .inl (hclear.reference href)
  · exact .inr hnone

/-- What does not lead to `n` from a field leads there from none below it. -/
theorem Silent.below {here' : Context program} {c : program.Id}
    (h : Silent registry here n P id) (hn : n < id ∨ program.tree.stop id ≤ n.val) (hid : id < c)
    (hc : c.val < program.tree.stop id) (hsame : ∀ x < id, here x = here' x) :
    Silent registry here' n P c := by
  rcases hn with hlow | hhigh
  · refine h.imp (fun hclear => hclear.of_le hlow.le hid.le) fun hnone => ?_
    rwa [Reference.operationErrors_congr fun x hx => (hsame x (hx.trans hlow)).symm]
  · exact .inl (.inl (Fin.lt_def.mpr (Nat.lt_of_lt_of_le hc hhigh)))

theorem operationErrors_of_parent {q : program.Id} {hq : q < id}
    (hparent : program.parent id = some ⟨q, hq⟩) :
    Reference.operationErrors registry here id =
      (Reference.selection registry here q).toList.flatMap fun s =>
        (program.field id).pipeline.flatMap Reference.callErrors ++
          Reference.resultErrors (runPipeline registry s (Reference.calls registry here id)).2 := by
  rw [Reference.operationErrors, hparent]
  dsimp only
  cases Reference.selection registry here q <;> simp

/-- The calls of a field with their references resolved. -/
def resolveCalls (registry : Registry) (id : program.Id) : Evaluating program (List Call) :=
  (program.field id).pipeline.filterMapM <| resolveCall id fun f _ => fieldText registry f

theorem computes_resolveCalls (registry : Registry) (here : Context program)
    (hid : id.val < bound) :
    ∃ raised, Computes (Coherent registry here bound) bound (resolveCalls registry id)
      (Reference.calls registry here id) raised := by
  have htext : ∀ f (_ : f < id), Computes (Coherent registry here bound) bound
      (fieldText registry f) (Reference.fieldText registry here f)
        (Reference.selectionErrors registry here f) :=
    fun f hf => (computes_selection registry here f (Nat.lt_trans hf hid)).map
  exact ⟨_, Computes.filterMapM fun call _ => computes_resolveCall
    (fun f => Reference.selectionErrors registry here f.val) htext
    (computes_record registry here bound bound id) call⟩

theorem tallying_resolveCalls
    (hlow : ∀ y : program.Id, y < id → Tallying (Coherent registry here bound) n P []
      (Silent registry here n P y) (selection registry y)) :
    Tallying (Coherent registry here bound) n P
      (((program.field id).pipeline.flatMap Reference.callErrors).map fun error => (id, error))
      (id = n ∨ Silent registry here n P id) (resolveCalls registry id) := by
  rw [List.map_flatMap]
  refine Tallying.filterMapM fun call hcall => ?_
  refine tallying_resolveCall (computes_record registry here bound bound id) ?_
  intro f hf hmem
  exact ((hlow f hf).mono fun h => Silent.reference h ⟨call, hcall, hf, hmem⟩).map

/-- The end of a search: the pipeline is run, and its result kept or its error recorded. -/
def keepResult (registry : Registry) (id : program.Id) (context : Selection) (calls : List Call) :
    Evaluating program (Option Selection) := do
  (runPipeline registry context calls).1.forM fun step => logEvent (.call step)
  match (runPipeline registry context calls).2 with
  | .ok s =>
    setCached id (some s)
    return some s
  | .error e =>
    record id (.operation e)
    return none

theorem tallies_keepResult (exactly : Prop) (id : program.Id) (context : Selection)
    (calls : List Call) {e : Evaluation program} (he : Coherent registry here bound e) :
    Tallies n P
      ((Reference.resultErrors (runPipeline registry context calls).2).map fun error => (id, error))
      exactly e ((keepResult registry id context calls).run e).2 := by
  have hlog : Tallying (Coherent registry here bound) n P [] exactly
      ((runPipeline registry context calls).1.forM fun step => logEvent (.call step)) :=
    Tallying.forM fun step _ => .logEvent (computes_logEvent registry here bound bound (.call step))
  obtain ⟨e1, hrun, he1, -⟩ := computes_forM_logEvent registry here bound bound
    (runPipeline registry context calls).1 e he
  have hstep := (hlog e he).2
  rw [hrun] at hstep
  rw [keepResult, run_bind_of hrun]
  refine hstep.trans ?_
  cases (runPipeline registry context calls).2 with
  | ok s => exact tallies_setCached (fun _ => rfl) e1
  | error error =>
    exact (Tallying.record (computes_record registry here bound bound id _) e1 he1).2

theorem selection_run_of_empty {q : program.Id} {hq : q < id} {e : Evaluation program}
    (hempty : e.cache[id] = none) (hparent : program.parent id = some ⟨q, hq⟩) :
    (selection registry id).run e = (do
      match ← selection registry q with
      | none => return none
      | some context =>
        logEvent (.miss (program.field id).name)
        let calls ← resolveCalls registry id
        keepResult registry id context calls : Evaluating program (Option Selection)).run e := by
  rw [selection, run_bind_of (run_cached? id e), hempty, hparent]
  rfl

/-- A search that finds the slot empty adds the errors of the pipeline. -/
theorem tallies_selection_of_empty (hid : id.val < bound)
    (hlow : ∀ y : program.Id, y < id → Tallying (Coherent registry here bound) n P []
      (Silent registry here n P y) (selection registry y))
    {e : Evaluation program} (he : Coherent registry here bound e) (hempty : e.cache[id] = none) :
    Tallies n P ((Reference.operationErrors registry here id).map fun error => (id, error))
      (id = n ∨ Silent registry here n P id) e ((selection registry id).run e).2 := by
  cases hparent : program.parent id with
  | none =>
    rw [selection, run_bind_of (run_cached? id e), hempty, hparent, Reference.operationErrors,
      hparent]
    exact .refl e
  | some q =>
  obtain ⟨q, hq⟩ := q
  -- The parent is searched first, then the fields that the calls refer to; the pipeline comes last.
  have hslot := Program.parent_eq_some_iff.mpr ⟨hq, hparent⟩
  obtain ⟨e1, hrun1, he1, -⟩ :=
    computes_selection registry here q (Nat.lt_trans hq hid) e he
  have hstep1 := (hlow q hq e he).2.mono fun h => Silent.parent h hslot
  rw [hrun1] at hstep1
  rw [selection_run_of_empty hempty hparent, run_bind_of hrun1, operationErrors_of_parent hparent]
  cases hcontext : Reference.selection registry here q with
  | none => exact hstep1
  | some context =>
  have hmiss : Tallying (Coherent registry here bound) n P []
      (id = n ∨ Silent registry here n P id) (logEvent (.miss (program.field id).name)) :=
    .logEvent (computes_logEvent registry here bound bound (.miss (program.field id).name))
  obtain ⟨e2, hrun2, he2, -⟩ :=
    computes_logEvent registry here bound bound (.miss (program.field id).name) e1 he1
  have hstep2 := (hmiss e1 he1).2
  rw [hrun2] at hstep2
  obtain ⟨_, hcalls⟩ := computes_resolveCalls registry here hid
  obtain ⟨e3, hrun3, he3, -⟩ := hcalls e2 he2
  have hstep3 := (tallying_resolveCalls hlow e2 he2).2
  rw [hrun3] at hstep3
  dsimp only at hstep1 hstep2 hstep3 ⊢
  rw [run_bind_of hrun2, run_bind_of hrun3]
  have hstep4 := tallies_keepResult (n := n) (P := P) (id = n ∨ Silent registry here n P id) id
    context (Reference.calls registry here id) he3
  simpa using hstep1.trans (hstep2.trans (hstep3.trans hstep4))

/-- Searching for a field records errors against another one only if it leads there and finds the
slot there empty. -/
theorem tallying_selection (n : program.Id) (P : EvaluationError → Bool) (id : program.Id)
    (hid : id.val < bound) :
    Tallying (Coherent registry here bound) n P [] (Silent registry here n P id)
      (selection registry id) := by
  -- The parent and the fields that are referred to have smaller numbers.
  induction hk : id.val using Nat.strongRecOn generalizing id with
  | ind k ih =>
  subst hk
  refine .of_computes (computes_selection registry here id hid) fun e he => ?_
  cases hslot : e.cache[id] with
  | some s =>
    rw [selection, run_bind_of (run_cached? id e), hslot]
    exact .of_tally (fun hfilled => hfilled) rfl
  | none =>
  have hsearch := tallies_selection_of_empty (n := n) (P := P) hid
    (fun y hy => ih y.val hy y (Nat.lt_trans hy hid) rfl) he hslot
  by_cases hne : id = n
  · subst hne
    refine ⟨hsearch.filled, ?_, fun hexact => ?_⟩
    · exact Nat.le_trans (Nat.le_add_right _ _) hsearch.adds.least
    · rcases hexact with (hclear | hnone) | hfilled
      · exact absurd rfl hclear.ne
      · rw [hsearch.adds.same (.inl (.inl rfl)), Reference.tally_self, hnone]
        rfl
      · rw [hslot] at hfilled
        cases hfilled
  · exact (hsearch.mono .inr).congr (Reference.tally_of_ne hne)

/-- A selection that the computation gives is left in the slot of the field. -/
structure Fills (id : program.Id) (m : Evaluating program (Option Selection)) : Prop where
  filled (e : Evaluation program) : (m.run e).1.isSome → (m.run e).2.cache[id].isSome

theorem Fills.none : Fills id (pure none) := ⟨fun _ => nofun⟩

theorem Fills.bind {m : Evaluating program α} {f : α → Evaluating program (Option Selection)}
    (h : ∀ a, Fills id (f a)) : Fills id (m >>= f) :=
  ⟨fun e hsome => (h (m.run e).1).filled (m.run e).2 hsome⟩

theorem fills_keepResult (registry : Registry) (id : program.Id) (context : Selection)
    (calls : List Call) : Fills id (keepResult registry id context calls) := by
  refine .bind fun _ => ?_
  cases (runPipeline registry context calls).2 with
  | ok s =>
    refine ⟨fun e _ => ?_⟩
    change ((e.cache.set id (some s))[id]).isSome
    rw [getElem_set_id, if_pos rfl]
    rfl
  | error error => exact .bind fun _ => .none

theorem fills_selection (registry : Registry) (id : program.Id) :
    Fills id (selection registry id) := by
  refine ⟨fun e => ?_⟩
  cases hslot : e.cache[id] with
  | some s =>
    rw [selection, run_bind_of (run_cached? id e), hslot]
    intro _
    change e.cache[id].isSome
    rw [hslot]
    rfl
  | none =>
  cases hparent : program.parent id with
  | none =>
    rw [selection, run_bind_of (run_cached? id e), hslot, hparent]
    exact Fills.none.filled e
  | some q =>
  obtain ⟨q, hq⟩ := q
  rw [selection_run_of_empty hslot hparent]
  refine (Fills.bind fun found => ?_).filled e
  cases found with
  | none => exact .none
  | some context =>
    exact .bind fun _ => .bind fun calls => fills_keepResult registry id context calls

end Search

end Evaluating

end DocQuery
