import DocQuery.Proofs.Evaluation.Coherence

/-! Selections without and with the cache.  From every coherent state the selection of a field is
the one that the reference finds, and the same errors are on record afterwards. -/

namespace DocQuery

open Evaluation Evaluating
open Reference (Raised)

variable {program : Program}

section Resolving

variable {inv : Evaluation program → Prop} {high : Nat} {id : program.Id}
  {text : (f : program.Id) → f < id → Evaluating program String}
  {found : (f : program.Id) → f < id → String}
  (raised : { f : program.Id // f < id } → Raised program)

/-- Expanding the references of an argument needs the texts of the fields that it refers to. -/
theorem computes_renderWith
    (htext : ∀ f hf, Computes inv high (text f hf) (found f hf) (raised ⟨f, hf⟩)) (arg : String) :
    Computes inv high (renderWith id text arg) (Reference.render id found arg)
      ((Reference.references id arg).flatMap raised) := by
  rw [Reference.references, List.filterMap_eq_flatMap_toList, List.flatMap_assoc]
  refine Computes.map (Computes.mapM fun ⟨before, name⟩ _ => ?_)
  dsimp only
  split
  · exact .pure _
  split
  · rename_i f hf hlookup
    rw [hlookup]
    simpa using (htext f hf).map
  · rename_i hlookup
    rw [hlookup]
    exact .pure _

/-- Resolving a call needs the texts of the fields that it refers to. -/
theorem computes_resolveCall
    (htext : ∀ f hf, Computes inv high (text f hf) (found f hf) (raised ⟨f, hf⟩))
    (hrecord : ∀ error, Computes inv high (record id error) () [(id, error)]) (call : Call) :
    Computes inv high (resolveCall id text call) (Reference.resolveCall id found call)
      ((Reference.callReferences id call).flatMap raised ++
        (Reference.callErrors call).map fun e => (id, e)) := by
  unfold resolveCall Reference.resolveCall Reference.callReferences Reference.callErrors
  by_cases hlink : call.name = "link"
  · simp only [hlink, bne_self_eq_false, Bool.false_eq_true, if_false, true_and]
    split
    · rename_i target hargs
      simp only [hargs, List.length_singleton, ne_eq, not_true_eq_false, if_false, List.map_nil,
        List.append_nil]
      split
      · exact .pure _
      split
      · rename_i f hf hlookup
        rw [hlookup]
        simpa using (htext f hf).map
      · rename_i hlookup
        rw [hlookup]
        exact .pure _
    · rename_i hargs
      have hlength : call.args.length ≠ 1 := fun h => by
        obtain ⟨target, h⟩ := List.length_eq_one_iff.mp h
        exact hargs target h
      simpa [hlength] using
        (hrecord _).bind (f := fun _ => pure (none : Option Call)) (Computes.pure none)
  · simp only [bne_iff_ne, ne_eq, hlink, not_false_eq_true, if_true, false_and, if_false,
      List.map_nil, List.append_nil, List.flatMap_assoc]
    exact (Computes.mapM fun arg _ => computes_renderWith raised htext arg).map

end Resolving

/-- Logging keeps every state coherent. -/
theorem computes_logEvent (registry : Registry) (here : Context program) (bound high : Nat)
    (event : Event) :
    Computes (Coherent registry here bound) high (logEvent event) () [] := fun e he =>
  ⟨_, run_logEvent event e, he.record (advance_log 0 e _), advance_log high e _⟩

theorem computes_record (registry : Registry) (here : Context program) (bound high : Nat)
    (id : program.Id) (error : EvaluationError) :
    Computes (Coherent registry here bound) high (record id error) () [(id, error)] := fun e he =>
  let ⟨e', hrun, _, hstep⟩ := record_run 0 id error e
  ⟨e', hrun, he.record hstep, hstep.widen (Nat.zero_le high)⟩

theorem computes_forM_logEvent (registry : Registry) (here : Context program) (bound high : Nat)
    (steps : List Step) :
    Computes (Coherent registry here bound) high (steps.forM fun step => logEvent (.call step)) ()
      [] := by
  induction steps with
  | nil => exact .pure ()
  | cons step steps ih =>
    exact (computes_logEvent registry here bound high _).bind ih

/-- The end of finding a selection: the result of the pipeline is kept, or its error recorded. -/
theorem keep_or_record {registry : Registry} {here : Context program} {bound : Nat}
    {id : program.Id} {raised : Raised program} {result : Except OperationError Selection}
    {e e1 : Evaluation program} (hhere : here id = none) (hid : id.val < bound)
    (he1 : Coherent registry here bound e1) (hstep : Advance bound raised e e1)
    (hfound : Reference.selection registry here id = result.toOption)
    (hraised : Reference.selectionErrors registry here id =
      raised ++ (Reference.resultErrors result).map fun error => (id, error)) :
    ∃ e', (match result with
        | .ok s => do
          setCached id (some s)
          return some s
        | .error error => do
          record id (.operation error)
          return none : Evaluating program (Option Selection)).run e1 =
        (Reference.selection registry here id, e') ∧
      Coherent registry here bound e' ∧
        Advance bound (Reference.selectionErrors registry here id) e e' := by
  cases result with
  | ok s =>
    simp only [Reference.resultErrors, List.map_nil, List.append_nil] at hraised
    have hreported : ∀ p ∈ Reference.selectionErrors registry here id, e1.Records p := by
      rw [hraised]
      exact fun p hp => hstep.raises hp
    refine ⟨_, by rw [hfound]; rfl, he1.set hhere fun a ha => ⟨hfound.trans ha, hreported⟩, ?_⟩
    rw [hraised, ← List.append_nil raised]
    refine hstep.trans (advance_cache fun x hx => ?_)
    rw [getElem_set_id, if_neg (by rintro rfl; omega)]
  | error error =>
    obtain ⟨e2, hrun, he2, hstep2⟩ :=
      computes_record registry here bound bound id (.operation error) e1 he1
    simp only [Reference.resultErrors, List.map_cons, List.map_nil] at hraised
    dsimp only
    rw [run_bind_of hrun, hfound, hraised]
    exact ⟨e2, rfl, he2, hstep.trans hstep2⟩

/-- From a coherent state a selection is found as the reference finds it. -/
theorem computes_selection (registry : Registry) (here : Context program) {bound : Nat}
    (id : program.Id) (hid : id.val < bound) :
    Computes (Coherent registry here bound) bound (selection registry id)
      (Reference.selection registry here id) (Reference.selectionErrors registry here id) := by
  induction hn : id.val using Nat.strongRecOn generalizing id with
  | ind n ih =>
  subst hn
  intro e he
  rw [selection, run_bind_of (run_cached? id e)]
  cases hcached : e.cache[id] with
  | some s =>
    rw [he.agrees hid hcached]
    refine ⟨_, rfl, he.record (advance_log 0 e _), (advance_log bound e _).congr fun p => ?_⟩
    simpa using he.reported hid hcached p
  | none =>
    have hhere : here id = none := by
      cases hheld : here id with
      | none => rfl
      | some s => rw [he.held hid hheld] at hcached; cases hcached
    cases hparent : program.parent id with
    | none =>
      refine ⟨e, by rw [Reference.selection, hhere, hparent]; rfl, he, ?_⟩
      rw [Reference.selectionErrors, hhere, hparent]
      exact .refl bound e
    | some q =>
    obtain ⟨q, hq⟩ := q
    obtain ⟨e1, hrun1, he1, hstep1⟩ := ih q.val hq q (Nat.lt_trans hq hid) rfl e he
    have hfound := Reference.selection_of_parent registry hhere hparent
    have hraised := Reference.selectionErrors_of_parent registry hhere hparent
    dsimp only
    rw [run_bind_of hrun1]
    cases hcontext : Reference.selection registry here q with
    | none =>
      rw [hcontext] at hfound hraised
      rw [hfound, hraised]
      exact ⟨e1, rfl, he1, by simpa using hstep1⟩
    | some context =>
    rw [hcontext] at hfound hraised
    -- The texts of the fields that the calls refer to are found by induction.
    have htext : ∀ f (_ : f < id), Computes (Coherent registry here bound) bound
        (do return ((← selection registry f).map (·.textContent)).getD "")
        (Reference.fieldText registry here f)
        (Reference.selectionErrors registry here f) := fun f hf =>
      (ih f.val hf f (Nat.lt_trans hf hid) rfl).map
    have hcalls := Computes.filterMapM (l := (program.field id).pipeline) fun call _ =>
      computes_resolveCall (fun f => Reference.selectionErrors registry here f.val) htext
        (computes_record registry here bound bound id) call
    obtain ⟨e2, hrun2, he2, hstep2⟩ :=
      computes_logEvent registry here bound bound (.miss (program.field id).name) e1 he1
    obtain ⟨e3, (hrun3 : _ = (Reference.calls registry here id, e3)), he3, hstep3⟩ := hcalls e2 he2
    obtain ⟨e4, hrun4, he4, hstep4⟩ := computes_forM_logEvent registry here bound bound
      (runPipeline registry context (Reference.calls registry here id)).1 e3 he3
    dsimp only
    rw [run_bind_of hrun2, run_bind_of hrun3, run_bind_of hrun4]
    have hstep := hstep1.trans (hstep2.trans (hstep3.trans hstep4))
    refine keep_or_record hhere hid he4 hstep hfound ?_
    rw [hraised]
    simp

end DocQuery
