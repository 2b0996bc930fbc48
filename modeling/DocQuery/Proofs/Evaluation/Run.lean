import DocQuery.Proofs.Evaluation.Tally
import DocQuery.Proofs.Evaluation.Value

/-! Runs without and with the cache.  A run gives the data of the reference, and its error lines are
those of the errors that the reference raises, each different one once. -/

namespace DocQuery

open Evaluation Evaluating
open Reference (Raised)

variable {program : Program} {registry : Registry}

/-- The state before anything is evaluated is coherent. -/
theorem coherent_start (registry : Registry) (document : String) (bound : Nat) :
    Coherent registry (.start program document) bound (.start program document) := by
  have hcache : ∀ x : program.Id,
      (Evaluation.start program document).cache[x] = Context.start program document x := by
    intro x
    rw [Evaluation.start, Context.start, getElem_set_id]
    split
    · rfl
    · simp
  constructor
  · intro x s _ hs
    rw [hcache x, hs]
  · intro x s _ hs
    rw [hcache x] at hs
    exact Reference.selection_of_here hs
  · intro x s _ hs
    rw [hcache x] at hs
    simp [Reference.selectionErrors_of_here hs]

/-- The names and the values of all top-level fields, one field after the other. -/
def Evaluating.topLevelFields (registry : Registry) : Evaluating program (List (String × Value)) :=
  program.topLevel.mapM fun ⟨c, _⟩ => return ((program.field c).name, ← evaluate registry c)

/-- From a coherent state the top-level fields have the values of the reference. -/
theorem computes_topLevelFields (registry : Registry) (document : String) :
    Computes (Coherent registry (.start program document) program.size) program.size
      (topLevelFields registry)
      (program.topLevel.map fun c =>
        ((program.field c.val).name, Reference.value registry (.start program document) c.val))
      (Reference.errors program registry document) :=
  Computes.mapM fun c _ =>
    ((computes_evaluate registry _ c.val (.start document c.val)).widen
      (Layout.stop_le_size c.val)).map (f := fun value => ((program.field c.val).name, value))

/-- From a coherent state a run ends with the data of the reference. -/
theorem finish_run {document : String} {e : Evaluation program}
    (he : Coherent registry (.start program document) program.size e) :
    ∃ e', (finish registry).run e =
        ({ data := Reference.data program registry document, errors := e'.errorLines }, e') ∧
      Advance program.size (Reference.errors program registry document) e e' := by
  obtain ⟨e', hrun, _, hstep⟩ := computes_topLevelFields registry document e he
  have hfinish : (finish registry : Evaluating program Response) = do
      let fields ← topLevelFields registry
      return {
        data := Value.projectTop program.shape (Value.ofFields fields)
        errors := (← get).errorLines } := rfl
  exact ⟨e', by rw [hfinish, run_bind_of hrun]; rfl, hstep⟩

/-- A run gives the data of the reference evaluation, and reports the errors that the reference
evaluation raises, each different line once with the number of times that it was recorded. -/
theorem run_eq_reference (program : Program) (registry : Registry) (document : String) :
    (program.run registry document).data = Reference.data program registry document ∧
      ∃ counts : List (String × Nat),
        (program.run registry document).errors = counts.map (fun c => showCount c.1 c.2) ∧
          (counts.map (·.1)).Nodup ∧
            ∀ line, line ∈ counts.map (·.1) ↔
              line ∈ (Reference.errors program registry document).map Reference.errorLine := by
  obtain ⟨e, hrun, hstep⟩ := finish_run (coherent_start registry document program.size)
  have hresponse : program.run registry document =
      { data := Reference.data program registry document, errors := e.errorLines } := by
    rw [Program.run, Program.runLogged, hrun]
  obtain ⟨hnodup, hmem⟩ := tally_spec e.recorded [] List.nodup_nil
  refine ⟨by rw [hresponse], _, by rw [hresponse]; rfl, hnodup, fun line => ?_⟩
  rw [hmem, mem_recorded]
  constructor
  · rintro (⟨p, hp, rfl⟩ | hline)
    · rcases (hstep.records p).mp hp with hstart | hraised
      · simp [Records, Evaluation.start] at hstart
      · exact List.mem_map_of_mem hraised
    · cases hline
  · intro hline
    obtain ⟨p, hraised, rfl⟩ := List.mem_map.mp hline
    exact .inl ⟨p, hstep.raises hraised, rfl⟩

end DocQuery
