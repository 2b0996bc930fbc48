import DocQuery.Proofs.Evaluation.Advance

/-! Coherence of the cache.  A state is coherent with a context below a number if every slot there
is empty or holds what the reference finds under the context, the errors on the way to it are on
record, and the slots of iterated fields hold their elements.  Finding a selection from a coherent
state gives what the reference gives and raises the same errors. -/

namespace DocQuery

open Evaluation Evaluating
open Reference (Raised)

variable {program : Program} (registry : Registry)

/-- The cache below `bound` agrees with the reference under the context `here`. -/
structure Coherent (here : Context program) (bound : Nat) (e : Evaluation program) : Prop where
  held {x : program.Id} {s : Selection} : x.val < bound → here x = some s → e.cache[x] = some s
  agrees {x : program.Id} {s : Selection} : x.val < bound → e.cache[x] = some s →
    Reference.selection registry here x = some s
  reported {x : program.Id} {s : Selection} : x.val < bound → e.cache[x] = some s →
    ∀ p ∈ Reference.selectionErrors registry here x, e.Records p

namespace Reference

variable {registry} {here here' : Context program}

/-- The selection of an iterated field is its element. -/
theorem selection_of_here {id : program.Id} {s : Selection} (h : here id = some s) :
    selection registry here id = some s := by
  rw [selection, h]

theorem selectionErrors_of_here {id : program.Id} {s : Selection} (h : here id = some s) :
    selectionErrors registry here id = [] := by
  rw [selectionErrors, h]

section Parent

variable (registry) {id q : program.Id} {hq : q < id} (hhere : here id = none)
  (hparent : program.parent id = some ⟨q, hq⟩)
include hhere hparent

theorem selection_of_parent : selection registry here id =
    (selection registry here q).bind fun s =>
      (runPipeline registry s (calls registry here id)).2.toOption := by
  rw [selection, hhere, hparent]
  dsimp only
  cases selection registry here q <;> rfl

theorem selectionErrors_of_parent : selectionErrors registry here id =
    selectionErrors registry here q ++ (selection registry here q).toList.flatMap fun s =>
      ((program.field id).pipeline.flatMap fun call =>
        ((callReferences id call).flatMap fun f => selectionErrors registry here f.val) ++
          (callErrors call).map fun e => (id, e)) ++
      (resultErrors (runPipeline registry s (calls registry here id)).2).map fun e => (id, e) := by
  rw [selectionErrors, hhere, hparent]
  dsimp only
  cases selection registry here q <;> simp

end Parent

/-- The selection of a field depends on the context at the field and before it. -/
theorem selection_congr (id : program.Id) (h : ∀ x ≤ id, here x = here' x) :
    selection registry here id = selection registry here' id := by
  induction hn : id.val using Nat.strongRecOn generalizing id with
  | ind n ih =>
    subst hn
    have before : ∀ x < id, selection registry here x = selection registry here' x := fun x hx =>
      ih x.val hx x (fun y hy => h y (Nat.le_trans hy (Nat.le_of_lt hx))) rfl
    have texts : (fun (f : program.Id) (_ : f < id) =>
          ((selection registry here f).map (·.textContent)).getD "") =
        fun f _ => ((selection registry here' f).map (·.textContent)).getD "" := by
      funext f hf
      rw [before f hf]
    rw [selection, selection, ← h id (Nat.le_refl _), texts]
    split
    · rfl
    split
    · rfl
    rename_i q hq _
    rw [before q hq]

theorem calls_congr (id : program.Id) (h : ∀ x < id, here x = here' x) :
    calls registry here id = calls registry here' id := by
  have texts : (fun (f : program.Id) (_ : f < id) => fieldText registry here f) =
      fun f _ => fieldText registry here' f := by
    funext f hf
    rw [fieldText, fieldText, selection_congr f fun x hx => h x (Nat.lt_of_le_of_lt hx hf)]
  rw [calls, calls, texts]

theorem selectionErrors_congr (id : program.Id) (h : ∀ x ≤ id, here x = here' x) :
    selectionErrors registry here id = selectionErrors registry here' id := by
  induction hn : id.val using Nat.strongRecOn generalizing id with
  | ind n ih =>
    subst hn
    have before : ∀ x < id, selectionErrors registry here x = selectionErrors registry here' x :=
      fun x hx => ih x.val hx x (fun y hy => h y (Nat.le_trans hy (Nat.le_of_lt hx))) rfl
    have hlt : ∀ x < id, here x = here' x := fun x hx => h x (Nat.le_of_lt hx)
    have references : (fun call => ((callReferences id call).flatMap fun f =>
          selectionErrors registry here f.val) ++ (callErrors call).map fun e => (id, e)) =
        fun call => ((callReferences id call).flatMap fun f =>
          selectionErrors registry here' f.val) ++ (callErrors call).map fun e => (id, e) := by
      funext call
      congr 1
      exact congrArg (List.flatMap · _) (funext fun f => before f.val f.property)
    rw [selectionErrors, selectionErrors, ← h id (Nat.le_refl _), references]
    split
    · rfl
    split
    · rfl
    rename_i q hq _
    rw [before q hq, selection_congr q fun x hx => hlt x (Nat.lt_of_le_of_lt hx hq)]
    congr 1
    split
    · rfl
    rw [calls_congr id hlt]

end Reference

namespace Coherent

variable {registry} {here here' : Context program} {bound bound' : Nat} {e e' : Evaluation program}

theorem narrow (h : Coherent registry here bound' e) (hle : bound ≤ bound') :
    Coherent registry here bound e :=
  ⟨fun hx => h.held (Nat.lt_of_lt_of_le hx hle), fun hx => h.agrees (Nat.lt_of_lt_of_le hx hle),
    fun hx => h.reported (Nat.lt_of_lt_of_le hx hle)⟩

/-- Coherence below a number depends on the context below that number. -/
theorem congr (h : Coherent registry here bound e)
    (hhere : ∀ x : program.Id, x.val < bound → here x = here' x) :
    Coherent registry here' bound e where
  held hx hs := h.held hx (by rw [hhere _ hx, hs])
  agrees hx hs := by
    rw [← Reference.selection_congr _ fun y hy => hhere y (Nat.lt_of_le_of_lt hy hx)]
    exact h.agrees hx hs
  reported hx hs := by
    rw [← Reference.selectionErrors_congr _ fun y hy => hhere y (Nat.lt_of_le_of_lt hy hx)]
    exact h.reported hx hs

/-- Slots that an advance leaves alone stay coherent. -/
theorem advance {raised : Raised program} {high : Nat} (h : Coherent registry here bound e)
    (hlow : Coherent registry here high e') (hstep : Advance high raised e e') :
    Coherent registry here bound e' where
  held {x s} hx hs := by
    by_cases hlt : x.val < high
    · exact hlow.held hlt hs
    · rw [hstep.frame x (Nat.le_of_not_lt hlt)]
      exact h.held hx hs
  agrees {x s} hx hs := by
    by_cases hlt : x.val < high
    · exact hlow.agrees hlt hs
    · rw [hstep.frame x (Nat.le_of_not_lt hlt)] at hs
      exact h.agrees hx hs
  reported {x s} hx hs p hp := by
    by_cases hlt : x.val < high
    · exact hlow.reported hlt hs p hp
    · rw [hstep.frame x (Nat.le_of_not_lt hlt)] at hs
      exact hstep.keeps (h.reported hx hs p hp)

/-- An advance that changes no slot keeps a state coherent. -/
theorem record {raised : Raised program} (h : Coherent registry here bound e)
    (hstep : Advance 0 raised e e') : Coherent registry here bound e' :=
  h.advance ⟨fun hx => absurd hx (Nat.not_lt_zero _), fun hx => absurd hx (Nat.not_lt_zero _),
    fun hx => absurd hx (Nat.not_lt_zero _)⟩ hstep

/-- A slot may be filled with the selection that the reference finds, once the errors on the way to
it are on record, and emptied unless the field is iterated. -/
theorem set {id : program.Id} {s : Option Selection} (h : Coherent registry here bound e)
    (hheld : here id = none)
    (hagrees : ∀ a, s = some a → Reference.selection registry here id = some a ∧
      ∀ p ∈ Reference.selectionErrors registry here id, e.Records p) :
    Coherent registry here bound { e with cache := e.cache.set id s } where
  held {x a} hx ha := by
    have hne : x ≠ id := by rintro rfl; rw [hheld] at ha; cases ha
    rw [getElem_set_id, if_neg hne]
    exact h.held hx ha
  agrees {x a} hx ha := by
    rw [getElem_set_id] at ha
    split at ha
    · rename_i heq
      exact heq ▸ (hagrees a ha).1
    · exact h.agrees hx ha
  reported {x a} hx ha := by
    rw [getElem_set_id] at ha
    split at ha
    · rename_i heq
      exact heq ▸ (hagrees a ha).2
    · exact h.reported hx ha

end Coherent

namespace Evaluating.Computes

variable {registry : Registry} {here : Context program} {high bound bound' : Nat} {α : Type}
  {m : Evaluating program α} {a : α} {raised : Raised program}

/-- A computation keeps a larger part of the cache coherent than the one that it changes. -/
theorem raise (h : Computes (Coherent registry here bound) high m a raised) (hhigh : high ≤ bound)
    (hle : bound ≤ bound') : Computes (Coherent registry here bound') high m a raised := by
  intro e he
  obtain ⟨e', hrun, he', hstep⟩ := h e (he.narrow hle)
  exact ⟨e', hrun, he.advance (he'.narrow hhigh) hstep, hstep⟩

/-- What a computation does to a coherent part of the cache it does to the whole cache. -/
theorem widen (h : Computes (Coherent registry here high) high m a raised) (hle : high ≤ bound) :
    Computes (Coherent registry here bound) bound m a raised := by
  intro e he
  obtain ⟨e', hrun, he', hstep⟩ := h.raise le_rfl hle e he
  exact ⟨e', hrun, he', hstep.widen hle⟩

end Evaluating.Computes

end DocQuery
