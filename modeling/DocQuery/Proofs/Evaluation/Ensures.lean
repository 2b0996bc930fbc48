import DocQuery.Proofs.Evaluation.Advance

/-! What a computation gives from whatever state it starts.  `Ensures m P Q` says that every result
of `m` satisfies `P` and that every error `m` records satisfies `Q`.  Nothing is asked of the cache,
so the rules for sequences and lists need no invariant. -/

namespace DocQuery.Evaluating

open Evaluation

variable {program : Program} {α β γ : Type}

/-- From every state the result satisfies `P`, and every error that is new satisfies `Q`. -/
def Ensures (m : Evaluating program α) (P : α → Prop)
    (Q : program.Id × EvaluationError → Prop) : Prop :=
  ∀ e, P (m.run e).1 ∧ ∀ p, (m.run e).2.Records p → e.Records p ∨ Q p

namespace Ensures

variable {m : Evaluating program α} {P P' : α → Prop}
  {Q : program.Id × EvaluationError → Prop}

theorem pure {a : α} (h : P a) : Ensures (Pure.pure a : Evaluating program α) P Q :=
  fun _ => ⟨h, fun _ => .inl⟩

/-- Of every computation nothing can be said. -/
protected theorem trivial (m : Evaluating program α) :
    Ensures m (fun _ => True) fun _ => True :=
  fun _ => ⟨.intro, fun _ _ => .inr .intro⟩

theorem mono (h : Ensures m P Q) (hP : ∀ a, P a → P' a) : Ensures m P' Q :=
  fun e => ⟨hP _ (h e).1, (h e).2⟩

theorem bind {f : α → Evaluating program β} {R : β → Prop} (h : Ensures m P Q)
    (hf : ∀ a, P a → Ensures (f a) R Q) : Ensures (m >>= f) R Q := by
  intro e
  obtain ⟨hresult, herrors⟩ := h e
  obtain ⟨hresult', herrors'⟩ := hf _ hresult (m.run e).2
  exact ⟨hresult', fun p hp => (herrors' p hp).elim (herrors p) .inr⟩

theorem map {f : α → β} {R : β → Prop} (h : Ensures m P Q) (hf : ∀ a, P a → R (f a)) :
    Ensures (do return f (← m)) R Q :=
  h.bind fun a ha => .pure (hf a ha)

/-- Results of a list of computations satisfy the postconditions one by one. -/
theorem mapM {l : List γ} {f : γ → Evaluating program α} {R : γ → α → Prop}
    (h : ∀ x ∈ l, Ensures (f x) (R x) Q) : Ensures (l.mapM f) (List.Forall₂ R l) Q := by
  induction l with
  | nil => exact .pure .nil
  | cons x l ih =>
    rw [List.mapM_cons]
    refine (h x List.mem_cons_self).bind fun a ha => ?_
    exact (ih fun y hy => h y (List.mem_cons_of_mem x hy)).map fun as has => .cons ha has

theorem mapM_all {l : List γ} {f : γ → Evaluating program α}
    (h : ∀ x ∈ l, Ensures (f x) P Q) :
    Ensures (l.mapM f) (fun as => as.length = l.length ∧ ∀ a ∈ as, P a) Q := by
  refine (mapM h).mono fun as has => ⟨has.length_eq.symm, fun a ha => ?_⟩
  induction has with
  | nil => cases ha
  | cons hx _ ih =>
    rcases List.mem_cons.mp ha with rfl | ha
    · exact hx
    · exact ih (fun x hx => h x (List.mem_cons_of_mem _ hx)) ha

theorem filterMapM {l : List γ} {f : γ → Evaluating program (Option α)}
    (h : ∀ x ∈ l, Ensures (f x) (fun _ => True) Q) :
    Ensures (l.filterMapM f) (fun _ => True) Q := by
  induction l with
  | nil => exact .pure .intro
  | cons x l ih =>
    have ih := ih fun y hy => h y (List.mem_cons_of_mem x hy)
    rw [List.filterMapM_cons]
    refine (h x List.mem_cons_self).bind fun a _ => ?_
    cases a with
    | none => exact ih
    | some b => exact ih.map fun _ _ => .intro

/-- A computation goes on alike with two continuations that agree on what it can give. -/
theorem bind_congr {f g : α → Evaluating program β} (h : Ensures m P Q)
    (hfg : ∀ a, P a → f a = g a) : m >>= f = m >>= g := by
  refine StateT.ext fun e => ?_
  rw [StateT.run_bind, StateT.run_bind]
  exact congrFun (congrArg StateT.run (hfg _ (h e).1)) _

/-- A computation that changes no error list. -/
theorem of_keeps (h : ∀ e, (m.run e).2.errors = e.errors) : Ensures m (fun _ => True) Q :=
  fun e => ⟨trivial, fun p hp => .inl (by rwa [Records, h] at hp)⟩

theorem logEvent (event : Event) : Ensures (Evaluating.logEvent event) (fun _ => True) Q :=
  of_keeps fun _ => rfl

theorem forM {l : List γ} {f : γ → Evaluating program Unit}
    (h : ∀ x ∈ l, Ensures (f x) (fun _ => True) Q) : Ensures (l.forM f) (fun _ => True) Q := by
  induction l with
  | nil => exact .pure .intro
  | cons x l ih =>
    exact (h x List.mem_cons_self).bind fun _ _ => ih fun y hy => h y (List.mem_cons_of_mem x hy)

theorem record {id : program.Id} {error : EvaluationError} (h : Q (id, error)) :
    Ensures (Evaluating.record id error) (fun _ => True) Q := by
  intro e
  obtain ⟨e', hrun, _, hstep⟩ := record_run 0 id error e
  rw [hrun]
  refine ⟨trivial, fun p hp => ((hstep.records p).mp hp).imp_right fun hmem => ?_⟩
  rwa [List.mem_singleton.mp hmem]

end Ensures

end DocQuery.Evaluating
