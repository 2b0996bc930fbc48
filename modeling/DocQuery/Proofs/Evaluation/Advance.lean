import DocQuery.Proofs.Evaluation.Reference
import DocQuery.Proofs.Tree.Preorder

/-! How an evaluation advances.  `Advance high raised` relates two states between which no slot from
`high` on has changed and exactly the errors `raised` have been recorded.  `Computes inv high m a
raised` says that from every state with the invariant `inv` the computation `m` gives `a`, keeps the
invariant and makes such an advance.  Computations are put together from their parts by `bind`,
`mapM` and `filterMapM`. -/

namespace DocQuery

open Reference (Raised)

variable {program : Program}

namespace Evaluation

@[simp] theorem getElem_set_id {α : Type} (slots : Vector α program.size) (id x : program.Id)
    (a : α) : (slots.set id a)[x] = if x = id then a else slots[x] := by
  simp only [Fin.getElem_fin, Vector.getElem_set, Fin.ext_iff, eq_comm]

/-- Forgetting slots one after the other empties them and no others. -/
theorem getElem_cache_forget (ids : List program.Id)
    (cache : Vector (Option Selection) program.size) (x : program.Id) :
    (ids.foldl (fun cache d => cache.set d none) cache)[x] =
      if x ∈ ids then none else cache[x] := by
  induction ids generalizing cache with
  | nil => simp
  | cons d ids ih =>
    rw [List.foldl_cons, ih, getElem_set_id]
    by_cases hx : x = d <;> simp [hx]

/-- An error is on record. -/
def Records (e : Evaluation program) (p : program.Id × EvaluationError) : Prop :=
  p.2 ∈ e.errors[p.1]

/-- From `e` to `e'` no slot from `high` on changes, and the errors `raised` are recorded. -/
structure Advance (high : Nat) (raised : Raised program) (e e' : Evaluation program) : Prop where
  frame : ∀ x : program.Id, high ≤ x.val → e'.cache[x] = e.cache[x]
  records : ∀ p, e'.Records p ↔ e.Records p ∨ p ∈ raised

namespace Advance

variable {high high' : Nat} {raised raised' : Raised program} {e e1 e2 : Evaluation program}

theorem refl (high : Nat) (e : Evaluation program) : Advance high [] e e :=
  ⟨fun _ _ => rfl, by simp⟩

theorem trans (h1 : Advance high raised e e1) (h2 : Advance high raised' e1 e2) :
    Advance high (raised ++ raised') e e2 where
  frame x hx := (h2.frame x hx).trans (h1.frame x hx)
  records p := by rw [h2.records, h1.records, List.mem_append, or_assoc]

theorem widen (h : Advance high raised e e1) (hle : high ≤ high') : Advance high' raised e e1 :=
  ⟨fun x hx => h.frame x (Nat.le_trans hle hx), h.records⟩

/-- Errors that are on record already need not be counted, and the order does not matter. -/
theorem congr (h : Advance high raised e e1)
    (hr : ∀ p, e.Records p ∨ p ∈ raised ↔ e.Records p ∨ p ∈ raised') : Advance high raised' e e1 :=
  ⟨h.frame, fun p => (h.records p).trans (hr p)⟩

/-- Nothing is taken off the record. -/
theorem keeps (h : Advance high raised e e1) {p : program.Id × EvaluationError} (hp : e.Records p) :
    e1.Records p :=
  (h.records p).mpr (.inl hp)

theorem raises (h : Advance high raised e e1) {p : program.Id × EvaluationError} (hp : p ∈ raised) :
    e1.Records p :=
  (h.records p).mpr (.inr hp)

end Advance

end Evaluation

open Evaluation

namespace Evaluating

@[simp] theorem run_cached? (id : program.Id) (e : Evaluation program) :
    (cached? id).run e = (e.cache[id], e) := rfl

@[simp] theorem run_logEvent (event : Event) (e : Evaluation program) :
    (logEvent event).run e = ((), { e with log := e.log.push event }) := rfl

/-- A computation goes on from the result and the state of its first part. -/
theorem run_bind_of {α β : Type} {m : Evaluating program α} {f : α → Evaluating program β} {a : α}
    {e e1 : Evaluation program} (h : m.run e = (a, e1)) : (m >>= f).run e = (f a).run e1 := by
  rw [StateT.run_bind, h]
  rfl

/-- Logging changes no slot and records nothing. -/
theorem advance_log (high : Nat) (e : Evaluation program) (log : Array Event) :
    Advance high [] e { e with log } :=
  ⟨fun _ _ => rfl, by simp [Records]⟩

theorem advance_cache {high : Nat} {e : Evaluation program}
    {cache : Vector (Option Selection) program.size}
    (h : ∀ x : program.Id, high ≤ x.val → cache[x] = e.cache[x]) :
    Advance high [] e { e with cache } :=
  ⟨h, by simp [Records]⟩

/-- Recording an error. -/
theorem record_run (high : Nat) (id : program.Id) (error : EvaluationError)
    (e : Evaluation program) :
    ∃ e', (record id error).run e = ((), e') ∧ e'.cache = e.cache ∧
      Advance high [(id, error)] e e' := by
  refine ⟨_, rfl, rfl, fun _ _ => rfl, fun ⟨x, err⟩ => ?_⟩
  simp only [Records, Fin.getElem_fin, Vector.getElem_set, List.mem_singleton, Prod.mk.injEq,
    ← Fin.ext_iff]
  by_cases hx : id = x
  · subst hx; simp
  · simp [hx, Ne.symm hx]

/-- Forgetting the slots below a field. -/
theorem forgetBelow_run (id : program.Id) (e : Evaluation program) :
    ∃ cache, (forgetBelow id).run e = ((), { e with cache }) ∧ ∀ x : program.Id,
      cache[x] = if id < x ∧ x.val < program.tree.stop id then none else e.cache[x] := by
  refine ⟨_, rfl, fun x => ?_⟩
  simp only [getElem_cache_forget, Layout.mem_descendants]

variable {inv : Evaluation program → Prop} {high : Nat} {α β γ : Type}

/-- From every state with `inv`, `m` gives `a`, keeps `inv`, and advances. -/
def Computes (inv : Evaluation program → Prop) (high : Nat) (m : Evaluating program α) (a : α)
    (raised : Raised program) : Prop :=
  ∀ e, inv e → ∃ e', m.run e = (a, e') ∧ inv e' ∧ Advance high raised e e'

namespace Computes

variable {m : Evaluating program α} {a : α} {raised raised' : Raised program}

theorem pure (a : α) : Computes inv high (pure a : Evaluating program α) a [] :=
  fun e he => ⟨e, rfl, he, .refl high e⟩

theorem bind {f : α → Evaluating program β} {b : β} (h1 : Computes inv high m a raised)
    (h2 : Computes inv high (f a) b raised') :
    Computes inv high (m >>= f) b (raised ++ raised') := by
  intro e he
  obtain ⟨e1, hrun1, he1, hstep1⟩ := h1 e he
  obtain ⟨e2, hrun2, he2, hstep2⟩ := h2 e1 he1
  exact ⟨e2, by rw [StateT.run_bind, hrun1]; exact hrun2, he2, hstep1.trans hstep2⟩

/-- A result is passed on. -/
theorem map {f : α → β} (h : Computes inv high m a raised) :
    Computes inv high (do return f (← m)) (f a) raised := by
  have := h.bind (f := fun x => Pure.pure (f x)) (Computes.pure (f a))
  rwa [List.append_nil] at this

theorem mapM {l : List γ} {f : γ → Evaluating program α} {g : γ → α} {r : γ → Raised program}
    (h : ∀ x ∈ l, Computes inv high (f x) (g x) (r x)) :
    Computes inv high (l.mapM f) (l.map g) (l.flatMap r) := by
  induction l with
  | nil => exact .pure []
  | cons x xs ih =>
    rw [List.mapM_cons, List.flatMap_cons]
    exact (h x (by simp)).bind ((ih fun y hy => h y (by simp [hy])).map)

theorem filterMapM {l : List γ} {f : γ → Evaluating program (Option α)} {g : γ → Option α}
    {r : γ → Raised program} (h : ∀ x ∈ l, Computes inv high (f x) (g x) (r x)) :
    Computes inv high (l.filterMapM f) (l.filterMap g) (l.flatMap r) := by
  induction l with
  | nil => exact .pure []
  | cons x xs ih =>
    have ih := ih fun y hy => h y (by simp [hy])
    rw [List.filterMapM_cons, List.flatMap_cons]
    refine (h x (by simp)).bind ?_
    cases hg : g x with
    | none => simpa [hg] using ih
    | some b => simpa [hg] using ih.map

end Computes

end Evaluating

end DocQuery
