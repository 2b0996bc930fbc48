import DocQuery.Proofs.Evaluation.History
import DocQuery.Proofs.Program.Lookup

/-! What an evaluation leaves alone.  References lead to smaller numbers only, and an iteration
moves within the subtree of its field.  So a search for a selection changes nothing behind its
field, and an evaluation changes nothing behind the subtree of its field, from whatever state they
start.  Errors are added behind those on record, and the slot of the root is never written to. -/

namespace DocQuery

variable {program : Program}

/-- From `e` to `e'` nothing from `limit` on changes, errors are only added behind those on record,
and the root keeps its slot. -/
structure Evaluation.Frame (limit : Nat) (e e' : Evaluation program) : Prop where
  cache : ∀ x : program.Id, limit ≤ x.val → e'.cache[x] = e.cache[x]
  errors : ∀ x : program.Id, limit ≤ x.val → e'.errors[x] = e.errors[x]
  grows : ∀ x : program.Id, e.errors[x] <+: e'.errors[x]
  root : e'.cache[program.root] = e.cache[program.root]

namespace Evaluation.Frame

variable {limit limit' : Nat} {e e1 e2 : Evaluation program}

theorem refl (limit : Nat) (e : Evaluation program) : Frame limit e e :=
  ⟨fun _ _ => rfl, fun _ _ => rfl, fun _ => List.prefix_rfl, rfl⟩

theorem trans (h1 : Frame limit e e1) (h2 : Frame limit e1 e2) : Frame limit e e2 where
  cache x hx := (h2.cache x hx).trans (h1.cache x hx)
  errors x hx := (h2.errors x hx).trans (h1.errors x hx)
  grows x := (h1.grows x).trans (h2.grows x)
  root := h2.root.trans h1.root

theorem mono (h : Frame limit e e1) (hle : limit ≤ limit') : Frame limit' e e1 :=
  ⟨fun x hx => h.cache x (hle.trans hx), fun x hx => h.errors x (hle.trans hx), h.grows, h.root⟩

/-- Only slots below the limit and other than the root's are written to. -/
theorem of_cache {cache : Vector (Option Selection) program.size}
    (h : ∀ x : program.Id, x = program.root ∨ limit ≤ x.val → cache[x] = e.cache[x]) :
    Frame limit e { e with cache } :=
  ⟨fun x hx => h x (.inr hx), fun _ _ => rfl, fun _ => List.prefix_rfl, h _ (.inl rfl)⟩

end Evaluation.Frame

namespace Evaluating

open Evaluation

/-- From every state the computation leaves alone what is from `limit` on. -/
def Framed (limit : Nat) (m : Evaluating program α) : Prop :=
  ∀ e, Frame limit e (m.run e).2

namespace Framed

variable {limit limit' : Nat} {α β γ : Type} {m : Evaluating program α}

theorem pure (a : α) : Framed limit (Pure.pure a : Evaluating program α) := .refl limit

theorem bind {f : α → Evaluating program β} (h : Framed limit m) (hf : ∀ a, Framed limit (f a)) :
    Framed limit (m >>= f) := fun e => (h e).trans (hf (m.run e).1 (m.run e).2)

theorem map {f : α → β} (h : Framed limit m) : Framed limit (do return f (← m)) :=
  h.bind fun a => .pure (f a)

theorem mono (h : Framed limit m) (hle : limit ≤ limit') : Framed limit' m := fun e =>
  (h e).mono hle

theorem mapM {l : List γ} {f : γ → Evaluating program α} (h : ∀ x ∈ l, Framed limit (f x)) :
    Framed limit (l.mapM f) := by
  induction l with
  | nil => exact .pure []
  | cons x l ih =>
    rw [List.forall_mem_cons] at h
    rw [List.mapM_cons]
    exact h.1.bind fun _ => (ih h.2).map

theorem filterMapM {l : List γ} {f : γ → Evaluating program (Option α)}
    (h : ∀ x ∈ l, Framed limit (f x)) : Framed limit (l.filterMapM f) := by
  induction l with
  | nil => exact .pure []
  | cons x l ih =>
    rw [List.forall_mem_cons] at h
    rw [List.filterMapM_cons]
    refine h.1.bind fun a => ?_
    cases a with
    | none => exact ih h.2
    | some b => exact (ih h.2).map

theorem forM {l : List γ} {f : γ → Evaluating program Unit} (h : ∀ x ∈ l, Framed limit (f x)) :
    Framed limit (l.forM f) := by
  induction l with
  | nil => exact .pure ()
  | cons x l ih =>
    rw [List.forall_mem_cons] at h
    exact h.1.bind fun _ => ih h.2

end Framed

variable {limit : Nat} {id : program.Id}

theorem framed_cached? (limit : Nat) (id : program.Id) : Framed limit (cached? id) := .refl limit

theorem framed_logEvent (limit : Nat) (event : Event) :
    Framed limit (logEvent event : Evaluating program Unit) := fun _ =>
  ⟨fun _ _ => rfl, fun _ _ => rfl, fun _ => List.prefix_rfl, rfl⟩

theorem framed_setCached (hroot : id ≠ program.root) (hid : id.val < limit)
    (s : Option Selection) : Framed limit (setCached id s) := fun e => by
  refine .of_cache fun x hx => ?_
  rw [getElem_set_id, if_neg]
  rintro rfl
  exact hx.elim hroot (Nat.not_le_of_gt hid)

theorem framed_forgetBelow (hstop : program.tree.stop id ≤ limit) :
    Framed limit (forgetBelow id) := fun e => by
  obtain ⟨cache, hrun, hcache⟩ := forgetBelow_run id e
  rw [hrun]
  refine .of_cache fun x hx => ?_
  rw [hcache x, if_neg]
  rintro ⟨hlt, hx'⟩
  exact hx.elim (Program.ne_root_of_lt hlt) (Nat.not_le_of_gt (hx'.trans_le hstop))

theorem framed_record (hid : id.val < limit) (error : EvaluationError) :
    Framed limit (record id error) := fun e => by
  have herrors : ∀ x : program.Id, ((record id error).run e).2.errors[x] =
      if x = id then e.errors[id] ++ [error] else e.errors[x] := fun x =>
    getElem_set_id e.errors id x (e.errors[id] ++ [error])
  refine ⟨fun _ _ => rfl, fun x hx => ?_, fun x => ?_, rfl⟩
  · rw [herrors, if_neg]
    rintro rfl
    exact Nat.not_le_of_gt hid hx
  · rw [herrors]
    split
    · rename_i h
      rw [h]
      exact List.prefix_append _ _
    · exact List.prefix_rfl

section Resolving

variable {text : (f : program.Id) → f < id → Evaluating program String}
  (htext : ∀ f hf, Framed limit (text f hf))
include htext

theorem framed_renderWith (arg : String) : Framed limit (renderWith id text arg) := by
  refine .map (.mapM fun reference _ => ?_)
  dsimp only
  split
  · exact .pure _
  · split
    · exact (htext _ _).map
    · exact .pure _

theorem framed_resolveCall (hid : id.val < limit) (call : Call) :
    Framed limit (resolveCall id text call) := by
  unfold resolveCall
  split
  · exact (Framed.mapM fun arg _ => framed_renderWith htext arg).map
  · split
    · split
      · exact .pure _
      · split
        · exact (htext _ _).map
        · exact .pure _
    · exact (framed_record hid _).bind fun _ => .pure _

end Resolving

/-- A search for a selection changes nothing behind its field. -/
theorem framed_selection (registry : Registry) (id : program.Id) :
    Framed (id.val + 1) (selection registry id) := by
  induction hn : id.val using Nat.strongRecOn generalizing id with
  | ind n ih =>
  subst hn
  have hbefore : ∀ f < id, Framed (id.val + 1) (selection registry f) := fun f hf =>
    (ih f.val hf f rfl).mono (Nat.succ_le_succ (Nat.le_of_lt hf))
  rw [selection]
  refine (framed_cached? _ id).bind fun known => ?_
  split
  · exact (framed_logEvent _ _).bind fun _ => .pure _
  split
  · exact .pure _
  rename_i q hq _
  refine (hbefore q hq).bind fun context => ?_
  split
  · exact .pure _
  refine (framed_logEvent _ _).bind fun _ => ?_
  refine (Framed.filterMapM fun call _ => framed_resolveCall (fun f hf => (hbefore f hf).map)
    (Nat.lt_succ_self _) call).bind fun calls => ?_
  dsimp only
  refine (Framed.forM fun step _ => framed_logEvent _ _).bind fun _ => ?_
  split
  · exact (framed_setCached (Program.ne_root_of_lt hq) (Nat.lt_succ_self _) _).bind fun _ => .pure _
  · exact (framed_record (Nat.lt_succ_self _) _).bind fun _ => .pure _

/-- The root is an object, so it is not iterated. -/
theorem ne_root_of_type (h : (program.field id).type ≠ .object) : id ≠ program.root := by
  rintro rfl
  rw [Program.field_root] at h
  exact h rfl

theorem framed_iterate {α : Type} {row : Evaluating program α} (hroot : id ≠ program.root)
    (h : Framed (program.tree.stop id) row) (s : Selection) (f : List α → Value) :
    Framed (program.tree.stop id) (do
      let rows ← s.elements.mapM fun element => do
        setCached id (some element)
        forgetBelow id
        row
      forgetBelow id
      setCached id (some s)
      return f rows) := by
  have hset := framed_setCached hroot (Layout.lt_stop id)
  have hforget := framed_forgetBelow (Nat.le_refl (program.tree.stop id))
  refine (Framed.mapM fun element _ => ?_).bind fun rows => ?_
  · exact (hset _).bind fun _ => hforget.bind fun _ => h
  · exact hforget.bind fun _ => (hset _).bind fun _ => .pure _

theorem framed_assemble {registry : Registry} (hchild : ∀ c ∈ program.children id,
      Framed (program.tree.stop id) (evaluate registry c.val)) (s : Selection) :
    Framed (program.tree.stop id) (assemble registry id s) := by
  rw [assemble]
  cases htype : (program.field id).type with
  | text | number =>
    dsimp only
    split
    · exact .pure _
    -- The result is a variable here, since unfolding it would read the text as a number.
    generalize Value.setScalar _ s.textContent = result
    cases result with
    | ok value => exact .pure value
    | error e => exact (framed_record (Layout.lt_stop id) _).bind fun _ => .pure _
  | object =>
    refine Framed.map (.mapM fun c hc => (hchild c hc).bind fun value => ?_)
    have hlt : c.val.val < program.tree.stop id :=
      Nat.lt_of_lt_of_le (Layout.lt_stop c.val) (Layout.stop_child_le hc)
    exact (framed_setCached (Program.ne_root_of_lt c.property) hlt none).bind fun _ => .pure _
  | array =>
    have hroot : id ≠ program.root := ne_root_of_type (by rw [htype]; decide)
    exact framed_iterate hroot (.mapM hchild) s fun rows => .array rows.flatten
  | objects =>
    have hroot : id ≠ program.root := ne_root_of_type (by rw [htype]; decide)
    exact framed_iterate hroot (.mapM fun c hc => (hchild c hc).map) s
      fun rows => .objects ((rows.filter (!·.isEmpty)).map Value.ofFields)

/-- An evaluation changes nothing behind the subtree of its field. -/
theorem framed_evaluate (registry : Registry) (id : program.Id) :
    Framed (program.tree.stop id) (evaluate registry id) := by
  induction hk : program.size - id.val using Nat.strongRecOn generalizing id with
  | ind k ih =>
  subst hk
  rw [evaluate_eq]
  refine ((framed_selection registry id).mono (Layout.lt_stop id)).bind fun found => ?_
  split
  · exact .pure _
  · refine framed_assemble (fun c hc => ?_) _
    exact (ih _ (Nat.sub_lt_sub_left id.isLt c.property) c.val rfl).mono (Layout.stop_child_le hc)

end Evaluating

open Evaluation Evaluating

namespace Request

/-- A request ends before a field: the field stands behind the one that is asked for, and if that is
evaluated, behind its subtree. -/
def EndsBefore (x : program.Id) : Request program → Prop
  | selection id | text id | render id _ => id < x
  | evaluate id => ∀ d ∈ program.tree.subtree id, d < x

/-- The number from which on a request leaves everything alone. -/
def limit : Request program → Nat
  | selection id | text id | render id _ => id.val + 1
  | evaluate id => program.tree.stop id

theorem EndsBefore.limit_le {request : Request program} {x : program.Id}
    (h : request.EndsBefore x) : request.limit ≤ x.val := by
  cases request with
  | selection id | text id | render id _ => exact Nat.succ_le_of_lt h
  | evaluate id =>
    by_contra hlt
    have hid : id < x := h id (Layout.mem_subtree.mpr ⟨le_rfl, Layout.lt_stop id⟩)
    exact lt_irrefl x (h x (Layout.mem_subtree.mpr ⟨hid.le, Nat.lt_of_not_le hlt⟩))

theorem framed_answer (registry : Registry) (request : Request program) :
    Framed request.limit (request.answer registry) := by
  cases request with
  | selection id => exact (framed_selection registry id).map
  | text id => exact (framed_selection registry id).map.map
  | render id arg =>
    refine (framed_renderWith (fun f hf => ?_) arg).map
    exact ((framed_selection registry f).mono (Nat.succ_le_succ hf.le)).map
  | evaluate id => exact (framed_evaluate registry id).map

end Request

/-- Requests never touch what comes later.  From every state, a request leaves the slot and the
errors of every field alone that it ends before, and adds errors behind those on record only.  After
any requests the slot of the root holds the document. -/
theorem answer_leaves_later (program : Program) (registry : Registry) (document : String) :
    (∀ (request : Request program) (e : Evaluation program),
      let e' := ((request.answer registry).run e).2
      (∀ x, request.EndsBefore x → e'.cache[x] = e.cache[x] ∧ e'.errors[x] = e.errors[x]) ∧
        (∀ x : program.Id, ∃ added, e'.errors[x] = e.errors[x] ++ added) ∧
          e'.cache[program.root] = e.cache[program.root]) ∧
      ∀ history : List (Request program),
        (Evaluation.after registry document history).cache[program.root] =
          some (.text document) := by
  have hframe := fun request : Request program => request.framed_answer registry
  constructor
  · intro request e e'
    have hstep := hframe request e
    refine ⟨fun x hx => ?_, fun x => ?_, hstep.root⟩
    · exact ⟨hstep.cache x hx.limit_le, hstep.errors x hx.limit_le⟩
    · obtain ⟨added, hadded⟩ := hstep.grows x
      exact ⟨added, hadded.symm⟩
  · intro history
    induction history using List.reverseRecOn with
    | nil =>
      rw [Evaluation.after, List.foldl_nil, Evaluation.start, getElem_set_id, if_pos rfl]
    | append_singleton history request ih =>
      rw [Evaluation.after, List.foldl_append, List.foldl_cons, List.foldl_nil,
        (hframe request _).root]
      exact ih

end DocQuery
