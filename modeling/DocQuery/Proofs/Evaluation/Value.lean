import DocQuery.Proofs.Evaluation.Filling
import DocQuery.Proofs.Evaluation.Selection

/-! Values without and with the cache.  While a field is iterated its own slot holds the current
element, and before each element the slots below it are emptied, so each element starts from a
state that is coherent with the context moved to it: a field before the iterated one does not
depend on its element.  After the last element the field's selection is put back. -/

namespace DocQuery

open Evaluation Evaluating
open Reference (Raised)

variable {program : Program} {registry : Registry} {here : Context program} {id : program.Id}

/-- Only the root and fields before `id` stand at something. -/
def Context.Before (here : Context program) (id : program.Id) : Prop :=
  ∀ x, x ≠ program.root → (here x).isSome → x < id

namespace Context.Before

theorem start (document : String) (id : program.Id) : (Context.start program document).Before id :=
  fun x hroot hx => absurd hx (by simp [Context.start, hroot])

theorem mono (h : here.Before id) {c : program.Id} (hc : id < c) : here.Before c :=
  fun x hroot hx => Nat.lt_trans (h x hroot hx) hc

/-- The children of a field that moves to an element come behind it. -/
theorem enter (h : here.Before id) {c : program.Id} (hc : id < c) (element : Selection) :
    (here.enter id element).Before c := by
  intro x hroot hx
  by_cases hxid : x = id
  · exact hxid ▸ hc
  · rw [Context.enter, if_neg hxid] at hx
    exact h.mono hc x hroot hx

theorem eq_none (h : here.Before id) {x : program.Id} (hroot : x ≠ program.root) (hx : id ≤ x) :
    here x = none :=
  Option.not_isSome_iff_eq_none.mp fun hsome => Nat.not_lt.mpr hx (h x hroot hsome)

end Context.Before

/-- A number behind another one is not the root's. -/
theorem Program.ne_root_of_lt {c : program.Id} (h : id < c) : c ≠ program.root := by
  rintro rfl
  exact Nat.not_lt_zero _ h

/-- Slots of a subtree when its iterated field moves: the field's own slot is filled, and those
below it are empty. -/
structure Moved (id : program.Id) (s : Selection)
    (before after : Vector (Option Selection) program.size) : Prop where
  slot : ∀ x : program.Id, after[x] =
    if x = id then some s
    else if id < x ∧ x.val < program.tree.stop id then none
    else before[x]

/-- A move changes no slot behind the subtree. -/
theorem Moved.advance {s : Selection} {e : Evaluation program}
    {cache : Vector (Option Selection) program.size} (h : Moved id s e.cache cache) :
    Advance (program.tree.stop id) [] e { e with cache } := by
  refine advance_cache fun x hx => ?_
  have hne : x ≠ id := by
    rintro rfl
    exact Nat.not_lt.mpr hx (Layout.lt_stop x)
  rw [h.slot x, if_neg hne, if_neg fun hlt => Nat.not_lt.mpr hx hlt.2]

/-- A state that is coherent before a field is coherent in its subtree after a move, under each
context that agrees before the field and gives it the selection. -/
theorem Moved.coherent {here' : Context program} {s : Selection} {e : Evaluation program}
    {cache : Vector (Option Selection) program.size} (h : Moved id s e.cache cache)
    (he : Coherent registry here id.val e) (hsame : ∀ x < id, here x = here' x)
    (hbelow : ∀ x, id < x → here' x = none) (hs : Reference.selection registry here' id = some s)
    (hreported : ∀ p ∈ Reference.selectionErrors registry here' id, e.Records p) :
    Coherent registry here' (program.tree.stop id) { e with cache } := by
  have hlow : Coherent registry here' id.val e := he.congr fun x hx => hsame x (Fin.lt_def.mpr hx)
  -- A slot below the end of the subtree is the field's own, one below it, or one before it.
  have hslot : ∀ x : program.Id, x.val < program.tree.stop id → ∀ a, cache[x] = some a →
      x = id ∧ a = s ∨ x.val < id.val ∧ e.cache[x] = some a := by
    intro x hx a ha
    rw [h.slot x] at ha
    split at ha
    · rename_i heq
      exact .inl ⟨heq, (Option.some.inj ha).symm⟩
    · split at ha
      · cases ha
      · exact .inr ⟨by simp only [Fin.lt_def, Fin.ext_iff] at *; omega, ha⟩
  constructor
  · intro x a hx ha
    rw [h.slot x]
    by_cases heq : x = id
    · subst heq
      rw [Reference.selection_of_here ha] at hs
      rw [if_pos rfl, hs]
    · have hlt : ¬ id < x := fun hlt => by rw [hbelow x hlt] at ha; cases ha
      rw [if_neg heq, if_neg fun hx => hlt hx.1]
      exact hlow.held (by simp only [Fin.lt_def, Fin.ext_iff] at *; omega) ha
  · intro x a hx ha
    obtain ⟨rfl, rfl⟩ | ⟨hlt, ha⟩ := hslot x hx a ha
    · exact hs
    · exact hlow.agrees hlt ha
  · intro x a hx ha
    obtain ⟨rfl, rfl⟩ | ⟨hlt, ha⟩ := hslot x hx a ha
    · exact hreported
    · exact hlow.reported hlt ha

/-- Moving to an element fills the slot of the field and empties those below. -/
theorem enter_run (id : program.Id) (s : Selection) (e : Evaluation program) :
    ∃ cache, (do setCached id (some s); forgetBelow id : Evaluating program Unit).run e =
      ((), { e with cache }) ∧ Moved id s e.cache cache := by
  obtain ⟨cache, hrun, hcache⟩ := forgetBelow_run id { e with cache := e.cache.set id (some s) }
  refine ⟨cache, hrun, ⟨fun x => ?_⟩⟩
  rw [hcache x, getElem_set_id]
  by_cases hx : x = id <;> simp [hx]

/-- So does putting the selection back after the last element. -/
theorem leave_run (id : program.Id) (s : Selection) (e : Evaluation program) :
    ∃ cache, (do forgetBelow id; setCached id (some s) : Evaluating program Unit).run e =
      ((), { e with cache }) ∧ Moved id s e.cache cache := by
  obtain ⟨cache, hrun, hcache⟩ := forgetBelow_run id e
  refine ⟨cache.set id (some s), by rw [run_bind_of hrun]; rfl, ⟨fun x => ?_⟩⟩
  rw [getElem_set_id, hcache x]

/-- After a move to an element a state that is coherent before a field is so in its subtree. -/
theorem Moved.enter {element : Selection} {e : Evaluation program}
    {cache : Vector (Option Selection) program.size} (h : Moved id element e.cache cache)
    (hbefore : here.Before id) (he : Coherent registry here id.val e) :
    Coherent registry (here.enter id element) (program.tree.stop id) { e with cache } := by
  have henter : here.enter id element id = some element := if_pos rfl
  have hbelow : ∀ x, id < x → here.enter id element x = none := fun x hx => by
    rw [Context.enter, if_neg (Ne.symm (Fin.ne_of_lt hx))]
    exact hbefore.eq_none (Program.ne_root_of_lt hx) (Nat.le_of_lt hx)
  exact h.coherent he (fun x hx => (if_neg (Fin.ne_of_lt hx)).symm) hbelow
    (Reference.selection_of_here henter) (by simp [Reference.selectionErrors_of_here henter])

/-- Before the field the context at an element is the one around the iteration. -/
theorem Coherent.leave {element : Selection} {e : Evaluation program}
    (he : Coherent registry (here.enter id element) (program.tree.stop id) e) :
    Coherent registry here id.val e :=
  (he.narrow (Nat.le_of_lt (Layout.lt_stop id))).congr fun _ hx => if_neg (Fin.ne_of_lt hx)

/-- One round of an iteration keeps the state coherent before the field. -/
theorem computes_round {α : Type} {body : Evaluating program α} {a : α} {raised : Raised program}
    {element : Selection} (hbefore : here.Before id)
    (hbody : Computes (Coherent registry (here.enter id element) (program.tree.stop id))
      (program.tree.stop id) body a raised) :
    Computes (Coherent registry here id.val) (program.tree.stop id)
      (do setCached id (some element); forgetBelow id; body) a raised := by
  intro e he
  obtain ⟨cache, hrun, hmoved⟩ := enter_run id element e
  obtain ⟨e1, hrun1, he1, hstep1⟩ := hbody _ (hmoved.enter hbefore he)
  refine ⟨e1, ?_, he1.leave, hmoved.advance.trans hstep1⟩
  rw [← bind_assoc, run_bind_of hrun, hrun1]

/-- A whole iteration gives one row per element and puts the selection of the field back. -/
theorem iterate_run {α : Type} {body : Selection → Evaluating program α} {row : Selection → α}
    {raised : Selection → Raised program} {s : Selection} {e : Evaluation program}
    (f : List α → Value) (hbefore : here.Before id)
    (he : Coherent registry here (program.tree.stop id) e)
    (hs : Reference.selection registry here id = some s)
    (hreported : ∀ p ∈ Reference.selectionErrors registry here id, e.Records p)
    (hbody : ∀ element,
      Computes (Coherent registry (here.enter id element) (program.tree.stop id))
        (program.tree.stop id) (body element) (row element) (raised element)) :
    ∃ e', (do
          let rows ← s.elements.mapM fun element => do
            setCached id (some element)
            forgetBelow id
            body element
          forgetBelow id
          setCached id (some s)
          return f rows : Evaluating program Value).run e =
        (f (s.elements.map row), e') ∧
      Coherent registry here (program.tree.stop id) e' ∧
        Advance (program.tree.stop id) (s.elements.flatMap raised) e e' := by
  have hlow := he.narrow (Nat.le_of_lt (Layout.lt_stop id))
  obtain ⟨e1, hrun1, he1, hstep1⟩ :=
    Computes.mapM (l := s.elements) (fun element _ => computes_round hbefore (hbody element)) e hlow
  obtain ⟨cache, hrun2, hmoved⟩ := leave_run id s e1
  refine ⟨{ e1 with cache }, ?_, ?_, ?_⟩
  · rw [run_bind_of hrun1, ← bind_assoc, run_bind_of hrun2]
    rfl
  · exact hmoved.coherent he1 (fun _ _ => rfl)
      (fun x hx => hbefore.eq_none (Program.ne_root_of_lt hx) (Nat.le_of_lt hx)) hs
      fun p hp => hstep1.keeps (hreported p hp)
  · rw [← List.append_nil (s.elements.flatMap raised)]
    exact hstep1.trans hmoved.advance

/-- A scalar is the value that its text gives, or else the empty one, with the error recorded. -/
theorem computes_scalar (id : program.Id) (bound : Nat) (empty : Value)
    (result : Except ValueError Value) :
    Computes (Coherent registry here bound) bound
      (match result with
      | .ok value => return value
      | .error error => do
        record id (.value error)
        return empty)
      (result.toOption.getD empty)
      (match result with
        | .ok _ => []
        | .error error => [(id, .value error)]) := by
  cases result with
  | ok value => exact .pure _
  | error error =>
    exact (computes_record registry here bound bound id (.value error)).bind (.pure _)

/-- The value of a child of an object, whose slot is emptied afterwards. -/
theorem computes_member {c : { c : program.Id // id < c }} {bound : Nat} {value : Value}
    {raised : Raised program} (hbefore : here.Before id) (hc : c.val.val < bound)
    (h : Computes (Coherent registry here bound) bound (evaluate registry c.val) value raised) :
    Computes (Coherent registry here bound) bound
      (do
        let value ← evaluate registry c.val
        setCached c.val none
        return ((program.field c.val).name, value))
      ((program.field c.val).name, value) raised := by
  intro e he
  obtain ⟨e1, hrun, he1, hstep⟩ := h e he
  have hnone : here c.val = none :=
    hbefore.eq_none (Program.ne_root_of_lt c.property) (Nat.le_of_lt c.property)
  refine ⟨_, by rw [run_bind_of hrun]; rfl, he1.set hnone (by simp), ?_⟩
  rw [← List.append_nil raised]
  refine hstep.trans (advance_cache fun x hx => ?_)
  rw [getElem_set_id, if_neg]
  rintro rfl
  exact Nat.not_lt.mpr hx hc

/-- From a coherent state a value is built as the reference builds it. -/
theorem computes_evaluate (registry : Registry) (here : Context program) (id : program.Id)
    (hbefore : here.Before id) :
    Computes (Coherent registry here (program.tree.stop id)) (program.tree.stop id)
      (evaluate registry id) (Reference.value registry here id)
      (Reference.valueErrors registry here id) := by
  induction hn : program.size - id.val using Nat.strongRecOn generalizing id here with
  | ind n ih =>
  subst hn
  have hchild : ∀ c ∈ program.children id, ∀ here : Context program, here.Before c.val →
      Computes (Coherent registry here (program.tree.stop id)) (program.tree.stop id)
        (evaluate registry c.val) (Reference.value registry here c.val)
        (Reference.valueErrors registry here c.val) := fun c hc here hbefore =>
    (ih _ (Nat.sub_lt_sub_left id.isLt c.property) here c.val hbefore rfl).widen
      (Layout.stop_child_le hc)
  intro e he
  obtain ⟨e1, hrun1, he1, hstep1⟩ := computes_selection registry here id (Layout.lt_stop id) e he
  rw [evaluate_eq, Reference.value, Reference.valueErrors]
  dsimp only
  rw [run_bind_of hrun1]
  cases hs : Reference.selection registry here id with
  | none => exact ⟨e1, rfl, he1, by simpa using hstep1⟩
  | some s =>
  have hreported : ∀ p ∈ Reference.selectionErrors registry here id, e1.Records p :=
    fun p hp => hstep1.raises hp
  dsimp only
  rw [assemble]
  cases htype : (program.field id).type with
  | text | number =>
    dsimp only
    rw [Reference.scalar]
    by_cases hempty : s.isEmpty
    · rw [if_pos hempty, if_pos hempty]
      exact ⟨e1, rfl, he1, by simpa using hstep1⟩
    · rw [if_neg hempty, if_neg hempty]
      -- The result is a variable here, since unfolding it would read the text as a number.
      generalize Value.setScalar _ s.textContent = result
      obtain ⟨e2, hrun2, he2, hstep2⟩ := computes_scalar id _ _ result e1 he1
      exact ⟨e2, hrun2, he2, hstep1.trans hstep2⟩
  | object =>
    obtain ⟨e2, hrun2, he2, hstep2⟩ := Computes.mapM (fun c hc => computes_member hbefore
      (Nat.lt_of_lt_of_le (Layout.lt_stop c.val) (Layout.stop_child_le hc))
      (hchild c hc here (hbefore.mono c.property))) e1 he1
    exact ⟨e2, run_bind_of hrun2, he2, hstep1.trans hstep2⟩
  | array =>
    obtain ⟨e2, hrun2, he2, hstep2⟩ := iterate_run (fun rows => .array rows.flatten) hbefore he1 hs
      hreported fun element => Computes.mapM fun c hc =>
        hchild c hc (here.enter id element) (hbefore.enter c.property element)
    exact ⟨e2, hrun2, he2, hstep1.trans hstep2⟩
  | objects =>
    obtain ⟨e2, hrun2, he2, hstep2⟩ := iterate_run
      (fun rows => .objects ((rows.filter (!·.isEmpty)).map Value.ofFields)) hbefore he1 hs
      hreported fun element => Computes.mapM fun c hc =>
        (hchild c hc (here.enter id element) (hbefore.enter c.property element)).map
          (f := fun value => ((program.field c.val).name, value))
    exact ⟨e2, hrun2, he2, hstep1.trans hstep2⟩

end DocQuery
