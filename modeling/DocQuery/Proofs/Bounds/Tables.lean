import DocQuery.Proofs.Bounds.Arena
import DocQuery.Proofs.Evaluation.Termination

/-! The tables of an evaluation.  Selections and messages stand in two lists with a place for each
field, and a place is looked up and written to by number.  A computation on the lists mirrors one on
fields if from every state it gives the same and leaves the same in the lists; it gives nothing where
the other gives up, and never because a number has no place. -/

namespace DocQuery.Indexed

/-- What is known, by the numbers of the fields. -/
structure Tables where
  cache : List (Option Selection)
  errors : List (List String)

/-- A computation on the tables, giving nothing where it indexes out of range. -/
abbrev OnTables : Type → Type := StateT Tables Option

namespace OnTables

/-- What has been taken by index. -/
def taken (found : Option α) : OnTables α := fun tables => found.map fun a => (a, tables)

variable (nodes : List Node)

def cached (id : Nat) : OnTables (Option Selection) := do
  taken (← get).cache[id]?

def setCached (id : Nat) (s : Option Selection) : OnTables Unit := do
  let cache ← taken (update? (← get).cache id fun _ => s)
  modify ({ · with cache })

/-- Records a message; the line in the log names the field. -/
def record (id : Nat) (message : String) : OnTables Unit := do
  let _ ← taken nodes[id]?
  let errors ← taken (update? (← get).errors id (· ++ [message]))
  modify ({ · with errors })

theorem run_taken {found : Option α} {a : α} (h : found = some a) (next : α → OnTables β)
    (tables : Tables) : (taken found >>= next).run tables = (next a).run tables := by
  subst h
  rfl

theorem run_get (next : Tables → OnTables α) (tables : Tables) :
    (get >>= next).run tables = (next tables).run tables := rfl

end OnTables

variable {program : Program} {α β γ : Type}

def Tables.of (e : Evaluation program) : Tables where
  cache := e.cache.toList
  errors := e.errors.toList.map (List.map EvaluationError.message)

/-- From every state, the computation on the tables gives and leaves what the other one does. -/
def Mirrors (raw : OnTables α) (attempt : Attempt program α) : Prop :=
  ∀ e, raw.run (.of e) = (attempt.run e).map fun found => (found.1, .of found.2)

namespace Mirrors

open OnTables

theorem pure (a : α) : Mirrors (Pure.pure a) (Pure.pure a : Attempt program α) := fun _ => rfl

theorem giveUp : Mirrors (taken none) (Attempt.giveUp : Attempt program α) := fun _ => rfl

theorem bind {raw : OnTables α} {attempt : Attempt program α} {next : α → OnTables β}
    {more : α → Attempt program β} (h : Mirrors raw attempt)
    (hnext : ∀ a, Mirrors (next a) (more a)) : Mirrors (raw >>= next) (attempt >>= more) := by
  intro e
  rw [StateT.run_bind, StateT.run_bind, h e]
  cases attempt.run e with
  | none => rfl
  | some found => exact hnext found.1 found.2

theorem taken {found : Option α} {a : α} {next : α → OnTables β} {attempt : Attempt program β}
    (hfound : found = some a) (h : Mirrors (next a) attempt) :
    Mirrors (OnTables.taken found >>= next) attempt := by
  subst hfound
  exact h

theorem walk {walk : Option α} {found : Option γ} {f : α → γ} {next : γ → OnTables β}
    {more : α → Attempt program β} (hfound : found = walk.map f)
    (h : ∀ a, Mirrors (next (f a)) (more a)) :
    Mirrors (OnTables.taken found >>= next) (Attempt.ofWalk walk >>= more) := by
  subst hfound
  cases walk with
  | none => exact fun _ => rfl
  | some a => exact h a

/-- Events are not kept in the tables. -/
theorem quiet {m : Evaluating program γ} {raw : OnTables α} {more : γ → Attempt program α}
    (hm : ∀ e, Tables.of (m.run e).2 = .of e) (h : ∀ c, Mirrors raw (more c)) :
    Mirrors raw (Attempt.of m >>= more) := by
  intro e
  have hrun := h (m.run e).1 (m.run e).2
  rw [hm] at hrun
  exact hrun

theorem mapM {f : γ → OnTables α} {g : γ → Attempt program α} {l : List γ}
    (h : ∀ c ∈ l, Mirrors (f c) (g c)) : Mirrors (l.mapM f) (l.mapM g) := by
  induction l with
  | nil => exact .pure []
  | cons c l ih =>
    rw [List.forall_mem_cons] at h
    rw [List.mapM_cons, List.mapM_cons]
    exact .bind h.1 fun a => .bind (ih h.2) fun as => .pure (a :: as)

theorem filterMapM {f : γ → OnTables (Option α)} {g : γ → Attempt program (Option α)} {l : List γ}
    (h : ∀ c ∈ l, Mirrors (f c) (g c)) : Mirrors (l.filterMapM f) (l.filterMapM g) := by
  induction l with
  | nil => exact .pure []
  | cons c l ih =>
    rw [List.forall_mem_cons] at h
    rw [List.filterMapM_cons, List.filterMapM_cons]
    refine .bind h.1 fun a => ?_
    cases a with
    | none => exact ih h.2
    | some a => exact .bind (ih h.2) fun as => .pure (a :: as)

theorem foldlM {f : α → γ → OnTables α} {g : α → γ → Attempt program α} {l : List γ}
    (h : ∀ a, ∀ c ∈ l, Mirrors (f a c) (g a c)) (a : α) : Mirrors (l.foldlM f a) (l.foldlM g a) := by
  induction l generalizing a with
  | nil => exact .pure a
  | cons c l ih =>
    rw [List.foldlM_cons, List.foldlM_cons]
    refine .bind (h a c List.mem_cons_self) fun b => ih (fun a c hc => ?_) b
    exact h a c (List.mem_cons_of_mem _ hc)

end Mirrors

/-! ### Places in the tables -/

theorem update?_map {f : α → β} {change : α → α} {change' : β → β}
    (h : ∀ a, change' (f a) = f (change a)) (items : List α) (index : Nat) :
    update? (items.map f) index change' = (update? items index change).map (List.map f) := by
  unfold update?
  rw [List.getElem?_map]
  cases items[index]? with
  | none => rfl
  | some item =>
    dsimp only [Option.map_some, Option.bind_eq_bind, Option.bind_some]
    rw [h, ← List.map_set]
    rfl

section

variable {n : Nat} (v : Vector α n) (id : Fin n)

theorem getElem?_toList_fin : v.toList[id.val]? = some v[id] := by
  rw [List.getElem?_eq_getElem (by simp), Vector.getElem_toList]
  rfl

theorem update?_toList (change : α → α) :
    update? v.toList id.val change = some (v.set id (change v[id])).toList := by
  unfold update?
  rw [getElem?_toList_fin, Vector.toList_set]
  rfl

end

theorem mirrors_cached (id : program.Id) :
    Mirrors (OnTables.cached id.val) (Attempt.of (Evaluating.cached? id)) := by
  intro e
  have hcache : (Tables.of e).cache[id.val]? = some e.cache[id] := getElem?_toList_fin e.cache id
  unfold OnTables.cached
  rw [OnTables.run_get, hcache]
  rfl

theorem mirrors_setCached (id : program.Id) (s : Option Selection) :
    Mirrors (OnTables.setCached id.val s) (Attempt.of (Evaluating.setCached id s)) := by
  intro e
  have hcache : update? (Tables.of e).cache id.val (fun _ => s) = some (e.cache.set id s).toList :=
    update?_toList e.cache id fun _ => s
  unfold OnTables.setCached
  rw [OnTables.run_get, OnTables.run_taken hcache]
  rfl

theorem mirrors_record (id : program.Id) (error : EvaluationError) :
    Mirrors (OnTables.record (nodesOf program) id.val error.message)
      (Attempt.of (Evaluating.record id error)) := by
  refine .taken (getElem?_nodesOf id) fun e => ?_
  have herrors : update? (Tables.of e).errors id.val (· ++ [error.message]) =
      some ((e.errors.set id (e.errors[id] ++ [error])).toList.map
        (List.map EvaluationError.message)) := by
    have hmap := @update?_map _ _ (List.map EvaluationError.message) (· ++ [error])
      (· ++ [error.message]) (fun errors => by simp) e.errors.toList id.val
    rw [update?_toList] at hmap
    exact hmap
  rw [OnTables.run_get, OnTables.run_taken herrors]
  rfl

end DocQuery.Indexed
