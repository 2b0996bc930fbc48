import DocQuery.Proofs.Evaluation.Ensures

/-! How children fill a value.  An object takes every member and an array every item.  A list of
objects has as many objects as elements were passed, so the first child of the next element opens a
new object and the others write into it.  No step is refused, so the value of a field is made of all
values of its children, which can be collected first. -/

namespace DocQuery.Evaluating

variable {program : Program} (id : program.Id) (child : (c : program.Id) → id < c →
  Evaluating program Value) (children : List { c : program.Id // id < c })

/-- Children that a value takes one after the other fill it with all their values. -/
theorem fill_eq_of_put {put : Value → String → Value → Except ValueError Value} {α : Type}
    {v : α → Value} {add : α → String × Value → α}
    (hput : ∀ a key item, put (v a) key item = .ok (v (add a (key, item)))) (a : α) :
    fill id put child (v a) children = do
      let row ← children.mapM fun ⟨c, h⟩ => return ((program.field c).name, ← child c h)
      return v (row.foldl add a) := by
  induction children generalizing a with
  | nil => simp [fill]
  | cons c children ih =>
    obtain ⟨c, h⟩ := c
    simp only [fill, List.mapM_cons, hput, bind_assoc, pure_bind, List.foldl_cons]
    exact bind_congr fun item => ih _

theorem fill_insert (fields : List (String × Value)) :
    fill id Value.insert child (.object fields) children = do
      let row ← children.mapM fun ⟨c, h⟩ => return ((program.field c).name, ← child c h)
      return .object (row.foldl (fun all f => Value.insertField f.1 f.2 all) fields) :=
  fill_eq_of_put id child children (v := Value.object) (fun _ _ _ => rfl) fields

theorem fill_push_array (index : Nat) (items : List Value) :
    fill id (·.push index) child (.array items) children = do
      let row ← children.mapM fun ⟨c, h⟩ => child c h
      return .array (items ++ row) := by
  induction children generalizing items with
  | nil => simp [fill]
  | cons c children ih =>
    obtain ⟨c, h⟩ := c
    simp only [fill, Value.push, List.mapM_cons, bind_assoc, pure_bind]
    refine bind_congr fun item => ?_
    rw [ih]
    simp only [List.append_assoc, List.singleton_append]

/-- Children of an element whose object is open write into it. -/
theorem fill_push_open (before : List (List (String × Value))) (fields : List (String × Value)) :
    fill id (·.push before.length) child (.objects (before ++ [fields])) children = do
      let row ← children.mapM fun ⟨c, h⟩ => return ((program.field c).name, ← child c h)
      return .objects (before ++ [row.foldl (fun all f => Value.insertField f.1 f.2 all) fields]) :=
  fill_eq_of_put id child children (v := fun fields => .objects (before ++ [fields]))
    (fun fields key item => by simp [Value.push, List.modify_eq_take_drop]) fields

theorem fill_push_objects (objects : List (List (String × Value))) (hchildren : children ≠ []) :
    fill id (·.push objects.length) child (.objects objects) children = do
      let row ← children.mapM fun ⟨c, h⟩ => return ((program.field c).name, ← child c h)
      return .objects (objects ++ [Value.ofFields row]) := by
  obtain _ | ⟨⟨c, h⟩, children⟩ := children
  · exact absurd rfl hchildren
  simp only [fill, List.mapM_cons, Value.push, Nat.lt_irrefl, if_true, if_false, bind_assoc,
    pure_bind]
  refine bind_congr fun item => ?_
  rw [fill_push_open]
  rfl

/-- Rounds that each add a row build what the rows of all elements give together. -/
theorem foldlM_rounds {α : Type} {row : Selection → Evaluating program α} {P : α → Prop}
    {v : List α → Value} {round : Value → Selection × Nat → Evaluating program Value}
    (hrow : ∀ element, Ensures (row element) P fun _ => True)
    (hround : ∀ rows element, (∀ r ∈ rows, P r) →
      round (v rows) (element, rows.length) = do
        let r ← row element
        return v (rows ++ [r]))
    (elements : List Selection) (rows : List α) (hrows : ∀ r ∈ rows, P r) :
    (elements.zipIdx rows.length).foldlM round (v rows) = do
      let more ← elements.mapM row
      return v (rows ++ more) := by
  induction elements generalizing rows with
  | nil => simp
  | cons element elements ih =>
    rw [List.zipIdx_cons, List.foldlM_cons, hround rows element hrows, List.mapM_cons]
    simp only [bind_assoc, pure_bind]
    refine (hrow element).bind_congr fun r hr => ?_
    have hmore : ∀ r' ∈ rows ++ [r], P r' := fun r' hr' => by
      rcases List.mem_append.mp hr' with h | h
      · exact hrows r' h
      · rwa [List.mem_singleton.mp h]
    have := ih (rows ++ [r]) hmore
    simpa only [List.length_append, List.length_singleton, List.append_assoc,
      List.singleton_append] using this

theorem ensures_row : Ensures
    (children.mapM fun ⟨c, h⟩ => return ((program.field c).name, ← child c h))
    (fun row => row.isEmpty = children.isEmpty) fun _ => True :=
  (Ensures.mapM fun _ _ => .trivial _).mono fun row hrow => by cases hrow <;> rfl

section Rows

variable (enter : Selection → Evaluating program Unit)

/-- An array takes the values of all children in each element, one row after the other. -/
theorem foldlM_push_array (elements : List Selection) :
    elements.zipIdx.foldlM (fun value element => do
        enter element.1
        fill id (·.push element.2) child value children) (.array []) = do
      let rows ← elements.mapM fun element => do
        enter element
        children.mapM fun ⟨c, h⟩ => child c h
      return .array rows.flatten := by
  refine foldlM_rounds (P := fun _ => True) (v := fun rows => .array rows.flatten)
    (fun _ => .trivial _) (fun rows element _ => ?_) elements []
    fun _ _ => trivial
  dsimp only
  rw [bind_assoc]
  refine bind_congr fun _ => ?_
  rw [fill_push_array]
  simp only [List.flatten_append, List.flatten_singleton]

/-- A list of objects takes an object for each element, unless there are no children. -/
theorem foldlM_push_objects (elements : List Selection) :
    elements.zipIdx.foldlM (fun value element => do
        enter element.1
        fill id (·.push element.2) child value children) (.objects []) = do
      let rows ← elements.mapM fun element => do
        enter element
        children.mapM fun ⟨c, h⟩ => return ((program.field c).name, ← child c h)
      return .objects ((rows.filter (!·.isEmpty)).map Value.ofFields) := by
  refine foldlM_rounds (P := fun row => row.isEmpty = children.isEmpty)
    (v := fun rows => .objects ((rows.filter (!·.isEmpty)).map Value.ofFields))
    (fun element => ?_) (fun rows element hrows => ?_) elements [] (by simp)
  · exact (Ensures.trivial (enter element)).bind fun _ _ => ensures_row id child children
  · dsimp only
    rw [bind_assoc]
    refine bind_congr fun _ => ?_
    by_cases hchildren : children = []
    · subst hchildren
      simp [fill]
    · have hfilter : ∀ rows : List (List (String × Value)),
          (∀ row ∈ rows, row.isEmpty = children.isEmpty) →
            rows.filter (!·.isEmpty) = rows := fun rows hrows =>
        List.filter_eq_self.mpr fun row hrow => by simp [hrows row hrow, hchildren]
      have hfill := fill_push_objects id child children (rows.map Value.ofFields) hchildren
      rw [List.length_map] at hfill
      rw [hfilter rows hrows, hfill]
      refine (ensures_row id child children).bind_congr fun row hrow => ?_
      rw [hfilter (rows ++ [row]) fun r hr => (List.mem_append.mp hr).elim (hrows r) fun h =>
        List.mem_singleton.mp h ▸ hrow, List.map_append, List.map_singleton]

end Rows

/-- The value of a field over its selection, the values of the children being collected first. -/
def assemble (registry : Registry) (id : program.Id) (s : Selection) :
    Evaluating program Value := do
  match (program.field id).type with
  | .text | .number =>
    if s.isEmpty then return .empty (program.field id).type
    else
      match (Value.empty (program.field id).type).setScalar s.textContent with
      | .ok value => return value
      | .error e =>
        record id (.value e)
        return .empty (program.field id).type
  | .object =>
    let fields ← (program.children id).mapM fun ⟨c, _⟩ => do
      let value ← evaluate registry c
      setCached c none
      return ((program.field c).name, value)
    return .object (Value.ofFields fields)
  | .array =>
    let rows ← s.elements.mapM fun element => do
      setCached id (some element)
      forgetBelow id
      (program.children id).mapM fun ⟨c, _⟩ => evaluate registry c
    forgetBelow id
    setCached id (some s)
    return .array rows.flatten
  | .objects =>
    let rows ← s.elements.mapM fun element => do
      setCached id (some element)
      forgetBelow id
      (program.children id).mapM fun ⟨c, _⟩ =>
        return ((program.field c).name, ← evaluate registry c)
    forgetBelow id
    setCached id (some s)
    return .objects ((rows.filter (!·.isEmpty)).map Value.ofFields)

/-- The value of a field is made of all values of its children. -/
theorem evaluate_eq (registry : Registry) (id : program.Id) : evaluate registry id = (do
    match ← selection registry id with
    | none => return .empty (program.field id).type
    | some s => assemble registry id s) := by
  rw [evaluate]
  refine bind_congr fun found => ?_
  cases found with
  | none => rfl
  | some s =>
  dsimp only
  rw [assemble]
  cases htype : (program.field id).type with
  | text | number =>
    change (if s.isEmpty then _ else _) = if s.isEmpty then _ else _
    split
    · rfl
    -- The result is a variable here, since unfolding it would read the text as a number.
    generalize Value.setScalar _ s.textContent = result
    cases result <;> rfl
  | object =>
    dsimp only
    rw [Value.empty, fill_insert]
    simp only [bind_assoc, pure_bind]
    rfl
  | array =>
    have hfold := foldlM_push_array id (fun c _ => evaluate registry c) (program.children id)
      (fun element => do setCached id (some element); forgetBelow id) s.elements
    simp only [bind_assoc] at hfold
    dsimp only
    rw [Value.empty, hfold, bind_assoc]
    simp only [pure_bind]
  | objects =>
    have hfold := foldlM_push_objects id (fun c _ => evaluate registry c) (program.children id)
      (fun element => do setCached id (some element); forgetBelow id) s.elements
    simp only [bind_assoc] at hfold
    dsimp only
    rw [Value.empty, hfold, bind_assoc]
    simp only [pure_bind]

end DocQuery.Evaluating
