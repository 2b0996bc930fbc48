import DocQuery.Evaluation.Run
import DocQuery.Proofs.Program.Walk

/-! Evaluation ends.  A selection is looked for by a function that calls itself for the parent and for
the fields that names mean, and nothing in it looks at numbers or notices a field that is in progress
already.  Here it stands as such a function, with a bound on the depth of its calls, and gives up
where the bound is met.  Every call inside it is for a smaller number, so the bound is not met as long
as it is greater than the number, whatever the document, the operations and the state are.  The value
of a field calls itself for the children, which have greater numbers, and so it ends as well. -/

namespace DocQuery

/-- A computation during an evaluation that may give up. -/
abbrev Attempt (program : Program) : Type → Type := StateT (Evaluation program) Option

namespace Attempt

open Evaluating

variable {program : Program} {α β : Type}

/-- A computation that does not give up. -/
def of (m : Evaluating program α) : Attempt program α := fun e => some (m.run e)

/-- Giving up. -/
def giveUp : Attempt program α := fun _ => none

/-- A walk, giving up where its steps do not suffice. -/
def ofWalk : Option α → Attempt program α
  | some a => pure a
  | none => giveUp

/-! ### The recursion -/

/-- Expands the references of an argument, `find` telling what a name means and `text` giving the
text of any field. -/
def renderWith (id : program.Id) (find : String → Attempt program (Option program.Id))
    (text : program.Id → Attempt program String) (arg : String) : Attempt program String := do
  let template := Template.ofText arg
  let parts ← template.references.mapM fun (before, name) => do
    if name.isEmpty || name == (program.field id).name then return before ++ placeholder
    else
      match ← find name with
      | some f => return before ++ (← text f)
      | none => return before
  return String.join parts ++ template.tail

/-- Resolves the references in a call. -/
def resolveCall (id : program.Id) (find : String → Attempt program (Option program.Id))
    (text : program.Id → Attempt program String) (call : Call) :
    Attempt program (Option Call) := do
  if call.name != "link" then
    return some { call with args := ← call.args.mapM (renderWith id find text) }
  else
    match call.args with
    | [target] =>
      if target == (program.field id).name then return none
      else
        match ← find target with
        | some f => return some { call with args := [← text f] }
        | none => return some { call with args := [""] }
    | args =>
      of (record id (.operation (.arity call.name 1 args.length)))
      return none

/-- Makes the calls of a field on the selection of its parent. -/
def settle (registry : Registry) (id : program.Id) (context : Selection) (calls : List Call) :
    Evaluating program (Option Selection) := do
  let (steps, result) := runPipeline registry context calls
  steps.forM fun step => logEvent (.call step)
  match result with
  | .ok s =>
    setCached id (some s)
    return some s
  | .error e =>
    record id (.operation e)
    return none

/-- What a name means for a field, by a walk of so many steps. -/
def find (steps : Nat) (id : program.Id) (name : String) : Attempt program (Option program.Id) :=
  ofWalk (Program.lookupWithin name steps id)

/-- The text of a selection that is looked for, empty if there is none. -/
def textOf (m : Attempt program (Option Selection)) : Attempt program String :=
  return ((← m).map (·.textContent)).getD ""

/-- Looks for the selection of a field, `again` being called for the selections of others. -/
def selectionStep (registry : Registry) (steps : Nat)
    (again : program.Id → Attempt program (Option Selection)) (id : program.Id) :
    Attempt program (Option Selection) := do
  match ← of (cached? id) with
  | some s =>
    of (logEvent (.hit (program.field id).name))
    return some s
  | none =>
    match (program.tree.slot id).parent with
    | none => return none
    | some q =>
      match ← again q with
      | none => return none
      | some context =>
        of (logEvent (.miss (program.field id).name))
        let calls ← (program.field id).pipeline.filterMapM <|
          resolveCall id (find steps id) fun f => textOf (again f)
        of (settle registry id context calls)

/-- Looks for the selection of a field, with calls up to a depth. -/
def selectionWithin (registry : Registry) : Nat → program.Id → Attempt program (Option Selection)
  | 0, _ => giveUp
  | depth + 1, id => selectionStep registry (depth + 1) (selectionWithin registry depth) id

/-- Expands the references of an argument, with calls up to a depth. -/
def renderWithin (registry : Registry) (depth : Nat) (id : program.Id) (arg : String) :
    Attempt program String :=
  renderWith id (find depth id) (fun f => textOf (selectionWithin registry depth f)) arg

/-- Forgets the selections of all fields below a field, by a walk of so many steps. -/
def forgetBelowWithin (steps : Nat) (id : program.Id) : Attempt program Unit := do
  let below ← ofWalk ((program.tree.slot id).children.mapM (Program.subtreeWithin steps))
  of (below.flatten.forM fun d => setCached d none)

/-- Puts the values of fields into a value, up to the first that it does not take. -/
def fill (id : program.Id) (put : Value → String → Value → Except ValueError Value)
    (child : program.Id → Attempt program Value) :
    Value → List program.Id → Attempt program Value
  | value, [] => return value
  | value, c :: rest => do
    let item ← child c
    match put value (program.field c).name item with
    | .ok filled => fill id put child filled rest
    | .error e =>
      of (record id (.value e))
      return value

/-- Finds the value of a field, `select` giving its selection and `again` being called for the values
of others. -/
def evaluateStep (steps : Nat) (select : program.Id → Attempt program (Option Selection))
    (again : program.Id → Attempt program Value) (id : program.Id) : Attempt program Value := do
  let field := program.field id
  let empty := Value.empty field.type
  let children := (program.tree.slot id).children
  match ← select id with
  | none => return empty
  | some s =>
    match field.type with
    | .text | .number =>
      if s.isEmpty then return empty
      else
        match empty.setScalar s.textContent with
        | .ok value => return value
        | .error e =>
          of (record id (.value e))
          return empty
    | .object =>
      let member (c : program.Id) : Attempt program Value := do
        let value ← again c
        of (setCached c none)
        return value
      fill id Value.insert member empty children
    | .array | .objects =>
      let round (value : Value) (element : Selection × Nat) : Attempt program Value := do
        of (setCached id (some element.1))
        forgetBelowWithin steps id
        fill id (·.push element.2) again value children
      let value ← s.elements.zipIdx.foldlM round empty
      forgetBelowWithin steps id
      of (setCached id (some s))
      return value

/-- Finds the value of a field, with calls up to a depth. -/
def evaluateWithin (registry : Registry) : Nat → program.Id → Attempt program Value
  | 0, _ => giveUp
  | depth + 1, id =>
    evaluateStep (depth + 1) (selectionWithin registry depth) (evaluateWithin registry depth) id

/-- The recorded errors of fields, each different one once. -/
def errorLinesOf (e : Evaluation program) (ids : List program.Id) : List String :=
  let recorded := ids.flatMap fun id =>
    (e.errors.get id).map fun error => s!"{(program.field id).name}: {error.message}"
  (recorded.foldl (fun counts line => Evaluation.countLine line counts) []).map fun (line, times) =>
    Evaluation.showCount line times

/-- Evaluates all top-level fields and puts the response together, with calls up to a depth. -/
def finishWithin (registry : Registry) (depth : Nat) : Attempt program Response := do
  let fields ← (program.tree.slot program.root).children.mapM fun c =>
    return ((program.field c).name, ← evaluateWithin registry depth c)
  let ids ← ofWalk (Program.subtreeWithin depth program.root)
  return {
    data := Value.projectTop program.shape (Value.ofFields fields)
    errors := errorLinesOf (← get) ids }

/-- Runs a program on a document, with calls up to a depth. -/
def runWithin (program : Program) (registry : Registry) (depth : Nat) (document : String) :
    Option Response :=
  ((finishWithin registry depth).run (.start program document)).map Prod.fst

/-! ### Computations that do not give up -/

theorem of_bind (m : Evaluating program α) (f : α → Evaluating program β) :
    of (m >>= f) = of m >>= fun a => of (f a) := rfl

theorem of_mapM {f : α → Evaluating program β} {g : α → Attempt program β} {l : List α}
    (h : ∀ a ∈ l, g a = of (f a)) : l.mapM g = of (l.mapM f) := by
  induction l with
  | nil => rfl
  | cons a l ih =>
    rw [List.forall_mem_cons] at h
    rw [List.mapM_cons, List.mapM_cons, h.1, ih h.2]
    rfl

theorem of_filterMapM {f : α → Evaluating program (Option β)} {g : α → Attempt program (Option β)}
    {l : List α} (h : ∀ a ∈ l, g a = of (f a)) : l.filterMapM g = of (l.filterMapM f) := by
  induction l with
  | nil => rfl
  | cons a l ih =>
    rw [List.forall_mem_cons] at h
    rw [List.filterMapM_cons, List.filterMapM_cons, h.1, ih h.2, of_bind]
    refine bind_congr fun b => ?_
    cases b <;> rfl

theorem of_foldlM {f : β → α → Evaluating program β} {g : β → α → Attempt program β} {l : List α}
    (h : ∀ b a, g b a = of (f b a)) (b : β) : l.foldlM g b = of (l.foldlM f b) := by
  induction l generalizing b with
  | nil => rfl
  | cons a l ih =>
    rw [List.foldlM_cons, List.foldlM_cons, h, of_bind]
    exact bind_congr fun b => ih b

theorem find_eq {steps : Nat} {id : program.Id} (h : id.val < steps) (name : String) :
    find steps id name = pure ((program.lookup id name).map Subtype.val) := by
  rw [find, Program.lookupWithin_eq h]
  rfl

section

variable {id : program.Id} {find : String → Attempt program (Option program.Id)}
  (hfind : ∀ name, find name = pure ((program.lookup id name).map Subtype.val))
include hfind

theorem renderWith_eq {text : program.Id → Attempt program String}
    {text' : (f : program.Id) → f < id → Evaluating program String}
    (htext : ∀ f h, text f = of (text' f h)) (arg : String) :
    renderWith id find text arg = of (Evaluating.renderWith id text' arg) := by
  refine congrArg (· >>= fun parts => pure (String.join parts ++ (Template.ofText arg).tail))
    (of_mapM fun reference _ => ?_)
  obtain ⟨before, name⟩ := reference
  dsimp only
  split
  · rfl
  · rw [hfind]
    cases program.lookup id name with
    | none => rfl
    | some f =>
      obtain ⟨f, hf⟩ := f
      exact congrArg (· >>= fun t => pure (before ++ t)) (htext f hf)

theorem resolveCall_eq {text : program.Id → Attempt program String}
    {text' : (f : program.Id) → f < id → Evaluating program String}
    (htext : ∀ f h, text f = of (text' f h)) (call : Call) :
    resolveCall id find text call = of (Evaluating.resolveCall id text' call) := by
  obtain ⟨name, args⟩ := call
  by_cases hlink : (name != "link") = true
  · rw [resolveCall, Evaluating.resolveCall, if_pos hlink, if_pos hlink]
    exact congrArg (· >>= fun args => pure (some (Call.mk name args)))
      (of_mapM fun arg _ => renderWith_eq hfind htext arg)
  · rw [resolveCall, Evaluating.resolveCall, if_neg hlink, if_neg hlink]
    match args with
    | [] | _ :: _ :: _ => rfl
    | [target] =>
      dsimp only
      split
      · rfl
      · rw [hfind]
        cases program.lookup id target with
        | none => rfl
        | some f =>
          obtain ⟨f, hf⟩ := f
          exact congrArg (· >>= fun t => pure (some (Call.mk name [t]))) (htext f hf)

/-- An argument needs the texts of fields with smaller numbers only. -/
theorem renderWith_congr {text text' : program.Id → Attempt program String}
    (htext : ∀ f, f < id → text f = text' f) (arg : String) :
    renderWith id find text arg = renderWith id find text' arg := by
  refine congrArg (fun part => (Template.ofText arg).references.mapM part >>= fun parts =>
    pure (String.join parts ++ (Template.ofText arg).tail)) (funext fun reference => ?_)
  obtain ⟨before, name⟩ := reference
  dsimp only
  split
  · rfl
  · rw [hfind]
    cases program.lookup id name with
    | none => rfl
    | some f =>
      obtain ⟨f, hf⟩ := f
      exact congrArg (· >>= fun t => pure (before ++ t)) (htext f hf)

theorem resolveCall_congr {text text' : program.Id → Attempt program String}
    (htext : ∀ f, f < id → text f = text' f) (call : Call) :
    resolveCall id find text call = resolveCall id find text' call := by
  obtain ⟨name, args⟩ := call
  by_cases hlink : (name != "link") = true
  · rw [resolveCall, resolveCall, if_pos hlink, if_pos hlink]
    exact congrArg (fun render => args.mapM render >>= fun args => pure (some (Call.mk name args)))
      (funext fun arg => renderWith_congr hfind htext arg)
  · rw [resolveCall, resolveCall, if_neg hlink, if_neg hlink]
    match args with
    | [] | _ :: _ :: _ => rfl
    | [target] =>
      dsimp only
      split
      · rfl
      · rw [hfind]
        cases program.lookup id target with
        | none => rfl
        | some f =>
          obtain ⟨f, hf⟩ := f
          exact congrArg (· >>= fun t => pure (some (Call.mk name [t]))) (htext f hf)

end

/-- The selection of a field calls itself for fields with smaller numbers only. -/
theorem selectionStep_congr (registry : Registry) {steps : Nat} {id : program.Id}
    {again again' : program.Id → Attempt program (Option Selection)} (hsteps : id.val < steps)
    (h : ∀ f, f < id → again f = again' f) :
    selectionStep registry steps again id = selectionStep registry steps again' id := by
  have htext : ∀ f, f < id → textOf (again f) = textOf (again' f) := fun f hf =>
    congrArg textOf (h f hf)
  rw [selectionStep, selectionStep]
  refine bind_congr fun known => ?_
  cases known with
  | some s => rfl
  | none =>
    cases hparent : program.parent id with
    | none =>
      rw [Program.parentLink_of_none hparent]
    | some q =>
      obtain ⟨q, hq⟩ := q
      rw [Program.parentLink_of_some hparent]
      dsimp only
      rw [h q hq]
      refine bind_congr fun context => ?_
      cases context with
      | none => rfl
      | some context =>
        exact congrArg (fun resolve => of (logEvent (.miss (program.field id).name)) >>= fun _ =>
            (program.field id).pipeline.filterMapM resolve >>= fun calls =>
              of (settle registry id context calls))
          (funext fun call => resolveCall_congr (find_eq hsteps) htext call)

theorem selectionStep_eq (registry : Registry) {steps : Nat} {id : program.Id}
    {again : program.Id → Attempt program (Option Selection)} (hsteps : id.val < steps)
    (hagain : ∀ f, f < id → again f = of (selection registry f)) :
    selectionStep registry steps again id = of (selection registry id) := by
  have htext : ∀ f, f < id → textOf (again f) = of (fieldText registry f) := by
    intro f hf
    rw [textOf, hagain f hf]
    rfl
  -- Both ask for the selection of the parent and for the texts of the names in the calls, and these
  -- are fields of smaller numbers.
  rw [selection, selectionStep, of_bind]
  refine bind_congr fun known => ?_
  cases known with
  | some s => rfl
  | none =>
    cases hparent : program.parent id with
    | none =>
      rw [Program.parentLink_of_none hparent]
      rfl
    | some q =>
      obtain ⟨q, hq⟩ := q
      rw [Program.parentLink_of_some hparent]
      dsimp only
      rw [hagain q hq, of_bind]
      refine bind_congr fun context => ?_
      cases context with
      | none => rfl
      | some context =>
        exact congrArg (fun calls => of (logEvent (.miss (program.field id).name)) >>= fun _ =>
            calls >>= fun calls => of (settle registry id context calls))
          (of_filterMapM fun call _ => resolveCall_eq (find_eq hsteps) htext call)

/-- The bound is not met as long as it is greater than the number of the field. -/
theorem selectionWithin_eq (registry : Registry) {depth : Nat} {id : program.Id}
    (h : id.val < depth) : selectionWithin registry depth id = of (selection registry id) := by
  induction depth generalizing id with
  | zero => exact absurd h (Nat.not_lt_zero _)
  | succ depth ih =>
    exact selectionStep_eq registry h fun f hf =>
      ih (Nat.lt_of_lt_of_le hf (Nat.le_of_lt_succ h))

theorem renderWithin_eq (registry : Registry) {depth : Nat} {id : program.Id} (h : id.val < depth)
    (arg : String) : renderWithin registry depth id arg = of (render registry id arg) := by
  refine renderWith_eq (find_eq h) (fun f hf => ?_) arg
  rw [textOf, selectionWithin_eq registry (Nat.lt_trans hf h)]
  rfl

theorem forM_setCached (ids : List program.Id) :
    ids.forM (fun d => setCached d none) = (modify fun e =>
      { e with cache := ids.foldl (fun cache (d : program.Id) => cache.set d none) e.cache } :
        Evaluating program Unit) := by
  induction ids with
  | nil => rfl
  | cons d ids ih =>
    change (setCached d none >>= fun _ => ids.forM fun d => setCached d none) = _
    rw [ih]
    rfl

theorem forgetBelowWithin_eq {steps : Nat} {id : program.Id} (h : program.size - id.val ≤ steps) :
    forgetBelowWithin steps id = of (forgetBelow id) := by
  have hchild : ∀ c, id < c → Program.subtreeWithin steps c = some (program.tree.subtree c) :=
    fun c hc => Program.subtreeWithin_eq (Nat.le_trans (Nat.sub_le_sub_left hc.le _) h)
  have hbelow : ((program.tree.slot id).children.map program.tree.subtree).flatten =
      program.tree.descendants id := by
    rw [Layout.descendants, Layout.subtree_eq_cons, List.tail_cons, List.flatMap]
  rw [forgetBelowWithin, Program.mapM_subtreeWithin hchild, forgetBelow, ← hbelow]
  exact congrArg of (forM_setCached _)

theorem fill_eq {id : program.Id} {put : Value → String → Value → Except ValueError Value}
    {child : program.Id → Attempt program Value}
    {child' : (c : program.Id) → id < c → Evaluating program Value}
    (hchild : ∀ c h, child c = of (child' c h)) (value : Value)
    (children : List { c : program.Id // id < c }) :
    fill id put child value (children.map Subtype.val) =
      of (Evaluating.fill id put child' value children) := by
  induction children generalizing value with
  | nil => rfl
  | cons c children ih =>
    obtain ⟨c, hc⟩ := c
    rw [List.map_cons, fill, Evaluating.fill, hchild c hc, of_bind]
    refine bind_congr fun item => ?_
    dsimp only
    cases put value (program.field c).name item with
    | ok filled => exact ih filled
    | error e => rfl

theorem evaluateStep_eq (registry : Registry) {steps : Nat} {id : program.Id}
    {select : program.Id → Attempt program (Option Selection)}
    {again : program.Id → Attempt program Value} (hsteps : program.size - id.val ≤ steps)
    (hselect : select id = of (selection registry id))
    (hagain : ∀ c, id < c → again c = of (evaluate registry c)) :
    evaluateStep steps select again id = of (evaluate registry id) := by
  have hchildren : (program.tree.slot id).children = (program.children id).map Subtype.val := by
    rw [Program.children, Layout.map_val_children]
  have hround : ∀ (value : Value) (element : Selection × Nat),
      (do of (setCached id (some element.1))
          of (forgetBelow id)
          fill id (·.push element.2) again value ((program.children id).map Subtype.val)) =
        of (do setCached id (some element.1)
               forgetBelow id
               Evaluating.fill id (·.push element.2) (fun c _ => evaluate registry c) value
                (program.children id)) := fun value element =>
    congrArg (fun filled => of (setCached id (some element.1)) >>= fun _ =>
      of (forgetBelow id) >>= fun _ => filled) (fill_eq hagain value (program.children id))
  rw [evaluateStep, evaluate, hselect, hchildren, of_bind]
  refine bind_congr fun known => ?_
  cases known with
  | none => rfl
  | some s =>
    dsimp only
    cases (program.field id).type with
    | text =>
      dsimp only
      split
      · rfl
      · cases (Value.empty .text).setScalar s.textContent <;> rfl
    | number =>
      dsimp only
      split
      · rfl
      · cases (Value.empty .number).setScalar s.textContent <;> rfl
    | object =>
      refine fill_eq (fun c hc => ?_) _ _
      rw [hagain c hc]
      rfl
    | array | objects =>
      dsimp only
      rw [forgetBelowWithin_eq hsteps]
      exact congrArg (· >>= fun value => of (forgetBelow id) >>= fun _ =>
        of (setCached id (some s)) >>= fun _ => pure value) (of_foldlM hround _)

/-- The value of a field calls itself for greater numbers, and looks for selections in between. -/
theorem evaluateWithin_eq (registry : Registry) {depth : Nat} {id : program.Id}
    (h : 2 * program.size - id.val ≤ depth) :
    evaluateWithin registry depth id = of (evaluate registry id) := by
  -- The fields below have greater numbers, and the search for a selection goes no deeper than the
  -- number of its field: the bound has room for both.
  induction depth generalizing id with
  | zero =>
    have hid : id.val < program.size := id.isLt
    omega
  | succ depth ih =>
    have hid : id.val < program.size := id.isLt
    refine evaluateStep_eq registry (by omega) (selectionWithin_eq registry (by omega)) fun c hc => ?_
    have hlt : id.val < c.val := hc
    exact ih (by omega)

theorem finishWithin_eq (registry : Registry) {depth : Nat} (h : 2 * program.size ≤ depth) :
    finishWithin registry depth = (of (finish registry) : Attempt program Response) := by
  have hchildren : (program.tree.slot program.root).children =
      program.topLevel.map Subtype.val := by
    rw [Program.topLevel, Program.children, Layout.map_val_children]
  have hvalue : ∀ c : program.Id, evaluateWithin registry depth c = of (evaluate registry c) :=
    fun c => evaluateWithin_eq registry (by omega)
  have hwalk : Program.subtreeWithin depth program.root = some program.preorder :=
    Program.subtreeWithin_eq (by omega)
  rw [finishWithin, hchildren, List.mapM_map, hwalk]
  refine congrArg (· >>= fun fields => ofWalk (some program.preorder) >>= fun ids => get >>= fun e =>
    pure (Response.mk (Value.projectTop program.shape (Value.ofFields fields)) (errorLinesOf e ids)))
    (of_mapM fun c _ => ?_)
  rw [Function.comp, hvalue]
  rfl

/-- Runs end, and give what the evaluation without a bound gives. -/
theorem runWithin_eq (program : Program) (registry : Registry) {depth : Nat}
    (h : 2 * program.size ≤ depth) (document : String) :
    runWithin program registry depth document = some (program.run registry document) := by
  rw [runWithin, finishWithin_eq registry h]
  rfl

end Attempt

open Attempt

/-- The search for a selection ends, from every state of an evaluation and with any operations.  It
calls itself for smaller numbers only: what it would do for the others does not matter.  So with
calls up to a depth greater than the number it never gives up, and neither does the expansion of
references, and both leave the outcome and the state that the evaluation leaves.  With calls up to
twice the number of fields, the evaluation of a field and a run do not give up either. -/
theorem selection_ends (program : Program) (registry : Registry) :
    (∀ (id : program.Id) (depth : Nat), id.val < depth →
      (∀ again, selectionStep registry depth again id =
        selectionStep registry depth (fun f => if f < id then again f else giveUp) id) ∧
      selectionWithin registry depth id = of (Evaluating.selection registry id) ∧
      textOf (selectionWithin registry depth id) = of (Evaluating.fieldText registry id) ∧
      ∀ arg, renderWithin registry depth id arg = of (Evaluating.render registry id arg)) ∧
    ∀ depth, 2 * program.size ≤ depth →
      (∀ id : program.Id,
        evaluateWithin registry depth id = of (Evaluating.evaluate registry id)) ∧
      ∀ document, runWithin program registry depth document =
        some (program.run registry document) := by
  constructor
  · intro id depth h
    refine ⟨fun again => selectionStep_congr registry h fun f hf => (if_pos hf).symm,
      selectionWithin_eq registry h, ?_, renderWithin_eq registry h⟩
    rw [textOf, selectionWithin_eq registry h]
    rfl
  · intro depth h
    exact ⟨fun id => evaluateWithin_eq registry (Nat.le_trans (Nat.sub_le _ _) h),
      runWithin_eq program registry h⟩

/-- Two fields that name each other. -/
def crossed : Program :=
  .ofFields .object (.cons ⟨"a", .text, [⟨"link", ["b"]⟩]⟩ .nil
    (.cons ⟨"b", .text, [⟨"template", ["\x7b$a\x7d"]⟩]⟩ .nil .nil))

/-- The name of the later one means nothing to the earlier one. -/
theorem selection_ends_crossed :
    compile (Utf8.encode "\x7b a `link(\"b\")` b `template(\"\x7b$a\x7d\")` \x7d") = .ok crossed ∧
      selectionWithin .builtin 3 (⟨2, by decide⟩ : crossed.Id) =
        of (Evaluating.selection .builtin ⟨2, by decide⟩) ∧
      ∀ document, runWithin crossed .builtin 6 document = some (crossed.run .builtin document) := by
  obtain ⟨hselection, hrun⟩ := selection_ends crossed .builtin
  refine ⟨by cbv, (hselection ⟨2, by decide⟩ 3 (by decide)).2.1, ?_⟩
  exact (hrun 6 (by decide)).2

end DocQuery
