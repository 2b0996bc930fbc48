import DocQuery.Proofs.Bounds.Operation
import DocQuery.Proofs.Bounds.Parser
import DocQuery.Proofs.Bounds.Tables

/-! Evaluation by number.  From the bytes of an expression to the response, everything is taken by
index here: bytes and slices while the expression is parsed, fields while names are looked up and the
tree is walked, selections and messages out of their tables, and arguments while operations run.  Each
part mirrors its counterpart on fields, for the numbers that it is called with are those of fields.
So nothing is indexed out of range, whatever the expression and the document are. -/

namespace DocQuery.Indexed

open OnTables

section

variable (nodes : List Node)

/-- The text that a reference stands for. -/
def referenceText (own : String) (lookup : String → OnTables (Option Nat))
    (text : Nat → OnTables String) (name : String) : OnTables String := do
  if name.isEmpty || name == own then return placeholder
  else
    match ← lookup name with
    | some found => text found
    | none => return ""

/-- Expands the references in what is left of an argument. -/
def renderFrom (own : String) (lookup : String → OnTables (Option Nat))
    (text : Nat → OnTables String) : Nat → List Char → OnTables String
  | 0, _ => taken none
  | steps + 1, rest => do
    match ← taken (firstReference rest) with
    | none => return String.ofList rest
    | some (before, name, after) =>
      let value ← referenceText own lookup text (String.ofList name)
      let more ← renderFrom own lookup text steps after
      return String.ofList before ++ value ++ more

/-- Expands the references of an argument. -/
def render (steps id : Nat) (text : Nat → OnTables String) (arg : String) : OnTables String := do
  let node ← taken nodes[id]?
  renderFrom node.field.name (fun name => taken (lookup nodes name steps id)) text
    (arg.toList.length + 1) arg.toList

/-- Resolves the references in a call. -/
def resolveCall (steps id : Nat) (text : Nat → OnTables String) (call : Call) :
    OnTables (Option Call) := do
  let node ← taken nodes[id]?
  if call.name != "link" then
    return some { call with args := ← call.args.mapM (render nodes steps id text) }
  else if call.args.length ≠ 1 then
    record nodes id (OperationError.arity call.name 1 call.args.length).message
    return none
  else
    let target ← taken call.args[0]?
    if target == node.field.name then return none
    else
      match ← taken (lookup nodes target steps id) with
      | some found => return some { call with args := [← text found] }
      | none => return some { call with args := [""] }

def textOf (m : OnTables (Option Selection)) : OnTables String :=
  return ((← m).map (·.textContent)).getD ""

/-- Makes the calls of a field on the selection of its parent. -/
def settle (id : Nat) (context : Selection) (calls : List Call) : OnTables (Option Selection) := do
  match ← taken (runPipeline context calls) with
  | .ok s =>
    setCached id (some s)
    return some s
  | .error message =>
    record nodes id message
    return none

/-- Looks for the selection of a field; the lines in the log name it. -/
def selectionStep (steps : Nat) (again : Nat → OnTables (Option Selection)) (id : Nat) :
    OnTables (Option Selection) := do
  match ← cached id with
  | some s =>
    let _ ← taken nodes[id]?
    return some s
  | none =>
    let node ← taken nodes[id]?
    match node.parent with
    | none => return none
    | some parent =>
      match ← again parent with
      | none => return none
      | some context =>
        let node ← taken nodes[id]?
        let calls ← node.field.pipeline.filterMapM <|
          resolveCall nodes steps id fun found => textOf (again found)
        settle nodes id context calls

def selection : Nat → Nat → OnTables (Option Selection)
  | 0, _ => taken none
  | depth + 1, id => selectionStep nodes (depth + 1) (selection depth) id

/-- Forgets the selections of all fields below a field. -/
def clearBelow (steps id : Nat) : OnTables Unit := do
  let node ← taken nodes[id]?
  let below ← taken (node.children.mapM (traverse nodes steps))
  below.flatten.forM fun d => setCached d none

/-- Puts the values of fields into a value, up to the first that it does not take. -/
def fill (id : Nat) (put : Value → String → Value → Option (Except ValueError Value))
    (child : Nat → OnTables Value) : Value → List Nat → OnTables Value
  | value, [] => return value
  | value, c :: rest => do
    let item ← child c
    let node ← taken nodes[c]?
    match ← taken (put value node.field.name item) with
    | .ok filled => fill id put child filled rest
    | .error e =>
      record nodes id e.message
      return value

/-- Finds the value of a field. -/
def evaluateStep (steps : Nat) (select : Nat → OnTables (Option Selection))
    (again : Nat → OnTables Value) (id : Nat) : OnTables Value := do
  let node ← taken nodes[id]?
  let empty := Value.empty node.field.type
  match ← select id with
  | none => return empty
  | some s =>
    match node.field.type with
    | .text | .number =>
      if s.isEmpty then return empty
      else
        match empty.setScalar s.textContent with
        | .ok value => return value
        | .error e =>
          record nodes id e.message
          return empty
    | .object =>
      let member (c : Nat) : OnTables Value := do
        let value ← again c
        setCached c none
        return value
      fill nodes id (fun value key item => some (value.insert key item)) member empty node.children
    | .array | .objects =>
      let round (value : Value) (element : Selection × Nat) : OnTables Value := do
        setCached id (some element.1)
        clearBelow nodes steps id
        fill nodes id (fun value key item => push value element.2 key item) again value node.children
      let value ← s.elements.zipIdx.foldlM round empty
      clearBelow nodes steps id
      setCached id (some s)
      return value

def evaluate : Nat → Nat → OnTables Value
  | 0, _ => taken none
  | depth + 1, id =>
    evaluateStep nodes (depth + 1) (selection nodes depth) (evaluate depth) id

/-- The messages recorded against a field, with its name. -/
def messagesOf (id : Nat) : OnTables (List String) := do
  let node ← taken nodes[id]?
  let messages ← taken (← get).errors[id]?
  return messages.map fun message => s!"{node.field.name}: {message}"

/-- The recorded messages, each different one once. -/
def collectErrors (steps : Nat) : OnTables (List String) := do
  let ids ← taken (traverse nodes steps 0)
  let lines ← ids.mapM (messagesOf nodes)
  return (lines.flatten.foldl (fun counts line => Evaluation.countLine line counts) []).map
    fun (line, times) => Evaluation.showCount line times

/-- Evaluates all top-level fields and puts the response together. -/
def finish (shape : Shape) (depth : Nat) : OnTables Response := do
  let root ← taken nodes[0]?
  let fields ← root.children.mapM fun c => do
    let value ← evaluate nodes depth c
    let node ← taken nodes[c]?
    return (node.field.name, value)
  return {
    data := Value.projectTop shape (Value.ofFields fields)
    errors := ← collectErrors nodes depth }

/-- Runs a program on a document. -/
def run (shape : Shape) (document : String) : Option Response := do
  let cache ← update? (List.replicate nodes.length none) 0 fun _ => some (.text document)
  let tables : Tables := { cache, errors := List.replicate nodes.length [] }
  let (response, _) ← (finish nodes shape (2 * nodes.length)).run tables
  return response

end

/-- Compiles an expression and runs it on a document. -/
def answer (bytes : List UInt8) (document : String) : Option (Except CompileError Response) := do
  match ← (readTop bytes bytes.length).runAt 0 with
  | .error e => return .error e
  | .ok ((shape, fields), _) =>
    let nodes ← arena fields
    let response ← run nodes shape document
    return .ok response

/-! ### Expanding references -/

section

variable {program : Program} (id : program.Id)
  (find : String → Attempt program (Option program.Id)) (text : program.Id → Attempt program String)

/-- The text that a reference of a field stands for. -/
def referenceTextOf (name : String) : Attempt program String := do
  if name.isEmpty || name == (program.field id).name then return placeholder
  else
    match ← find name with
    | some f => text f
    | none => return ""

theorem renderWith_of_plain {cs : List Char} (h : Template.nextReference? cs = none) :
    Attempt.renderWith id find text (String.ofList cs) = pure (String.ofList cs) := by
  unfold Attempt.renderWith Template.ofText
  rw [String.toList_ofList, Template.ofChars_of_plain h]
  simp

theorem renderWith_of_reference {cs before name after : List Char}
    (h : Template.nextReference? cs = some (before, name, after)) :
    Attempt.renderWith id find text (String.ofList cs) = (do
      let value ← referenceTextOf id find text (String.ofList name)
      let more ← Attempt.renderWith id find text (String.ofList after)
      return String.ofList before ++ value ++ more) := by
  unfold Attempt.renderWith Template.ofText referenceTextOf
  rw [String.toList_ofList, String.toList_ofList, Template.ofChars_of_reference h]
  dsimp only
  rw [List.mapM_cons]
  by_cases hown : (String.ofList name).isEmpty || String.ofList name == (program.field id).name
  · simp only [if_pos hown, bind_assoc, pure_bind, String.join_cons, String.append_assoc]
  · simp only [if_neg hown, bind_assoc, pure_bind]
    refine bind_congr fun found => ?_
    cases found with
    | none => simp only [pure_bind, String.join_cons, String.append_assoc, String.empty_append]
    | some f => simp only [bind_assoc, pure_bind, String.join_cons, String.append_assoc]

end

variable {program : Program}

section

variable {steps : Nat} {id : program.Id} {text : Nat → OnTables String}
  {text' : program.Id → Attempt program String} (htext : ∀ f, Mirrors (text f.val) (text' f))
include htext

theorem mirrors_referenceText (name : String) :
    Mirrors (referenceText (program.field id).name
        (fun name => taken (lookup (nodesOf program) name steps id.val)) text name)
      (referenceTextOf id (Attempt.find steps id) text' name) := by
  unfold referenceText referenceTextOf
  split
  · exact .pure placeholder
  · refine .walk (lookup_eq_lookupWithin name steps id) fun found => ?_
    cases found with
    | none => exact .pure ""
    | some f => exact htext f

theorem mirrors_renderFrom {left : Nat} {rest : List Char} (hleft : rest.length < left) :
    Mirrors (renderFrom (program.field id).name
        (fun name => taken (lookup (nodesOf program) name steps id.val)) text left rest)
      (Attempt.renderWith id (Attempt.find steps id) text' (String.ofList rest)) := by
  induction left generalizing rest with
  | zero => omega
  | succ left ih =>
    unfold renderFrom
    refine .taken (firstReference_eq rest) ?_
    cases hnext : Template.nextReference? rest with
    | none =>
      rw [renderWith_of_plain id _ _ hnext]
      exact .pure _
    | some found =>
      obtain ⟨before, name, after⟩ := found
      have hmore := @ih after (by have := Template.length_nextReference?_lt hnext; omega)
      rw [renderWith_of_reference id _ _ hnext]
      refine .bind (mirrors_referenceText htext (String.ofList name)) fun value => ?_
      exact .bind hmore fun more => .pure _

theorem mirrors_render (arg : String) :
    Mirrors (render (nodesOf program) steps id.val text arg)
      (Attempt.renderWith id (Attempt.find steps id) text' arg) := by
  have hrender := @mirrors_renderFrom program steps id text text' htext _ arg.toList
    (Nat.lt_succ_self _)
  rw [String.ofList_toList] at hrender
  exact .taken (getElem?_nodesOf id) hrender

theorem mirrors_resolveCall (call : Call) :
    Mirrors (resolveCall (nodesOf program) steps id.val text call)
      (Attempt.resolveCall id (Attempt.find steps id) text' call) := by
  obtain ⟨name, args⟩ := call
  refine .taken (getElem?_nodesOf id) ?_
  unfold Attempt.resolveCall
  dsimp only
  by_cases hlink : (name != "link") = true
  · rw [if_pos hlink, if_pos hlink]
    exact .bind (.mapM fun arg _ => mirrors_render htext arg) fun args => .pure _
  rw [if_neg hlink, if_neg hlink]
  match args with
  | [] | _ :: _ :: _ =>
    rw [if_pos (by simp)]
    exact .bind (mirrors_record id (.operation (.arity name 1 _))) fun _ => .pure none
  | [target] =>
    rw [if_neg (by simp)]
    refine .taken rfl ?_
    dsimp only
    by_cases hself : (target == (program.field id).name) = true
    · rw [if_pos hself]
      exact (if_pos hself).symm ▸ .pure none
    · rw [if_neg hself]
      refine (if_neg hself).symm ▸ .walk (lookup_eq_lookupWithin target steps id) fun found => ?_
      cases found with
      | none => exact .pure _
      | some f => exact .bind (htext f) fun t => .pure _

end

/-! ### Selections -/

theorem tables_forM_logEvent (steps : List DocQuery.Step) (e : Evaluation program) :
    Tables.of ((steps.forM fun step => Evaluating.logEvent (.call step)).run e).2 = .of e := by
  induction steps generalizing e with
  | nil => rfl
  | cons step steps ih => exact ih _

theorem mirrors_textOf {raw : OnTables (Option Selection)}
    {attempt : Attempt program (Option Selection)} (h : Mirrors raw attempt) :
    Mirrors (textOf raw) (Attempt.textOf attempt) := .bind h fun _ => .pure _

theorem mirrors_settle (id : program.Id) (context : Selection) (calls : List Call) :
    Mirrors (settle (nodesOf program) id.val context calls)
      (Attempt.of (Attempt.settle .builtin id context calls)) := by
  refine .taken (runPipeline_eq context calls) ?_
  unfold Attempt.settle
  obtain ⟨steps, result⟩ := DocQuery.runPipeline .builtin context calls
  dsimp only
  rw [Attempt.of_bind]
  refine .quiet (tables_forM_logEvent steps) fun _ => ?_
  cases result with
  | ok s =>
    exact .bind (mirrors_setCached id (some s)) fun _ => .pure _
  | error e =>
    exact .bind (mirrors_record id (.operation e)) fun _ => .pure _

theorem mirrors_selectionStep {steps : Nat} {again : Nat → OnTables (Option Selection)}
    {again' : program.Id → Attempt program (Option Selection)}
    (hagain : ∀ f, Mirrors (again f.val) (again' f)) (id : program.Id) :
    Mirrors (selectionStep (nodesOf program) steps again id.val)
      (Attempt.selectionStep .builtin steps again' id) := by
  refine .bind (mirrors_cached id) fun known => ?_
  cases known with
  | some s =>
    refine .taken (getElem?_nodesOf id) ?_
    exact .quiet (fun _ => rfl) fun _ => .pure _
  | none =>
    refine .taken (getElem?_nodesOf id) ?_
    dsimp only [Node.ofSlot]
    cases (program.tree.slot id).parent with
    | none => exact .pure none
    | some q =>
      refine .bind (hagain q) fun context => ?_
      cases context with
      | none => exact .pure none
      | some context =>
        refine .taken (getElem?_nodesOf id) (.quiet (fun _ => rfl) fun _ => ?_)
        refine .bind (.filterMapM fun call _ => ?_) fun calls => mirrors_settle id context calls
        exact mirrors_resolveCall (fun f => mirrors_textOf (hagain f)) call

theorem mirrors_selection (depth : Nat) (id : program.Id) :
    Mirrors (selection (nodesOf program) depth id.val)
      (Attempt.selectionWithin .builtin depth id) := by
  induction depth generalizing id with
  | zero => exact .giveUp
  | succ depth ih => exact mirrors_selectionStep ih id

/-! ### Values -/

theorem mirrors_forget (ids : List program.Id) :
    Mirrors ((ids.map Fin.val).forM fun d => setCached d none)
      (Attempt.of (ids.forM fun d => Evaluating.setCached d none)) := by
  induction ids with
  | nil => exact .pure _
  | cons d ids ih => exact .bind (mirrors_setCached d none) fun _ => ih

theorem mirrors_clearBelow (steps : Nat) (id : program.Id) :
    Mirrors (clearBelow (nodesOf program) steps id.val) (Attempt.forgetBelowWithin steps id) := by
  have hbelow := mapM_map_val (program.tree.slot id).children fun c _ =>
    traverse_eq_subtreeWithin steps c
  refine .taken (getElem?_nodesOf id) (.walk hbelow fun below => ?_)
  rw [← List.map_flatten]
  exact mirrors_forget below.flatten

theorem mirrors_fill {id : program.Id}
    {put : Value → String → Value → Except ValueError Value}
    {put' : Value → String → Value → Option (Except ValueError Value)}
    (hput : ∀ value key item, put' value key item = some (put value key item))
    {child : Nat → OnTables Value} {child' : program.Id → Attempt program Value}
    (hchild : ∀ c, Mirrors (child c.val) (child' c)) (value : Value) (children : List program.Id) :
    Mirrors (fill (nodesOf program) id.val put' child value (children.map Fin.val))
      (Attempt.fill id put child' value children) := by
  induction children generalizing value with
  | nil => exact .pure value
  | cons c children ih =>
    refine .bind (hchild c) fun item => .taken (getElem?_nodesOf c) (.taken (hput ..) ?_)
    change Mirrors _ (match put value (program.tree.slot c).label.name item with
      | .ok filled => Attempt.fill id put child' filled children
      | .error e => Attempt.of (Evaluating.record id (.value e)) >>= fun _ => pure value)
    dsimp only [Node.ofSlot]
    cases put value (program.tree.slot c).label.name item with
    | ok filled => exact ih filled
    | error e => exact .bind (mirrors_record id (.value e)) fun _ => .pure value

theorem mirrors_evaluateStep {steps : Nat} {select : Nat → OnTables (Option Selection)}
    {select' : program.Id → Attempt program (Option Selection)} {again : Nat → OnTables Value}
    {again' : program.Id → Attempt program Value}
    (hselect : ∀ f, Mirrors (select f.val) (select' f))
    (hagain : ∀ c, Mirrors (again c.val) (again' c)) (id : program.Id) :
    Mirrors (evaluateStep (nodesOf program) steps select again id.val)
      (Attempt.evaluateStep steps select' again' id) := by
  have hfield : (Node.ofSlot (program.tree.slot id)).field = program.field id := rfl
  refine .taken (getElem?_nodesOf id) (.bind (hselect id) fun known => ?_)
  rw [hfield]
  cases known with
  | none => exact .pure _
  | some s =>
    dsimp only
    cases (program.field id).type with
    | text =>
      dsimp only
      split
      · exact .pure _
      · cases (Value.empty .text).setScalar s.textContent with
        | ok value => exact .pure value
        | error e => exact .bind (mirrors_record id (.value e)) fun _ => .pure _
    | number =>
      dsimp only
      split
      · exact .pure _
      · cases (Value.empty .number).setScalar s.textContent with
        | ok value => exact .pure value
        | error e => exact .bind (mirrors_record id (.value e)) fun _ => .pure _
    | object =>
      refine mirrors_fill (fun _ _ _ => rfl) (fun c => ?_) _ _
      exact .bind (hagain c) fun value => .bind (mirrors_setCached c none) fun _ => .pure value
    | array | objects =>
      refine .bind (.foldlM (fun value element _ => ?_) _) fun value =>
        .bind (mirrors_clearBelow steps id) fun _ => .bind (mirrors_setCached id (some s)) fun _ =>
          .pure value
      refine .bind (mirrors_setCached id (some element.1)) fun _ =>
        .bind (mirrors_clearBelow steps id) fun _ => ?_
      exact mirrors_fill (fun value key item => push_eq value element.2 key item) hagain value _

theorem mirrors_evaluate (depth : Nat) (id : program.Id) :
    Mirrors (evaluate (nodesOf program) depth id.val)
      (Attempt.evaluateWithin .builtin depth id) := by
  induction depth generalizing id with
  | zero => exact .giveUp
  | succ depth ih => exact mirrors_evaluateStep (mirrors_selection depth) ih id

/-! ### Runs -/

theorem run_messagesOf {id : program.Id} {tables : Tables} {messages : List String}
    (h : tables.errors[id.val]? = some messages) :
    (messagesOf (nodesOf program) id.val).run tables =
      some (messages.map fun message => s!"{(program.field id).name}: {message}", tables) := by
  unfold messagesOf
  rw [run_taken (getElem?_nodesOf id), run_get, run_taken h]
  rfl

theorem run_mapM_messagesOf {tables : Tables} {messages : program.Id → List String}
    (h : ∀ id, tables.errors[id.val]? = some (messages id)) (ids : List program.Id) :
    ((ids.map Fin.val).mapM (messagesOf (nodesOf program))).run tables =
      some (ids.map fun id => (messages id).map fun message =>
        s!"{(program.field id).name}: {message}", tables) := by
  induction ids with
  | nil => rfl
  | cons id ids ih =>
    rw [List.map_cons, List.mapM_cons, StateT.run_bind, run_messagesOf (h id)]
    dsimp only [Option.bind_eq_bind, Option.bind_some]
    rw [StateT.run_bind, ih]
    rfl

theorem getElem?_errors_of (e : Evaluation program) (id : program.Id) :
    (Tables.of e).errors[id.val]? = some (e.errors[id].map EvaluationError.message) := by
  unfold Tables.of
  rw [List.getElem?_map, getElem?_toList_fin]
  rfl

theorem mirrors_collectErrors (steps : Nat) : Mirrors (collectErrors (nodesOf program) steps) (do
      let ids ← Attempt.ofWalk (Program.subtreeWithin steps program.root)
      return Attempt.errorLinesOf (← get) ids) := by
  refine .walk (traverse_eq_subtreeWithin steps program.root) fun ids e => ?_
  rw [StateT.run_bind, run_mapM_messagesOf (getElem?_errors_of e)]
  dsimp only [Option.bind_eq_bind, Option.bind_some]
  rw [← List.flatMap_def]
  simp only [List.map_map]
  rfl

theorem mirrors_finish (program : Program) (depth : Nat) :
    Mirrors (finish (nodesOf program) program.shape depth)
      (Attempt.finishWithin .builtin depth : Attempt program Response) := by
  have hfinish : (Attempt.finishWithin .builtin depth : Attempt program Response) = (do
      let fields ← (program.tree.slot program.root).children.mapM fun c =>
        return ((program.field c).name, ← Attempt.evaluateWithin .builtin depth c)
      let errors ← (do
        let ids ← Attempt.ofWalk (Program.subtreeWithin depth program.root)
        return Attempt.errorLinesOf (← get) ids)
      return { data := Value.projectTop program.shape (Value.ofFields fields), errors }) := by
    unfold Attempt.finishWithin
    simp only [bind_assoc, pure_bind]
  rw [hfinish]
  refine .taken (getElem?_nodesOf program.root) ?_
  dsimp only [Node.ofSlot]
  rw [List.mapM_map]
  refine .bind (.mapM fun c _ => ?_) fun fields =>
    .bind (mirrors_collectErrors depth) fun errors => .pure _
  exact .bind (mirrors_evaluate depth c) fun value => .taken (getElem?_nodesOf c) (.pure _)

theorem run_eq (program : Program) (document : String) :
    run (nodesOf program) program.shape document = some (program.run .builtin document) := by
  have hcache : update? (List.replicate (nodesOf program).length none) 0
      (fun _ => some (Selection.text document)) =
        some (Evaluation.start program document).cache.toList := by
    have hupdate := update?_toList (Vector.replicate program.size none) program.root
      fun _ => some (Selection.text document)
    rw [Vector.toList_replicate] at hupdate
    rw [length_nodesOf]
    exact hupdate
  have htables : Tables.of (Evaluation.start program document) =
      { cache := (Evaluation.start program document).cache.toList
        errors := List.replicate program.size [] } := by
    unfold Tables.of
    congr 1
    simp [Evaluation.start]
  have hfinish := mirrors_finish program (2 * program.size) (.start program document)
  -- The evaluation on fields has the same bound, and does not meet it.
  have hrun := Attempt.runWithin_eq program .builtin (Nat.le_refl (2 * program.size)) document
  unfold Attempt.runWithin at hrun
  obtain ⟨found, hfound, hresponse⟩ := Option.map_eq_some_iff.mp hrun
  rw [hfound, htables] at hfinish
  unfold run
  rw [hcache, length_nodesOf]
  dsimp only [Option.bind_eq_bind, Option.bind_some]
  rw [hfinish, ← hresponse]
  rfl

/-- Nothing is indexed out of range.  Whatever the bytes of the expression and the document are, the
expression is compiled and run by index as it is without. -/
theorem answer_eq_run (bytes : List UInt8) (document : String) : answer bytes document =
    some ((compile bytes).map fun program => program.run .builtin document) := by
  have hstart : (Expression.Cursor.start bytes).bytes = bytes := rfl
  have hread : (readTop bytes bytes.length).runAt 0 = _ :=
    (tracks_readTop hstart (Nat.le_refl bytes.length)).runAt_eq
  unfold answer compile
  rw [hread]
  cases Expression.readTop (.start bytes) with
  | error e => rfl
  | ok found =>
    obtain ⟨⟨⟨shape, fields⟩, cursor⟩, hahead⟩ := found
    have hrun : run (nodesOf (.ofFields shape fields)) shape document =
        some ((Program.ofFields shape fields).run .builtin document) := run_eq _ document
    change (do
      let nodes ← arena fields
      let response ← run nodes shape document
      pure (Except.ok response)) = _
    rw [arena_eq shape fields]
    dsimp only [Option.bind_eq_bind, Option.bind_some]
    rw [hrun]
    rfl

end DocQuery.Indexed
