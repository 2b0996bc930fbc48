import DocQuery.Evaluation.State
import DocQuery.Evaluation.Template
import DocQuery.Operation.Builtin
import DocQuery.Response.Basic
/-! Evaluation.  The selection of a field is its pipeline run on the selection of its parent, where
arguments may refer to the text of fields declared earlier.  Both lead to smaller numbers, so
finding a selection ends.  The value of a field is made of its selection and, for a field with
children, of their values, in each element of the selection anew. -/

namespace DocQuery

namespace Evaluating

variable {program : Program}

/-- Expands the references of an argument, `text` giving the text of the fields before `id`.  A
field's own name and the empty name become the placeholder, and a name that means nothing is
dropped. -/
def renderWith (id : program.Id) (text : (f : program.Id) → f < id → Evaluating program String)
    (arg : String) : Evaluating program String := do
  let template := Template.ofText arg
  let parts ← template.references.mapM fun (before, name) => do
    if name.isEmpty || name == (program.field id).name then return before ++ placeholder
    else
      match program.lookup id name with
      | some ⟨f, h⟩ => return before ++ (← text f h)
      | none => return before
  return String.join parts ++ template.tail

/-- Resolves the references in a call.  The argument of `link` is a bare name.  A `link` to the
field itself, or one with more or fewer arguments, is left out. -/
def resolveCall (id : program.Id) (text : (f : program.Id) → f < id → Evaluating program String)
    (call : Call) : Evaluating program (Option Call) := do
  if call.name != "link" then
    return some { call with args := ← call.args.mapM (renderWith id text) }
  else
    match call.args with
    | [target] =>
      if target == (program.field id).name then return none
      else
        match program.lookup id target with
        | some ⟨f, h⟩ => return some { call with args := [← text f h] }
        | none => return some { call with args := [""] }
    | args =>
      record id (.operation (.arity call.name 1 args.length))
      return none

/-- The selection of a field, from its parent's if it is not known.  There is none where the field,
or one above it, failed. -/
def selection (registry : Registry) (id : program.Id) :
    Evaluating program (Option Selection) := do
  match ← cached? id with
  | some s =>
    logEvent (.hit (program.field id).name)
    return some s
  | none =>
    match program.parent id with
    | none => return none
    | some ⟨q, _⟩ =>
      match ← selection registry q with
      | none => return none
      | some context =>
        logEvent (.miss (program.field id).name)
        let calls ← (program.field id).pipeline.filterMapM <|
          resolveCall id fun f _ => return ((← selection registry f).map (·.textContent)).getD ""
        let (steps, result) := runPipeline registry context calls
        steps.forM fun step => logEvent (.call step)
        match result with
        | .ok s =>
          setCached id (some s)
          return some s
        | .error e =>
          record id (.operation e)
          return none
termination_by id.val

/-- Text of a field's selection, empty if there is none. -/
def fieldText (registry : Registry) (id : program.Id) : Evaluating program String :=
  return ((← selection registry id).map (·.textContent)).getD ""

/-- Expands the references of an argument. -/
def render (registry : Registry) (id : program.Id) (arg : String) : Evaluating program String :=
  renderWith id (fun f _ => fieldText registry f) arg

/-- Puts the values of children into a value, one after the other.  The first that the value does
not take is recorded against the field, and no child after it is evaluated. -/
def fill (id : program.Id) (put : Value → String → Value → Except ValueError Value)
    (child : (c : program.Id) → id < c → Evaluating program Value) :
    Value → List { c : program.Id // id < c } → Evaluating program Value
  | value, [] => return value
  | value, ⟨c, h⟩ :: rest => do
    let item ← child c h
    match put value (program.field c).name item with
    | .ok filled => fill id put child filled rest
    | .error e =>
      record id (.value e)
      return value

/-- The value of a field. -/
def evaluate (registry : Registry) (id : program.Id) : Evaluating program Value := do
  let field := program.field id
  let empty := Value.empty field.type
  match ← selection registry id with
  | none => return empty
  | some s =>
    match field.type with
    | .text | .number =>
      if s.isEmpty then return empty
      else
        match empty.setScalar s.textContent with
        | .ok value => return value
        | .error e =>
          record id (.value e)
          return empty
    | .object =>
      let member (c : program.Id) (_ : id < c) : Evaluating program Value := do
        let value ← evaluate registry c
        setCached c none
        return value
      fill id Value.insert member empty (program.children id)
    | .array | .objects =>
      let round (value : Value) (element : Selection × Nat) : Evaluating program Value := do
        setCached id (some element.1)
        forgetBelow id
        fill id (·.push element.2) (fun c _ => evaluate registry c) value (program.children id)
      let value ← s.elements.zipIdx.foldlM round empty
      forgetBelow id
      setCached id (some s)
      return value
termination_by program.size - id.val
decreasing_by all_goals exact Nat.sub_lt_sub_left id.isLt ‹_›

/-- Evaluates all top-level fields and puts the response together. -/
def finish (registry : Registry) : Evaluating program Response := do
  let fields ← program.topLevel.mapM fun ⟨c, _⟩ =>
    return ((program.field c).name, ← evaluate registry c)
  return {
    data := Value.projectTop program.shape (Value.ofFields fields)
    errors := (← get).errorLines }

end Evaluating

namespace Program

/-- Runs a program on a document, with the events of the run. -/
def runLogged (program : Program) (registry : Registry) (document : String) :
    Response × List Event :=
  let (response, e) := (Evaluating.finish registry).run (.start program document)
  (response, e.log.toList)

/-- Runs a program on a document. -/
def run (program : Program) (registry : Registry) (document : String) : Response :=
  (program.runLogged registry document).1

end Program

/-- Compiles an expression and runs it on a document with the operations that every expression can
use, with the events of both.  If it does not compile, that is the only error. -/
def queryLogged (expression document : String) : Response × List Event :=
  match compile (Utf8.encode expression) with
  | .error e => (.failed ("compile error: " ++ e.message), [])
  | .ok program =>
    let (response, events) := program.runLogged .builtin document
    (response, .compiled program.shape program.fields.size :: events)

/-- Compiles an expression and runs it on a document. -/
def query (expression document : String) : Response := (queryLogged expression document).1

end DocQuery
