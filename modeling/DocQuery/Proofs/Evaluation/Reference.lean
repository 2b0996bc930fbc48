import Mathlib
import DocQuery.Evaluation.Run

/-! Evaluation without a cache.  A context says where an evaluation stands: the root at the document
and every iterated field at its current element.  Under a context the selection of a field is found
anew each time, from the selection of its parent and from its pipeline, whose references are
resolved under the same context.  The value of an iterated field is made of the values of its
children under the context moved to one element after the other.  Beside each result stand the
errors that are raised on the way to it. -/

namespace DocQuery

/-- Current elements: the document for the root, and an element for each iterated field. -/
abbrev Context (program : Program) : Type := program.Id → Option Selection

namespace Context

variable {program : Program}

/-- The context before any iteration: the root stands at the document. -/
def start (program : Program) (document : String) : Context program := fun x =>
  if x = program.root then some (.text document) else none

/-- The context with a field at an element of its selection. -/
def enter (here : Context program) (id : program.Id) (element : Selection) : Context program :=
  fun x => if x = id then some element else here x

end Context

namespace Reference

variable {program : Program}

/-- Expands the references of an argument, `text` giving the text of the fields before `id`. -/
def render (id : program.Id) (text : (f : program.Id) → f < id → String) (arg : String) : String :=
  let template := Template.ofText arg
  let parts := template.references.map fun (before, name) =>
    if name.isEmpty || name == (program.field id).name then before ++ placeholder
    else
      match program.lookup id name with
      | some ⟨f, h⟩ => before ++ text f h
      | none => before
  String.join parts ++ template.tail

/-- Resolves the references in a call, or leaves it out. -/
def resolveCall (id : program.Id) (text : (f : program.Id) → f < id → String) (call : Call) :
    Option Call :=
  if call.name != "link" then some { call with args := call.args.map (render id text) }
  else
    match call.args with
    | [target] =>
      if target == (program.field id).name then none
      else
        match program.lookup id target with
        | some ⟨f, h⟩ => some { call with args := [text f h] }
        | none => some { call with args := [""] }
    | _ => none

/-- The fields whose text an argument needs. -/
def references (id : program.Id) (arg : String) : List { f : program.Id // f < id } :=
  (Template.ofText arg).references.filterMap fun (_, name) =>
    if name.isEmpty || name == (program.field id).name then none else program.lookup id name

/-- The fields whose text a call needs. -/
def callReferences (id : program.Id) (call : Call) : List { f : program.Id // f < id } :=
  if call.name != "link" then call.args.flatMap (references id)
  else
    match call.args with
    | [target] =>
      if target == (program.field id).name then [] else (program.lookup id target).toList
    | _ => []

/-- The error of a call to `link` with more or fewer arguments than one. -/
def callErrors (call : Call) : List EvaluationError :=
  if call.name = "link" ∧ call.args.length ≠ 1 then
    [.operation (.arity call.name 1 call.args.length)]
  else []

/-- The error of a pipeline that fails. -/
def resultErrors : Except OperationError Selection → List EvaluationError
  | .ok _ => []
  | .error e => [.operation e]

/-- Errors with the fields that they belong to. -/
abbrev Raised (program : Program) : Type := List (program.Id × EvaluationError)

variable (registry : Registry) (here : Context program)

/-- The selection of a field under a context.  There is none where the field, or one above it,
fails. -/
def selection (id : program.Id) : Option Selection :=
  match here id with
  | some s => some s
  | none =>
    match program.parent id with
    | none => none
    | some ⟨q, _⟩ =>
      match selection q with
      | none => none
      | some s =>
        let calls := (program.field id).pipeline.filterMap <|
          resolveCall id fun f _ => ((selection f).map (·.textContent)).getD ""
        (runPipeline registry s calls).2.toOption
termination_by id.val

/-- Text of a field under a context, empty if there is no selection. -/
def fieldText (id : program.Id) : String :=
  ((selection registry here id).map (·.textContent)).getD ""

/-- The calls of a field with their references resolved under a context. -/
def calls (id : program.Id) : List Call :=
  (program.field id).pipeline.filterMap (resolveCall id fun f _ => fieldText registry here f)

/-- Errors on the way to the selection of a field: those of its parent, those of the fields that its
calls refer to, and its own. -/
def selectionErrors (id : program.Id) : Raised program :=
  match here id with
  | some _ => []
  | none =>
    match program.parent id with
    | none => []
    | some ⟨q, _⟩ =>
      selectionErrors q ++
        match selection registry here q with
        | none => []
        | some s =>
          ((program.field id).pipeline.flatMap fun call =>
            ((callReferences id call).flatMap fun ⟨f, _⟩ => selectionErrors f) ++
              (callErrors call).map fun e => (id, e)) ++
          (resultErrors (runPipeline registry s (calls registry here id)).2).map fun e => (id, e)
termination_by id.val

/-- The value of a field whose type has no children, from its selection. -/
def scalar (type : FieldType) (s : Selection) : Except ValueError Value :=
  if s.isEmpty then .ok (.empty type) else (Value.empty type).setScalar s.textContent

/-- The value of a field under a context. -/
def value (here : Context program) (id : program.Id) : Value :=
  let field := program.field id
  match selection registry here id with
  | none => .empty field.type
  | some s =>
    match field.type with
    | .text | .number => (scalar field.type s).toOption.getD (.empty field.type)
    | .object =>
      .object <| Value.ofFields <| (program.children id).map fun ⟨c, _⟩ =>
        ((program.field c).name, value here c)
    | .array =>
      .array <| s.elements.flatMap fun element =>
        (program.children id).map fun ⟨c, _⟩ => value (here.enter id element) c
    | .objects =>
      let rows := s.elements.map fun element =>
        (program.children id).map fun ⟨c, _⟩ =>
          ((program.field c).name, value (here.enter id element) c)
      .objects ((rows.filter (!·.isEmpty)).map Value.ofFields)
termination_by program.size - id.val
decreasing_by all_goals exact Nat.sub_lt_sub_left id.isLt ‹_›

/-- Errors on the way to the value of a field: those of its selection, its own, and those of its
children, under every element of an iterated field. -/
def valueErrors (here : Context program) (id : program.Id) : Raised program :=
  let field := program.field id
  selectionErrors registry here id ++
    match selection registry here id with
    | none => []
    | some s =>
      match field.type with
      | .text | .number =>
        match scalar field.type s with
        | .ok _ => []
        | .error e => [(id, .value e)]
      | .object => (program.children id).flatMap fun ⟨c, _⟩ => valueErrors here c
      | .array | .objects =>
        s.elements.flatMap fun element =>
          (program.children id).flatMap fun ⟨c, _⟩ => valueErrors (here.enter id element) c
termination_by program.size - id.val
decreasing_by all_goals exact Nat.sub_lt_sub_left id.isLt ‹_›

/-- Data of a run on a document. -/
def data (program : Program) (registry : Registry) (document : String) : Json :=
  Value.projectTop program.shape <| Value.ofFields <| program.topLevel.map fun ⟨c, _⟩ =>
    ((program.field c).name, value registry (.start program document) c)

/-- Errors of a run on a document. -/
def errors (program : Program) (registry : Registry) (document : String) : Raised program :=
  program.topLevel.flatMap fun ⟨c, _⟩ => valueErrors registry (.start program document) c

/-- The line that reports an error. -/
def errorLine (p : program.Id × EvaluationError) : String :=
  s!"{(program.field p.1).name}: {p.2.message}"

end Reference

end DocQuery
