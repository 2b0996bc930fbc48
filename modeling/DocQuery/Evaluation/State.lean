import DocQuery.Evaluation.Pipeline
import DocQuery.Program
import DocQuery.Value
/-! What an evaluation knows.  For every field of the program there is a place for its current
selection and a list of the errors recorded against it.  Events are logged in order. -/

namespace DocQuery

/-- Why a field has no value of its own. -/
inductive EvaluationError where
  | operation (cause : OperationError)
  | value (cause : ValueError)
  deriving DecidableEq, Repr

/-- Wording of the error. -/
def EvaluationError.message : EvaluationError → String
  | operation cause => cause.message
  | value cause => cause.message

/-- What happens from the compilation of an expression to the end of its evaluation. -/
inductive Event where
  /-- An expression was compiled. -/
  | compiled (shape : Shape) (fields : Nat)
  /-- The selection of a field was known. -/
  | hit (field : String)
  /-- The selection of a field had to be found. -/
  | miss (field : String)
  /-- A call was made. -/
  | call (step : Step)
  /-- An error was recorded against a field. -/
  | failure (field : String) (error : EvaluationError)
  deriving DecidableEq, Repr

/-- Levels of the log. -/
inductive LogLevel where
  | debug
  | trace
  deriving DecidableEq, Repr

/-- Name of a level. -/
def LogLevel.name : LogLevel → String
  | debug => "DEBUG"
  | trace => "TRACE"

namespace Event

/-- Level of an event. -/
def level : Event → LogLevel
  | hit _ | miss _ | call _ => .trace
  | compiled _ _ | failure _ _ => .debug

/-- An event as the log shows it. -/
def message : Event → String
  | compiled .object fields => s!"compiled Object program with {fields} nodes"
  | compiled .atom fields => s!"compiled Atom program with {fields} nodes"
  | hit field => s!"selection cache hit for {field}"
  | miss field => s!"selection cache miss for {field}"
  | call step => step.message
  | failure field error => s!"{field}: {error.message}"

/-- The line of an event in the log. -/
def line (event : Event) : String := event.level.name ++ " " ++ event.message

end Event

/-- State of one evaluation of a program. -/
structure Evaluation (program : Program) where
  cache : Vector (Option Selection) program.size
  errors : Vector (List EvaluationError) program.size
  log : Array Event

/-- A computation during an evaluation. -/
abbrev Evaluating (program : Program) : Type → Type := StateM (Evaluation program)

namespace Evaluation

variable {program : Program}

/-- The state before anything is evaluated: the root selects the document. -/
def start (program : Program) (document : String) : Evaluation program where
  cache := (Vector.replicate _ none).set program.root (some (.text document))
  errors := .replicate _ []
  log := #[]

/-- Number of fields whose selection is known. -/
def cached (e : Evaluation program) : Nat := e.cache.countP Option.isSome

/-- Short description. -/
def describe (e : Evaluation program) : String :=
  s!"Evaluator \x7b nodes: {program.size}, cached: {e.cached} \x7d"

/-- All recorded errors with the names of their fields, by field and then as they were recorded. -/
def recorded (e : Evaluation program) : List String :=
  program.preorder.flatMap fun id =>
    e.errors[id].map fun error => s!"{(program.field id).name}: {error.message}"

/-- Counts one more occurrence of a line; lines stand in the order of their first occurrence. -/
def countLine (line : String) : List (String × Nat) → List (String × Nat)
  | [] => [(line, 1)]
  | (l, n) :: rest => if l = line then (l, n + 1) :: rest else (l, n) :: countLine line rest

/-- A line with the number of its occurrences, if there are several. -/
def showCount (line : String) (times : Nat) : String :=
  if times = 1 then line else s!"{line} ({times} times)"

/-- The recorded errors, each different one once. -/
def errorLines (e : Evaluation program) : List String :=
  (e.recorded.foldl (fun counts line => countLine line counts) []).map fun (line, times) =>
    showCount line times

end Evaluation

namespace Evaluating

variable {program : Program}

/-- Logs an event. -/
def logEvent (event : Event) : Evaluating program Unit :=
  modify fun e => { e with log := e.log.push event }

/-- The known selection of a field. -/
def cached? (id : program.Id) : Evaluating program (Option Selection) := do
  return (← get).cache[id]

/-- Keeps the selection of a field, or forgets it. -/
def setCached (id : program.Id) (s : Option Selection) : Evaluating program Unit :=
  modify fun e => { e with cache := e.cache.set id s }

/-- Forgets the selections of all fields below a field. -/
def forgetBelow (id : program.Id) : Evaluating program Unit :=
  modify fun e =>
    let forget (cache : Vector (Option Selection) program.size) (d : program.Id) :=
      cache.set d none
    { e with cache := (program.tree.descendants id).foldl forget e.cache }

/-- Records an error against a field. -/
def record (id : program.Id) (error : EvaluationError) : Evaluating program Unit :=
  modify fun e => { e with
    errors := e.errors.set id (e.errors[id] ++ [error])
    log := e.log.push (.failure (program.field id).name error) }

end Evaluating

end DocQuery
