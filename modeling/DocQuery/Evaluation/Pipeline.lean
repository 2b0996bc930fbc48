import DocQuery.Expression.Field
import DocQuery.Operation.Registry
import DocQuery.Text.Search
/-! Pipelines.  A pipeline is a list of operation calls, each on the selection that the call before
it gave.  The first call that fails ends it. -/

namespace DocQuery

/-- Stands in an argument for the raw text of the selection that the call is made on. -/
def placeholder : String := "\x1a\x7b$\x7d\x1a"

/-- Fills the placeholder in arguments, the raw text of the selection being `raw` if it is known.
The text is taken when an argument first needs it; the number counts how often it was taken. -/
def fillFrom (s : Selection) (raw : Option String) : List String → List String × Nat
  | [] => ([], 0)
  | arg :: args =>
    if Text.contains arg placeholder then
      let known := raw.getD s.raw
      let (args, taken) := fillFrom s (some known) args
      (Text.replaceAll arg placeholder known :: args, if raw.isNone then taken + 1 else taken)
    else
      let (args, taken) := fillFrom s raw args
      (arg :: args, taken)

/-- Fills the placeholder in arguments. -/
def fillPlaceholder (s : Selection) (args : List String) : List String × Nat := fillFrom s none args

/-- A call as it is made: with its final arguments, on a selection of a kind. -/
structure Step where
  name : String
  args : List String
  kind : SelectionKind
  deriving DecidableEq, Repr

/-- A call as the log shows it. -/
def Step.message (step : Step) : String :=
  s!"{step.name}{Text.quotedList step.args} on {step.kind.name} selection"

/-- Runs a pipeline on a selection.  The calls that were made come with the result, the failed one
included. -/
def runPipeline (registry : Registry) (s : Selection) :
    List Call → List Step × Except OperationError Selection
  | [] => ([], .ok s)
  | call :: calls =>
    let args := (fillPlaceholder s call.args).1
    let step : Step := { name := call.name, args, kind := s.kind }
    match registry.invoke call.name s args with
    | .error e => ([step], .error e)
    | .ok next =>
      let (steps, result) := runPipeline registry next calls
      (step :: steps, result)

end DocQuery
