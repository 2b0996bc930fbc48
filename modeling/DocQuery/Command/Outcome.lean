import DocQuery.Command.Arguments
import DocQuery.Command.Listing
/-! The whole program: from its arguments to what it prints and its exit code.  The code is 1 where
nothing could be checked and 2 where the arguments are wrong. -/

namespace DocQuery.Command

/-- What the program prints, and its exit code. -/
structure Outcome where
  code : UInt32 := 0
  output : String := ""
  errors : String := ""
  deriving DecidableEq, Repr

/-- The line that names the program and its version. -/
def versionLine : String := "gq 0.2.0\n"

/-- Help on `check`. -/
def checkHelp : List String := [
  "Compile an expression and run it against a document",
  "",
  "Usage: gq check [OPTIONS] <EXPRESSION>",
  "",
  "Arguments:",
  "  <EXPRESSION>  The expression to run",
  "",
  "Options:",
  "  -i, --input <INPUT>  Document text (reads from stdin if neither this nor --file is given)",
  "  -f, --file <FILE>    Read the document from a file",
  "  -p, --pretty         Pretty-print the output",
  "      --syntax-only    Only validate syntax and print the normalised expression",
  "  -h, --help           Print help"]

/-- Help on `ops`. -/
def operationsHelp : List String := [
  "List the available pipeline operations",
  "",
  "Usage: gq ops",
  "",
  "Options:",
  "  -h, --help  Print help"]

/-- Help on `help`. -/
def helpHelp : List String := [
  "Print this message or the help of the given subcommand(s)",
  "",
  "Usage: gq help [COMMAND]...",
  "",
  "Arguments:",
  "  [COMMAND]...  Print help for the subcommand(s)"]

/-- Help on the program. -/
def programHelp : List String := [
  "Extract typed JSON from HTML, XML and JSON documents",
  "",
  "Usage: gq <COMMAND>",
  "",
  "Commands:",
  "  check  Compile an expression and run it against a document",
  "  ops    List the available pipeline operations",
  "  help   Print this message or the help of the given subcommand(s)",
  "",
  "Options:",
  "  -h, --help     Print help",
  "  -V, --version  Print version"]

/-- Help on a command, or on the program. -/
def helpText (topic : Option String) : String :=
  let lines := match topic with
    | some "check" => checkHelp
    | some "ops" => operationsHelp
    | some _ => helpHelp
    | none => programHelp
  String.join (lines.map (· ++ "\n"))

/-- What a check prints. -/
def showResult (pretty : Bool) : CheckResult → String
  | .compiled source => "Syntax is valid\n" ++ source ++ "\n"
  | .ran response =>
    (if pretty then response.toJson.pretty else response.toJson.compact) ++ "\n"

/-- The options with the input of the program as the document, where they need one. -/
def withInput [Monad m] (host : Host m) (options : CheckOptions) :
    m (Except CommandError CheckOptions) := do
  if options.input.isNone && options.file.isNone && !options.formOnly then
    return (readText (← host.inputBytes)).mapError .read |>.map fun document =>
      { options with input := some document }
  else return .ok options

/-- Runs the program. -/
def run [Monad m] (host : Host m) (arguments : List String) : m Outcome := do
  match readArguments arguments with
  | .error e => return { code := 2, errors := e.message ++ "\n" }
  | .ok (.help topic) => return { output := helpText topic }
  | .ok .version => return { output := versionLine }
  | .ok .operations => return { output := operationList .builtin }
  | .ok (.check options pretty) =>
    let result ← do
      match ← withInput host options with
      | .error e => pure (.error e)
      | .ok options => check host options
    match result with
    | .ok result => return { output := showResult pretty result }
    | .error e => return { code := 1, errors := e.message ++ "\n" }

end DocQuery.Command
