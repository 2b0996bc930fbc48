import DocQuery.Evaluation.Run
/-! Checking an expression: it is compiled and, unless only its form matters, run on a document
that is given as a text or as a file. -/

namespace DocQuery.Command

/-- Why a file or the input cannot be read as a text. -/
inductive ReadError where
  | system (description : String) (code : Nat)
  | notUtf8
  deriving DecidableEq, Repr

/-- Wording of the error. -/
def ReadError.message : ReadError → String
  | system description code => s!"{description} (os error {code})"
  | notUtf8 => "stream did not contain valid UTF-8"

/-- There is no file of the name. -/
def ReadError.notFound : ReadError := .system "No such file or directory" 2

/-- The name is that of a directory. -/
def ReadError.isDirectory : ReadError := .system "Is a directory" 21

/-- The text that bytes are. -/
def readText (bytes : List UInt8) : Except ReadError String :=
  (Utf8.decode bytes).mapError fun _ => .notUtf8

/-- Access to files and to the input of the program. -/
structure Host (m : Type → Type) where
  fileBytes : String → m (Except ReadError (List UInt8))
  inputBytes : m (List UInt8)

/-- Why there is nothing to show. -/
inductive CommandError where
  | compile (cause : CompileError)
  | read (cause : ReadError)
  | noInput
  deriving DecidableEq, Repr

/-- Wording of the error. -/
def CommandError.message : CommandError → String
  | compile cause => "Compile error: " ++ cause.message
  | read cause => "IO error: " ++ cause.message
  | noInput => "No input provided. Use --input, --file or pipe a document to stdin."

/-- What to check. -/
structure CheckOptions where
  expression : String
  /-- The document. -/
  input : Option String := none
  /-- A file that holds the document; of no use when the document is given. -/
  file : Option String := none
  /-- Whether the expression is only compiled. -/
  formOnly : Bool := false
  deriving DecidableEq, Repr

/-- Result of a check: the normalised expression, or the response of the run. -/
inductive CheckResult where
  | compiled (source : String)
  | ran (response : Response)
  deriving Repr

/-- Checks an expression.  The document is read only if the expression compiles. -/
def check [Monad m] (host : Host m) (options : CheckOptions) :
    m (Except CommandError CheckResult) := do
  match compile (Utf8.encode options.expression) with
  | .error e => return .error (.compile e)
  | .ok program =>
    if options.formOnly then return .ok (.compiled program.source)
    let run (document : String) : CheckResult := .ran (program.run .builtin document)
    match options.input, options.file with
    | some document, _ => return .ok (run document)
    | none, some file =>
      return ((← host.fileBytes file).bind readText).mapError .read |>.map run
    | none, none => return .error .noInput

end DocQuery.Command
