import DocQuery.Command.Check
/-! Arguments of the program.  The first one names a command.  Those of `check` are an expression
and options, in any order: long options take their value behind an equals sign or as the next
argument, short ones also directly, and short ones without values can stand together.  Behind `--`
there are no options. -/

namespace DocQuery.Command

/-- What the program can be asked to do. -/
inductive Request where
  | check (options : CheckOptions) (pretty : Bool)
  | operations
  /-- To explain a command, or itself. -/
  | help (topic : Option String)
  | version
  deriving DecidableEq, Repr

/-- Why arguments ask for nothing. -/
inductive UsageError where
  | missingCommand
  | unknownCommand (name : String)
  | unexpected (argument : String)
  | missingExpression
  | missingValue (option : String)
  | unneededValue (option : String)
  | repeated (option : String)
  | conflict
  deriving DecidableEq, Repr

/-- Wording of the error. -/
def UsageError.message : UsageError → String
  | missingCommand => "error: a command is required"
  | unknownCommand name => s!"error: unrecognized subcommand '{name}'"
  | unexpected argument => s!"error: unexpected argument '{argument}' found"
  | missingExpression =>
    "error: the following required arguments were not provided:\n  <EXPRESSION>"
  | missingValue option => s!"error: a value is required for '{option}' but none was supplied"
  | unneededValue option => s!"error: unexpected value for '{option}' found; no more were expected"
  | repeated option => s!"error: the argument '{option}' cannot be used multiple times"
  | conflict => "error: the argument '--input <INPUT>' cannot be used with '--file <FILE>'"

/-- Why the arguments are not read any further. -/
inductive Stop where
  | usage (e : UsageError)
  | request (r : Request)
  deriving DecidableEq, Repr

/-- Options that take a value. -/
inductive ValueOption where
  | input
  | file
  deriving DecidableEq, Repr

/-- Options. -/
inductive CheckOption where
  | value (option : ValueOption)
  | pretty
  | formOnly
  | help
  deriving DecidableEq, Repr

/-- The option of a long name. -/
def CheckOption.ofName? : String → Option CheckOption
  | "input" => some (.value .input)
  | "file" => some (.value .file)
  | "pretty" => some .pretty
  | "syntax-only" => some .formOnly
  | "help" => some .help
  | _ => none

/-- The option of a letter. -/
def CheckOption.ofLetter? : Char → Option CheckOption
  | 'i' => some (.value .input)
  | 'f' => some (.value .file)
  | 'p' => some .pretty
  | 'h' => some .help
  | _ => none

/-- What arguments have said so far. -/
structure CheckArguments where
  expression : Option String := none
  input : Option String := none
  file : Option String := none
  pretty : Bool := false
  formOnly : Bool := false
  deriving DecidableEq, Repr

namespace CheckArguments

/-- Takes the expression. -/
def withExpression (a : CheckArguments) (argument : String) : Except Stop CheckArguments :=
  if a.expression.isSome then .error (.usage (.unexpected argument))
  else .ok { a with expression := some argument }

/-- Takes the value of an option.  The name of a file is not empty. -/
def withValue (a : CheckArguments) (value : String) : ValueOption → Except Stop CheckArguments
  | .input =>
    if a.input.isSome then .error (.usage (.repeated "--input <INPUT>"))
    else .ok { a with input := some value }
  | .file =>
    if a.file.isSome then .error (.usage (.repeated "--file <FILE>"))
    else if value.isEmpty then .error (.usage (.missingValue "--file <FILE>"))
    else .ok { a with file := some value }

/-- Takes an option without value. -/
def withFlag (a : CheckArguments) : CheckOption → Except Stop CheckArguments
  | .value .input => .error (.usage (.missingValue "--input <INPUT>"))
  | .value .file => .error (.usage (.missingValue "--file <FILE>"))
  | .pretty =>
    if a.pretty then .error (.usage (.repeated "--pretty")) else .ok { a with pretty := true }
  | .formOnly =>
    if a.formOnly then .error (.usage (.repeated "--syntax-only"))
    else .ok { a with formOnly := true }
  | .help => .error (.request (.help (some "check")))

/-- Takes a long option, written without its hyphens.  One that takes a value may leave it to the
next argument. -/
def withLong (a : CheckArguments) (argument : String) :
    Except Stop (CheckArguments × Option ValueOption) :=
  let cs := argument.toList
  let name := cs.takeWhile (· != '=')
  let value := if name.length < cs.length then
      some (String.ofList (cs.drop (name.length + 1)))
    else none
  match CheckOption.ofName? (String.ofList name), value with
  | none, _ => .error (.usage (.unexpected ("--" ++ String.ofList name)))
  | some (.value option), none => .ok (a, some option)
  | some (.value option), some value => (·, none) <$> a.withValue value option
  | some option, none => (·, none) <$> a.withFlag option
  | some _, some _ => .error (.usage (.unneededValue ("--" ++ String.ofList name)))

/-- Takes short options that stand together. -/
def withShort (a : CheckArguments) :
    List Char → Except Stop (CheckArguments × Option ValueOption)
  | [] => .ok (a, none)
  | c :: cs =>
    match CheckOption.ofLetter? c with
    | none => .error (.usage (.unexpected ("-" ++ String.ofList [c])))
    | some (.value option) =>
      match cs with
      | [] => .ok (a, some option)
      | '=' :: value => (·, none) <$> a.withValue (String.ofList value) option
      | value => (·, none) <$> a.withValue (String.ofList value) option
    | some option => do (← a.withFlag option).withShort cs

/-- Takes arguments that are not options. -/
def withTrailing (a : CheckArguments) : List String → Except Stop CheckArguments
  | [] => .ok a
  | argument :: rest => do (← a.withExpression argument).withTrailing rest

/-- Takes all arguments; `waiting` is an option whose value comes next. -/
def withAll (a : CheckArguments) (waiting : Option ValueOption) :
    List String → Except Stop CheckArguments
  | [] =>
    match waiting with
    | some option => a.withFlag (.value option)
    | none => .ok a
  | argument :: rest =>
    match argument.toList, waiting with
    | '-' :: _ :: _, some option => a.withFlag (.value option)
    | _, some option => do (← a.withValue argument option).withAll none rest
    | ['-', '-'], none => a.withTrailing rest
    | '-' :: '-' :: long, none => do
      let (a, waiting) ← a.withLong (String.ofList long)
      a.withAll waiting rest
    | '-' :: c :: short, none => do
      let (a, waiting) ← a.withShort (c :: short)
      a.withAll waiting rest
    | _, none => do (← a.withExpression argument).withAll none rest

/-- The request that all arguments make together. -/
def request (a : CheckArguments) : Except UsageError Request :=
  if a.input.isSome && a.file.isSome then .error .conflict
  else
    match a.expression with
    | none => .error .missingExpression
    | some expression =>
      .ok (.check { expression, input := a.input, file := a.file, formOnly := a.formOnly } a.pretty)

end CheckArguments

/-- Reads the arguments of `check`. -/
def readCheck (arguments : List String) : Except UsageError Request :=
  match CheckArguments.withAll {} none arguments with
  | .ok a => a.request
  | .error (.request r) => .ok r
  | .error (.usage e) => .error e

/-- Reads the arguments of `ops`, of which there are none but a call for help. -/
def readOperations : List String → Except UsageError Request
  | [] | ["--"] => .ok .operations
  | argument :: _ =>
    if argument == "--help" || "-h".isPrefixOf argument then .ok (.help (some "ops"))
    else .error (.unexpected argument)

/-- Reads the arguments of `help`. -/
def readHelp : List String → Except UsageError Request
  | [] => .ok (.help none)
  | [topic] =>
    if ["check", "ops", "help"].contains topic then .ok (.help (some topic))
    else .error (.unknownCommand topic)
  | _ :: topic :: _ => .error (.unknownCommand topic)

/-- Reads the arguments of the program. -/
def readArguments : List String → Except UsageError Request
  | [] => .error .missingCommand
  | "check" :: rest => readCheck rest
  | "ops" :: rest => readOperations rest
  | "help" :: rest => readHelp rest
  | "--help" :: _ => .ok (.help none)
  | "--version" :: _ => .ok .version
  | argument :: _ =>
    if "-h".isPrefixOf argument then .ok (.help none)
    else if "-V".isPrefixOf argument then .ok .version
    else if "-".isPrefixOf argument && argument != "-" then .error (.unexpected argument)
    else .error (.unknownCommand argument)

end DocQuery.Command
