import DocQuery.Operation.Registry
import DocQuery.Text.Blank
/-! The list of operations: a line for each with its parameters and what it does. -/

namespace DocQuery.Command

/-- Parameters of an operation and what it does. -/
structure Description where
  parameters : List String
  summary : String
  deriving DecidableEq, Repr

/-- Descriptions of the operations that every expression can use. -/
def descriptions : List (String × Description) := [
  ("css", ⟨["selector"], "find elements with a CSS selector"⟩),
  ("json", ⟨["path"], "find values with a dotted JSON path"⟩),
  ("xpath", ⟨["path"], "find nodes with an XPath location path"⟩),
  ("regex", ⟨["pattern"], "find matches of /pattern/flags"⟩),
  ("trim", ⟨[], "strip surrounding whitespace"⟩),
  ("template", ⟨["text"], "replace the selection with text"⟩),
  ("attr", ⟨["name"], "read an attribute of the first element"⟩),
  ("eq", ⟨["index"], "keep the element at a zero-based index"⟩),
  ("string", ⟨[], "keep the raw markup as a string"⟩),
  ("text", ⟨[], "keep the text content as a string"⟩),
  ("link", ⟨["node"], "replace the selection with another node's text"⟩),
  ("replace", ⟨["old", "new"], "replace every occurrence of old"⟩),
  ("absolute", ⟨["base"], "resolve a URL against base"⟩)]

/-- The description of an operation.  One without its own has nameless parameters. -/
def describe (name : String) (arity : Nat) : Description :=
  (descriptions.lookup name).getD ⟨.replicate arity "arg", ""⟩

/-- A text with blanks behind it up to a width. -/
def padRight (width : Nat) (s : String) : String :=
  s ++ String.ofList (.replicate (width - s.length) ' ')

/-- The line of an operation. -/
def operationLine (name : String) (arity : Nat) : String :=
  let description := describe name arity
  let signature := name ++ "(" ++ ", ".intercalate description.parameters ++ ")"
  Text.trimEnd ("  " ++ padRight 24 signature ++ " " ++ description.summary) ++ "\n"

/-- Lists the operations of a registry. -/
def operationList (registry : Registry) : String :=
  String.join (registry.operations.map fun (name, arity) => operationLine name arity)

end DocQuery.Command
