import DocQuery.Number.Index
import DocQuery.Operation.Registry
import DocQuery.Text.Search
/-! The operations that every expression can use.  Four narrow the selection by a selector of their
own kind, `attr` and `eq` pick from it, and the others give a text. -/

namespace DocQuery

namespace Operation

/-- Narrows the selection, read as one of a kind, by a selector of that kind. -/
def narrow (kind : SelectionKind) : Operation where
  arity := 1
  run s args := ((s.asKind kind).bind fun s => s.find args[0]).mapError .selection

/-- Gives a text that depends on the selection alone. -/
def ofText (text : Selection → String) : Operation where
  arity := 0
  run s _ := .ok (.text (text s))

/-- Gives its argument. -/
def constant : Operation where
  arity := 1
  run _ args := .ok (.text args[0])

/-- Gives an attribute of the first element. -/
def attr : Operation where
  arity := 1
  run s args := (Selection.text <$> s.attributeValue args[0]).mapError .selection

/-- The error of `eq` for a text that is not an index. -/
def notIndex (text : String) (cause : IndexError) : OperationError :=
  .badArgument "eq" s!"{Text.quoted text} is not an index: {cause.message}"

/-- Keeps the element at an index. -/
def eq : Operation where
  arity := 1
  run s args :=
    match readIndex (Text.trim args[0]).toList with
    | .error cause => .error (notIndex args[0] cause)
    | .ok index =>
      match s.at? index with
      | some element => .ok element
      | none => .error (.selection (.notFound index s.size))

/-- Replaces every occurrence of a text in the raw text by another text. -/
def replace : Operation where
  arity := 2
  run s args := .ok (.text (Text.replaceAll s.raw args[0] args[1]))

/-- Takes the raw text for an address, as a page at a base address refers to it. -/
def absolute : Operation where
  arity := 1
  run s args := (Selection.text <$> Url.resolve args[0] s.raw).mapError .url

end Operation

namespace Registry

/-- The operations that every expression can use.  The argument of `link` is the text of a field by
the time it runs. -/
def builtin : Registry where
  entries := [
    ("css", .narrow .css), ("json", .narrow .json), ("xpath", .narrow .xpath),
    ("regex", .narrow .regex), ("trim", .ofText fun s => Text.trim s.raw),
    ("template", .constant), ("attr", .attr), ("eq", .eq), ("string", .ofText Selection.raw),
    ("text", .ofText Selection.textContent), ("link", .constant), ("replace", .replace),
    ("absolute", .absolute)]
  nodup := by simp

end Registry

end DocQuery
