import DocQuery.Css.Error
import DocQuery.Regex.Search
import DocQuery.XPath.Reader
/-! Regular expressions as selectors.  A selector is a bare pattern, or a pattern between slashes
with letters behind the last slash that say how it is used. -/

namespace DocQuery

/-- Why a text is no selector of its kind. -/
inductive ExpressionError where
  | css (e : Css.SelectorError)
  | xpath (e : XPath.PathError)
  | regex (pattern : String) (e : Regex.RegexError)
  | unknownModifier (c : Char)
  deriving DecidableEq, Repr

/-- Wording of an error in the given expression. -/
def ExpressionError.message (expression : String) : ExpressionError → String
  | css e => e.message
  | xpath e => e.message expression
  | regex pattern e => e.message pattern
  | unknownModifier c => "unknown modifier '" ++ String.ofList [c] ++ "'"

/-- A regular expression with the group whose text is wanted. -/
structure RegexQuery where
  pattern : String
  regex : Regex
  group : Nat

namespace RegexQuery

/-- Pattern and modifiers of an expression. -/
def split (expression : String) : String × String :=
  match expression.toList with
  | '/' :: cs =>
    if cs.contains '/' then
      let modifiers := (cs.reverse.takeWhile (· != '/')).reverse
      (String.ofList (cs.take (cs.length - modifiers.length - 1)), String.ofList modifiers)
    else (expression, "")
  | _ => (expression, "")

/-- Reads an expression.  With `w` the first group is wanted and not the whole match; `i`, `m` and
`s` are flags of the pattern. -/
def ofText (expression : String) : Except ExpressionError RegexQuery :=
  let (pattern, modifiers) := split expression
  match modifiers.toList.find? fun c => !"wims".toList.contains c with
  | some c => .error (.unknownModifier c)
  | none =>
    let has (c : Char) : Bool := modifiers.toList.contains c
    let flags : Regex.Flags :=
      { ignoreCase := has 'i', multiLine := has 'm', dotAll := has 's' }
    match Regex.ofText flags pattern with
    | .error e => .error (.regex pattern e)
    | .ok regex => .ok { pattern, regex, group := if has 'w' then 1 else 0 }

/-- The texts that are found in a text.  Where the pattern has no such group nothing is found. -/
def select (q : RegexQuery) (text : String) : List String :=
  if q.group < q.regex.groups then q.regex.captures q.group text else []

end RegexQuery

end DocQuery
