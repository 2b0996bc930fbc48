import DocQuery.Css.Token
import DocQuery.Text.Quoted
/-! Why a text is no selector, and what is reported then. -/

namespace DocQuery.Css

open Text (quoted quotedChar)

/-- The first error of a selector. -/
inductive SelectorError where
  | unexpectedToken (token : Token)
  | endOfText
  | emptySelector
  | danglingCombinator
  /-- What is written is allowed, but not here. -/
  | misplaced
  | attributeWithoutName (token : Token)
  | attributeWithoutBar (token : Token)
  | attributeSpaceWithoutName (token : Token)
  | attributeOperator (token : Token)
  | attributeValue (token : Token)
  | unknownSpace (name : String)
  | spaceWithoutName (token : Token)
  | classWithoutName (token : Token)
  | pseudoWithoutName (token : Token)
  | unknownPseudo (name : String)
  deriving DecidableEq, Repr

/-- A bracket that opens or closes something where neither is expected. -/
def Bracket.text (opening : Bool) : Bracket → String
  | .round => if opening then "<(" else "<)"
  | .square => if opening then "<[" else "<]"
  | .curly => if opening then "<\x7b" else "<\x7d"

namespace Token

/-- A token as messages cite it. -/
def cited : Token → String
  | ident name => name
  | atKeyword name => "@" ++ name
  | hash name _ => "#" ++ name
  | string text => "\"" ++ text ++ "\""
  | url text => text
  | brokenString text => "<Bad String " ++ quoted text ++ ">"
  | brokenUrl text => "<Bad URL " ++ quoted text ++ ">"
  | delim c => String.ofList [c]
  | number n => n.source
  | percentage n => n.source ++ "%"
  | dimension n unit => n.source ++ unit
  | blank _ => " "
  | colon => ":"
  | semicolon => ";"
  | comma => ","
  | includes => "~="
  | dashMatch => "|="
  | startsWith => "^="
  | endsWith => "$="
  | substring => "*="
  | commentOpen => "<!--"
  | commentClose => "-->"
  | function name => name ++ "()"
  | opening b => b.text true
  | closing b => b.text false

end Token

/-- Lines moved to the right by a step. -/
def indented (lines : List String) : List String :=
  lines.map ("    " ++ ·)

/-- A named description with parts in parentheses, one below the other. -/
def describeParts (name : String) (parts : List (List String)) : List String :=
  (name ++ "(") :: parts.flatMap (fun p => indented (closeLast p)) ++ [")"]
where
  /-- The lines with a comma after the last. -/
  closeLast (lines : List String) : List String :=
    lines.dropLast ++ [lines.getLastD "" ++ ","]

/-- A named description with named parts between braces. -/
def describeFields (name : String) (fields : List (String × List String)) : List String :=
  let part (field : String) (lines : List String) : List String :=
    indented (describeParts.closeLast ((field ++ ": " ++ lines.headD "") :: lines.tail))
  (name ++ " \x7b") :: fields.flatMap (fun (field, lines) => part field lines) ++ ["\x7d"]

namespace Token

/-- Description of the parts of a number. -/
def numeralFields (value : String) (n : Numeral) : List (String × List String) :=
  [("has_sign", [if n.signed then "true" else "false"]), (value, [n.shown]),
    ("int_value", match n.integer with
      | none => ["None"]
      | some i => describeParts "Some" [[toString i]])]

/-- Description of a bracket. -/
def describeBracket (close : Bool) (b : Bracket) : List String :=
  let name := match b with
    | .round => "Parenthesis"
    | .square => "SquareBracket"
    | .curly => "CurlyBracket"
  [if close then "Close" ++ name else name ++ "Block"]

/-- Full description of a token, line by line. -/
def described : Token → List String
  | ident name => describeParts "Ident" [[quoted name]]
  | atKeyword name => describeParts "AtKeyword" [[quoted name]]
  | hash name isId => describeParts (if isId then "IDHash" else "Hash") [[quoted name]]
  | string text => describeParts "QuotedString" [[quoted text]]
  | url text => describeParts "UnquotedUrl" [[quoted text]]
  | brokenString text => describeParts "BadString" [[quoted text]]
  | brokenUrl text => describeParts "BadUrl" [[quoted text]]
  | delim c => describeParts "Delim" [[quotedChar c]]
  | number n => describeFields "Number" (numeralFields "value" n)
  | percentage n => describeFields "Percentage" (numeralFields "unit_value" n)
  | dimension n unit =>
    describeFields "Dimension" (numeralFields "value" n ++ [("unit", [quoted unit])])
  | blank text => describeParts "WhiteSpace" [[quoted text]]
  | colon => ["Colon"]
  | semicolon => ["Semicolon"]
  | comma => ["Comma"]
  | includes => ["IncludeMatch"]
  | dashMatch => ["DashMatch"]
  | startsWith => ["PrefixMatch"]
  | endsWith => ["SuffixMatch"]
  | substring => ["SubstringMatch"]
  | commentOpen => ["CDO"]
  | commentClose => ["CDC"]
  | function name => describeParts "Function" [[quoted name]]
  | opening b => describeBracket false b
  | closing b => describeBracket true b

end Token

namespace SelectorError

/-- Message about an error that has only a description. -/
def unexpected (description : List String) : String :=
  "Unexpected error occurred. Please report this to the developer\n" ++
    "\n".intercalate description

/-- What is reported about an error. -/
def message : SelectorError → String
  | unexpectedToken t => "Token " ++ quoted t.cited ++ " was not expected"
  | endOfText => "Unexpected EOL"
  | pseudoWithoutName t =>
    "Expected identity for pseudoelement, got " ++ quoted t.cited ++ " instead"
  | emptySelector => unexpected ["EmptySelector"]
  | danglingCombinator => unexpected ["DanglingCombinator"]
  | misplaced => unexpected ["InvalidState"]
  | attributeWithoutName t =>
    unexpected (describeParts "NoQualifiedNameInAttributeSelector" [t.described])
  | attributeWithoutBar t => unexpected (describeParts "ExpectedBarInAttr" [t.described])
  | attributeSpaceWithoutName t => unexpected (describeParts "InvalidQualNameInAttr" [t.described])
  | attributeOperator t =>
    unexpected (describeParts "UnexpectedTokenInAttributeSelector" [t.described])
  | attributeValue t => unexpected (describeParts "BadValueInAttr" [t.described])
  | unknownSpace name => unexpected (describeParts "ExpectedNamespace" [[quoted name]])
  | spaceWithoutName t =>
    unexpected (describeParts "ExplicitNamespaceUnexpectedToken" [t.described])
  | classWithoutName t => unexpected (describeParts "ClassNeedsIdent" [t.described])
  | unknownPseudo name =>
    unexpected (describeParts "UnsupportedPseudoClassOrElement" [[quoted name]])

end SelectorError

end DocQuery.Css
