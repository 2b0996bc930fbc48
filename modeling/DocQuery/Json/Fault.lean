/-! Faults of a JSON text.  A fault has a cause and a place; the place is told as a line and a
column, and columns count bytes. -/

namespace DocQuery.Json

/-- What is wrong with a JSON text. -/
inductive Cause where
  | endInList
  | endInObject
  | endInString
  | endInValue
  | expectedColon
  | expectedCommaOrBracket
  | expectedCommaOrBrace
  | expectedIdent
  | expectedValue
  | invalidEscape
  | invalidNumber
  | numberOutOfRange
  | controlCharacter
  | keyNotString
  | loneSurrogate
  | trailingComma
  | trailingCharacters
  | unfinishedHexEscape
  | tooDeep
  /-- The text is JSON but not of the form that was asked for. -/
  | form (message : String)
  deriving DecidableEq, Repr

/-- Wording of a cause. -/
def Cause.message : Cause → String
  | endInList => "EOF while parsing a list"
  | endInObject => "EOF while parsing an object"
  | endInString => "EOF while parsing a string"
  | endInValue => "EOF while parsing a value"
  | expectedColon => "expected `:`"
  | expectedCommaOrBracket => "expected `,` or `]`"
  | expectedCommaOrBrace => "expected `,` or `\x7d`"
  | expectedIdent => "expected ident"
  | expectedValue => "expected value"
  | invalidEscape => "invalid escape"
  | invalidNumber => "invalid number"
  | numberOutOfRange => "number out of range"
  | controlCharacter => "control character (\\u0000-\\u001F) found while parsing a string"
  | keyNotString => "key must be a string"
  | loneSurrogate => "lone leading surrogate in hex escape"
  | trailingComma => "trailing comma"
  | trailingCharacters => "trailing characters"
  | unfinishedHexEscape => "unexpected end of hex escape"
  | tooDeep => "recursion limit exceeded"
  | form message => message

/-- A fault at `extra` bytes after the place where `rest` is left to read. -/
structure Fault where
  cause : Cause
  rest : List Char
  extra : Nat
  deriving DecidableEq, Repr

/-- Number of bytes of a text. -/
def byteCount (cs : List Char) : Nat :=
  cs.foldl (fun n c => n + c.utf8Size) 0

/-- Wording of a fault in a text. -/
def Fault.message (fault : Fault) (text : String) : String :=
  let cs := text.toList
  let read := cs.take (cs.length - fault.rest.length)
  let line := read.count '\n' + 1
  let column := byteCount (read.reverse.takeWhile (· != '\n')) + fault.extra
  s!"{fault.cause.message} at line {line} column {column}"

end DocQuery.Json
