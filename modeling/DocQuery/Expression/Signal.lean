/-! Significant bytes of an expression.  One byte tells which construct it opens. -/

namespace DocQuery.Expression

/-- The construct that a byte opens. -/
inductive Signal where
  | invalid
  | name
  | pipeline
  | object
  | array
  deriving DecidableEq, Repr

/-- Bytes of names: ASCII letters, digits and the underscore. -/
def isNameByte (b : UInt8) : Bool :=
  (0x30 ≤ b && b ≤ 0x39) || (0x41 ≤ b && b ≤ 0x5a) || (0x61 ≤ b && b ≤ 0x7a) || b == 0x5f

/-- Space, tab, carriage return and line feed. -/
def isBlankByte (b : UInt8) : Bool :=
  b == 0x20 || b == 0x09 || b == 0x0d || b == 0x0a

/-- Bytes with a meaning in expressions. -/
abbrev backtick : UInt8 := 0x60
@[inherit_doc backtick] abbrev quote : UInt8 := 0x22
@[inherit_doc backtick] abbrev comma : UInt8 := 0x2c
@[inherit_doc backtick] abbrev semicolon : UInt8 := 0x3b
@[inherit_doc backtick] abbrev openParen : UInt8 := 0x28
@[inherit_doc backtick] abbrev closeParen : UInt8 := 0x29
@[inherit_doc backtick] abbrev openBracket : UInt8 := 0x5b
@[inherit_doc backtick] abbrev closeBracket : UInt8 := 0x5d
@[inherit_doc backtick] abbrev openBrace : UInt8 := 0x7b
@[inherit_doc backtick] abbrev closeBrace : UInt8 := 0x7d

namespace Signal

/-- Classifies a byte. -/
def ofByte (b : UInt8) : Signal :=
  if isNameByte b then .name
  else if b = openBracket then .array
  else if b = openBrace then .object
  else if b = backtick then .pipeline
  else .invalid

/-- Classifies the next byte, if there is one. -/
def ofByte? : Option UInt8 → Signal
  | some b => ofByte b
  | none => invalid

/-- Name of a signal. -/
def toString : Signal → String
  | invalid => "invalid"
  | name => "name"
  | pipeline => "pipeline"
  | object => "object"
  | array => "array"

end Signal

end DocQuery.Expression
