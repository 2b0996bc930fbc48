import DocQuery.Text.Quoted
import DocQuery.Text.Utf8
/-! Compile errors.  An error names the construct being read, the cause, and the place, with two
excerpts of the expression around it. -/

namespace DocQuery

/-- Why an expression does not compile. -/
inductive CompileCause where
  /-- A byte was required and another one, or the end, was found. -/
  | mismatch (expected : UInt8) (found : Option UInt8)
  /-- A byte, or the end, was found where no construct can start. -/
  | unexpected (found : Option UInt8)
  /-- An argument is not UTF-8. -/
  | notUtf8 (fault : Utf8.Fault)
  /-- Any other reason, in words. -/
  | other (message : String)
  deriving DecidableEq, Repr

/-- A byte as a message shows it: ASCII as itself, any other by its number. -/
def showByte (b : UInt8) : String :=
  if b < 0x80 then String.ofList [Char.ofNat b.toNat] else "\\x" ++ Text.hex b.toNat

/-- Wording of a cause. -/
def CompileCause.message : CompileCause → String
  | .mismatch expected (some found) =>
    let wanted := String.ofList [Char.ofNat expected.toNat]
    s!"expected \"{wanted}\" character, but \"{showByte found}\" appears"
  | .mismatch expected none =>
    let wanted := String.ofList [Char.ofNat expected.toNat]
    s!"expected \"{wanted}\" character, but the expression ended"
  | .unexpected (some found) => s!"unexpected character \"{showByte found}\""
  | .unexpected none => "unexpected end of expression"
  | .notUtf8 fault => s!"argument is not UTF-8: {fault.message}"
  | .other message => message

/-- A compile error.  `column` is the distance of the place from the start of `parsing`, the narrow
excerpt; `context` is the wide one. -/
structure CompileError where
  operation : String
  cause : CompileCause
  offset : Nat
  column : Nat
  parsing : String
  context : String
  deriving DecidableEq, Repr

/-- Wording of a compile error. -/
def CompileError.message (e : CompileError) : String :=
  s!"{e.operation}: {e.cause.message}, error found in #{e.column} byte of ...|{e.parsing}|..., " ++
    s!"bigger context ...|{e.context}|..."

end DocQuery
