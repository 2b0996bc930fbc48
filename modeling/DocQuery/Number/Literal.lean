import DocQuery.Number.Binary64
/-! Number literals in text: an optional sign, digits with at most one point and at least one digit,
and an optional exponent; or a spelling of infinity or of not-a-number in any case. -/

namespace DocQuery

/-- Why a text is not a number. -/
inductive LiteralError where
  | empty
  | invalid
  deriving DecidableEq, Repr

/-- Wording of the error. -/
def LiteralError.message : LiteralError → String
  | .empty => "cannot parse float from empty string"
  | .invalid => "invalid float literal"

namespace Binary64

/-- Value of decimal digits. -/
def digitsValue (digits : List Char) : Nat :=
  digits.foldl (fun n c => 10 * n + (c.toNat - 48)) 0

/-- Splits off a sign. -/
def splitSign : List Char → Bool × List Char
  | '-' :: rest => (true, rest)
  | '+' :: rest => (false, rest)
  | rest => (false, rest)

/-- Reads what follows the mantissa: nothing, or an exponent. -/
def readExponent : List Char → Option Int
  | [] => some 0
  | c :: rest =>
    if c = 'e' ∨ c = 'E' then
      let (negative, digits) := splitSign rest
      if digits.isEmpty ∨ digits.any (!·.isDigit) then none
      else
        let n := digitsValue digits
        some (if negative then -n else n)
    else none

/-- Reads digits, a point and an exponent. -/
def readDecimal (negative : Bool) (text : List Char) : Option Binary64 :=
  let (whole, rest) := text.span Char.isDigit
  let (fraction, rest) :=
    match rest with
    | '.' :: rest => rest.span Char.isDigit
    | rest => ([], rest)
  if whole.isEmpty ∧ fraction.isEmpty then none
  else (readExponent rest).map fun exponent =>
    ofDecimal negative (digitsValue (whole ++ fraction)) (exponent - fraction.length)

/-- Reads a number literal. -/
def ofText (text : String) : Except LiteralError Binary64 :=
  if text.isEmpty then .error .empty
  else
    let (negative, rest) := splitSign text.toList
    let word := String.ofList (rest.map Char.toLower)
    if word = "inf" ∨ word = "infinity" then .ok (infinity negative)
    else if word = "nan" then .ok ⟨if negative then 0xfff8000000000000 else nan.bits⟩
    else match readDecimal negative rest with
      | some x => .ok x
      | none => .error .invalid

end Binary64

end DocQuery
