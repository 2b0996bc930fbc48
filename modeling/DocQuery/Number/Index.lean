/-! Indices in text: an optional plus sign and decimal digits, of a value below `2 ^ 64`. -/

namespace DocQuery

/-- Why a text is not an index. -/
inductive IndexError where
  | empty
  | invalidDigit
  | tooLarge
  deriving DecidableEq, Repr

/-- Wording of the error. -/
def IndexError.message : IndexError → String
  | .empty => "cannot parse integer from empty string"
  | .invalidDigit => "invalid digit found in string"
  | .tooLarge => "number too large to fit in target type"

/-- Adds digits to a value; the first character that does not fit tells the error. -/
def addDigits (value : Nat) : List Char → Except IndexError Nat
  | [] => .ok value
  | c :: cs =>
    if !c.isDigit then .error .invalidDigit
    else
      let next := 10 * value + (c.toNat - 48)
      if next < 0x10000000000000000 then addDigits next cs else .error .tooLarge

/-- Reads an index. -/
def readIndex (text : List Char) : Except IndexError Nat :=
  match text with
  | [] => .error .empty
  | ['+'] => .error .invalidDigit
  | '+' :: digits => addDigits 0 digits
  | digits => addDigits 0 digits

end DocQuery
