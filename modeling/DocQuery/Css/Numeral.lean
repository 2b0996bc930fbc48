import DocQuery.Number.Binary64
/-! Numbers in style sheets.  A numeral keeps whether a sign was written, its value in single
precision as the shortest decimal that denotes it, and the integer that it is, if it was written
as one; integers stop at the bounds of 32 bits.  The value is computed digit by digit in double
precision, so that it may differ in its last place from the number that the digits denote. -/

namespace DocQuery.Css

/-- Magnitude of a number in single precision. -/
inductive Magnitude where
  | finite (decimal : Decimal)
  | infinite
  /-- Zero times infinity. -/
  | undefined
  deriving DecidableEq, Repr

namespace Magnitude

/-- Finite numbers in single precision. -/
def grid : Grid := ⟨24, -149, 104⟩

/-- Zero. -/
def zero : Magnitude := .finite ⟨0, 0⟩

/-- The number nearest to a double that is not negative. -/
def ofDouble (x : Binary64) : Magnitude :=
  if x.isNaN then .undefined
  else if !x.isFinite then .infinite
  else if x.isZero then zero
  else match grid.nearest x.ratio.1 x.ratio.2 with
    | none => .infinite
    | some ⟨0, _⟩ => zero
    | some v => .finite (grid.shortest v)

/-- Digits with a point put before the last `places` of them. -/
def withPoint (digits : Nat) (places : Nat) : String :=
  let ds := digits.repr.toList
  let ds := List.replicate (places + 1 - ds.length) '0' ++ ds
  let (whole, fraction) := ds.splitAt (ds.length - places)
  String.ofList whole ++ "." ++ String.ofList fraction

/-- All digits, with a point only if there is a fraction. -/
def plain : Magnitude → String
  | infinite => "inf"
  | undefined => "NaN"
  | finite d =>
    if 0 ≤ d.exponent then (d.digits * Nat.pow 10 d.exponent.toNat).repr
    else withPoint d.digits (-d.exponent).toNat

/-- Digits with a point always, and with an exponent below a ten-thousandth and from ten to the
sixteenth on. -/
def shown : Magnitude → String
  | infinite => "inf"
  | undefined => "NaN"
  | finite d =>
    let count := d.digits.repr.length
    let place := d.exponent + count - 1
    if d.digits ≠ 0 ∧ (place < -4 ∨ 16 ≤ place) then
      (if count = 1 then d.digits.repr else withPoint d.digits (count - 1)) ++ "e" ++
        toString place
    else if 0 ≤ d.exponent then plain (.finite d) ++ ".0"
    else plain (.finite d)

end Magnitude

/-- A number as it was written. -/
structure Numeral where
  signed : Bool
  negative : Bool
  magnitude : Magnitude
  integer : Option Int
  deriving DecidableEq, Repr

namespace Numeral

/-- Greatest integer of 32 bits. -/
def maxInteger : Int := 2147483647

/-- Least integer of 32 bits. -/
def minInteger : Int := -2147483648

/-- The nearest integer of 32 bits. -/
def clampInteger (n : Int) : Int := max minInteger (min n maxInteger)

/-- The double of a small number. -/
def double (n : Nat) : Binary64 := .ofRatio false n 1

/-- The double of a digit. -/
def digit (c : Char) : Binary64 := double (c.toNat - 48)

/-- The double of an integral part: ten times what is read so far and the next digit. -/
def integralPart (digits : List Char) : Binary64 :=
  digits.foldl (fun x c => (x.mul (double 10)).add (digit c)) (double 0)

/-- The double of the digits after a point: each is taken times a power of a tenth. -/
def fractionalPart (digits : List Char) : Binary64 :=
  let tenth : Binary64 := .ofRatio false 1 10
  (digits.foldl (fun (x, unit) c => (x.add ((digit c).mul unit), unit.mul tenth))
    (double 0, tenth)).1

/-- The number of a sign, an integral part, the digits after a point and an exponent; `hundredth`
tells whether a percent sign follows. -/
def ofDigits (sign : Option Char) (integral fraction : List Char) (exponent : Option Int)
    (hundredth : Bool) : Numeral :=
  let negative := sign == some '-'
  let written := (integralPart integral).add (fractionalPart fraction)
  let scaled := match exponent with
    | some e => written.mul (.ofDecimal false 1 e)
    | none => written
  let whole : Nat := integral.foldl (fun n c => 10 * n + (c.toNat - 48)) 0
  { signed := sign.isSome
    negative
    magnitude :=
      .ofDouble (if hundredth && scaled.isFinite then scaled.div (double 100) else scaled)
    integer :=
      if fraction.isEmpty && exponent.isNone then
        some (clampInteger (if negative then -whole else whole))
      else none }

/-- The sign of the value as it is shown. -/
def minus (n : Numeral) : String :=
  if n.negative && n.magnitude != .undefined then "-" else ""

/-- The value in single precision, with all its digits. -/
def value (n : Numeral) : String := n.minus ++ n.magnitude.plain

/-- The value as descriptions show it. -/
def shown (n : Numeral) : String := n.minus ++ n.magnitude.shown

/-- The value with the sign that was written.  A sign before a number that is not positive is a
hyphen before its own. -/
def source (n : Numeral) : String :=
  if !n.signed then n.value
  else if !n.negative && n.magnitude != .zero && n.magnitude != .undefined then "+" ++ n.value
  else "-" ++ n.value

end Numeral

end DocQuery.Css
