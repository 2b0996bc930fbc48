/-! Binary floating-point grids in exact arithmetic.  A grid holds the numbers `m * 2 ^ e` with `m`
below `2 ^ precision` and `e` at least `minExponent`.  `nearest` rounds a quotient to the grid,
ties to an even `m`; `shortest` finds the decimal number with the fewest digits that rounds back
to a grid point, and of those the nearest. -/

namespace DocQuery

/-- A binary floating-point format. -/
structure Grid where
  precision : Nat
  minExponent : Int
  maxExponent : Int

/-- A number `mantissa * 2 ^ exponent`. -/
structure Scaled where
  mantissa : Nat
  exponent : Int
  deriving DecidableEq, Repr

/-- A decimal number `digits * 10 ^ exponent`. -/
structure Decimal where
  digits : Nat
  exponent : Int
  deriving DecidableEq, Repr

/-- The same number without zeros at the end of its digits; `fuel` bounds their count. -/
def Decimal.stripZeros (d : Decimal) : (fuel : Nat) → Decimal
  | 0 => d
  | fuel + 1 =>
    if d.digits % 10 = 0 then Decimal.stripZeros ⟨d.digits / 10, d.exponent + 1⟩ fuel else d

namespace Grid

/-- A quotient divided by `2 ^ e`. -/
def scaleDown (num den : Nat) (e : Int) : Nat × Nat :=
  if 0 ≤ e then (num, den * Nat.pow 2 e.toNat) else (num * Nat.pow 2 (-e).toNat, den)

/-- The integer nearest to a quotient; a half goes to the even neighbour. -/
def roundHalfEven (num den : Nat) : Nat :=
  let q := num / den
  let r := 2 * (num % den)
  if r < den then q else if den < r then q + 1 else q + q % 2

/-- Least exponent of the grid at which the quotient has at most `precision` binary digits. -/
def exponentFor (g : Grid) (num den : Nat) : Int :=
  let e := (num.log2 : Int) - den.log2 - g.precision
  let (n, d) := scaleDown num den e
  max (if n / d < Nat.pow 2 g.precision then e else e + 1) g.minExponent

/-- The point of the grid nearest to a positive quotient, or nothing beyond the largest one. -/
def nearest (g : Grid) (num den : Nat) : Option Scaled :=
  let e := g.exponentFor num den
  let (n, d) := scaleDown num den e
  let m := roundHalfEven n d
  let result : Scaled :=
    if m = Nat.pow 2 g.precision then ⟨Nat.pow 2 (g.precision - 1), e + 1⟩ else ⟨m, e⟩
  if g.maxExponent < result.exponent then none else some result

/-- Power of ten just above a positive quotient: `10 ^ (k - 1) ≤ num / den < 10 ^ k`. -/
def decimalPlace (num den : Nat) : Int :=
  if den ≤ num then ((num / den).repr.length : Int)
  else
    let zeros := (List.range (den.log2 + 2)).find? fun j => den ≤ num * Nat.pow 10 j
    1 - (zeros.getD 0 : Int)

/-- A quotient divided by `10 ^ k`. -/
def scaleDecimal (num den : Nat) (k : Int) : Nat × Nat :=
  if 0 ≤ k then (num, den * Nat.pow 10 k.toNat) else (num * Nat.pow 10 (-k).toNat, den)

/-- The decimal number of `n` digits nearest to the grid point among those that round to it. -/
def withDigits (g : Grid) (v : Scaled) (place : Int) (n : Nat) : Option Decimal :=
  let atEdge := v.mantissa = Nat.pow 2 (g.precision - 1) ∧ g.minExponent < v.exponent
  let low := 4 * v.mantissa - (if atEdge then 1 else 2)
  let high := 4 * v.mantissa + 2
  let k := place - n
  -- the grid of n digits in units of a quarter of the last binary place
  let (unitNum, unitDen) := scaleDown 1 1 (2 - v.exponent)
  let (num, den) := scaleDecimal unitNum unitDen k
  let floor := 4 * v.mantissa * num / den
  let within (d : Nat) : Bool :=
    if v.mantissa % 2 = 0 then low * num ≤ d * den && d * den ≤ high * num
    else low * num < d * den && d * den < high * num
  let below := within floor
  let above := within (floor + 1)
  let rest := 4 * v.mantissa * num - floor * den
  if below && above then
    let up := if 2 * rest = den then floor % 2 == 1 else den < 2 * rest
    some ⟨if up then floor + 1 else floor, k⟩
  else if below then some ⟨floor, k⟩
  else if above then some ⟨floor + 1, k⟩
  else none

/-- The decimal number with the fewest digits that rounds back to a positive grid point. -/
def shortest (g : Grid) (v : Scaled) : Decimal :=
  let (num, den) := scaleDown v.mantissa 1 (-v.exponent)
  let place := decimalPlace num den
  let found := (List.range' 1 (g.precision / 3 + 1)).findSome? (g.withDigits v place)
  (found.getD ⟨v.mantissa, 0⟩).stripZeros g.precision

end Grid

end DocQuery
