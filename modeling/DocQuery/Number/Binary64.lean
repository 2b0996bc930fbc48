import DocQuery.Number.Grid
/-! Double-precision numbers, held as their 64 bits and computed with in exact arithmetic: reading a
decimal text, products and quotients, and the decimal form with the fewest digits. -/

namespace DocQuery

/-- An IEEE 754 double. -/
structure Binary64 where
  bits : UInt64
  deriving DecidableEq, Repr, Inhabited

namespace Binary64

/-- The finite doubles. -/
def grid : Grid := ⟨53, -1074, 971⟩

/-- The leading bit of a normal mantissa, which is not stored. -/
def hiddenBit : Nat := 0x10000000000000

/-- The bit that tells the sign. -/
def signBit : Nat := 0x8000000000000000

/-- Zero with a sign. -/
def zero (negative : Bool) : Binary64 := ⟨if negative then 0x8000000000000000 else 0⟩

/-- Infinity with a sign. -/
def infinity (negative : Bool) : Binary64 :=
  ⟨if negative then 0xfff0000000000000 else 0x7ff0000000000000⟩

/-- The quiet not-a-number. -/
def nan : Binary64 := ⟨0x7ff8000000000000⟩

/-- A grid point with a sign.  Below the first normal number the exponent field is zero, and a
normal mantissa carries its leading bit into the field. -/
def ofScaled (negative : Bool) (v : Scaled) : Binary64 :=
  let magnitude := (v.exponent + 1074).toNat * hiddenBit + v.mantissa
  ⟨UInt64.ofNat (magnitude + if negative then signBit else 0)⟩

/-- The double nearest to a quotient. -/
def ofRatio (negative : Bool) (num den : Nat) : Binary64 :=
  if num = 0 then zero negative
  else match grid.nearest num den with
    | some v => ofScaled negative v
    | none => infinity negative

/-- The double nearest to `digits * 10 ^ exponent`.  Far outside the range of doubles the power is
not computed. -/
def ofDecimal (negative : Bool) (digits : Nat) (exponent : Int) : Binary64 :=
  let place := exponent + digits.repr.length
  if digits = 0 ∨ place < -400 then zero negative
  else if 400 < place then infinity negative
  else if 0 ≤ exponent then ofRatio negative (digits * Nat.pow 10 exponent.toNat) 1
  else ofRatio negative digits (Nat.pow 10 (-exponent).toNat)

/-- Sign bit. -/
def isNegative (x : Binary64) : Bool := signBit ≤ x.bits.toNat

/-- Exponent field. -/
def field (x : Binary64) : Nat := x.bits.toNat / hiddenBit % 2048

/-- Fraction bits. -/
def fraction (x : Binary64) : Nat := x.bits.toNat % hiddenBit

def isFinite (x : Binary64) : Bool := x.field != 2047

def isNaN (x : Binary64) : Bool := x.field == 2047 && x.fraction != 0

/-- Magnitude of a finite double. -/
def scaled (x : Binary64) : Scaled :=
  if x.field = 0 then ⟨x.fraction, -1074⟩ else ⟨hiddenBit + x.fraction, (x.field : Int) - 1075⟩

/-- Magnitude of a finite double as a quotient. -/
def ratio (x : Binary64) : Nat × Nat :=
  Grid.scaleDown x.scaled.mantissa 1 (-x.scaled.exponent)

def isZero (x : Binary64) : Bool := x.bits.toNat % signBit == 0

/-- Sum of doubles that are not negative. -/
def add (x y : Binary64) : Binary64 :=
  if !x.isFinite then x
  else if !y.isFinite then y
  else ofRatio false (x.ratio.1 * y.ratio.2 + y.ratio.1 * x.ratio.2) (x.ratio.2 * y.ratio.2)

/-- Product.  That of zero and infinity is no number. -/
def mul (x y : Binary64) : Binary64 :=
  let negative := x.isNegative != y.isNegative
  if x.isFinite && y.isFinite then
    ofRatio negative (x.ratio.1 * y.ratio.1) (x.ratio.2 * y.ratio.2)
  else if x.isNaN || y.isNaN || x.isZero || y.isZero then nan
  else infinity negative

/-- Quotient of finite doubles with a divisor that is not zero. -/
def div (x y : Binary64) : Binary64 :=
  ofRatio (x.isNegative != y.isNegative) (x.ratio.1 * y.ratio.2) (x.ratio.2 * y.ratio.1)

/-- The opposite. -/
def neg (x : Binary64) : Binary64 :=
  ⟨x.bits ^^^ 0x8000000000000000⟩

/-- The integer that a finite double is, if it is one. -/
def toInt? (x : Binary64) : Option Int :=
  let (num, den) := x.ratio
  if x.isFinite && num % den == 0 then
    some (if x.isNegative then -(num / den : Nat) else (num / den : Nat))
  else none

/-- Decimal form of the magnitude of a finite double that is not zero. -/
def shortest (x : Binary64) : Decimal :=
  grid.shortest x.scaled

end Binary64

end DocQuery
