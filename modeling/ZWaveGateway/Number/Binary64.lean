import ZWaveGateway.Number.Decimal

/-!
# Binary numbers of 53 significant bits

Magnitudes in binary64 as a significand and a power of two. A rational number becomes the nearest
of them, a tie the one whose significand is even. Signs are kept by the callers: rounding treats
both signs alike.
-/

namespace ZWaveGateway.Binary64

-- Powers of numbers are the built-in ones, whatever is imported.
attribute [local instance (high)] instPowNat

/-- The value `significand` times two to the `exponent`. -/
structure Magnitude where
  significand : Nat
  exponent : Int
  deriving DecidableEq

/-- The power of two of the last bit of the smallest positive number. -/
def leastExponent : Int := -1074

/-- The quotient rounded to the nearest whole number, a tie to the even one. -/
def divideEven (numerator denominator : Nat) : Nat :=
  let quotient := numerator / denominator
  let twice := 2 * (numerator % denominator)
  if twice < denominator then quotient
  else if denominator < twice then quotient + 1
  else quotient + quotient % 2

/-- The position of the leading bit of a positive quotient. -/
def leadingBit (numerator denominator : Nat) : Int :=
  let guess : Int := (numerator.log2 : Int) - denominator.log2
  if denominator * 2 ^ guess.toNat ≤ numerator * 2 ^ (-guess).toNat then guess else guess - 1

/-- The number nearest to a quotient. -/
def nearest (numerator denominator : Nat) : Magnitude :=
  if numerator = 0 then ⟨0, 0⟩
  else
    let exponent := max (leadingBit numerator denominator - 52) leastExponent
    ⟨divideEven (numerator * 2 ^ (-exponent).toNat) (denominator * 2 ^ exponent.toNat), exponent⟩

/-- The decimal orders between which a literal can be neither infinite nor zero. -/
def decimalOrders : Int × Int := (-324, 309)

/-- The number nearest to `digits` times ten to the `scale`. Outside the decimal orders of the
format nothing is computed: the value is far below the smallest number, or far above the largest. -/
def ofScaled (digits : Nat) (scale : Int) : Option Magnitude :=
  let order := (Nat.toDigits 10 digits).length + scale
  if digits = 0 ∨ order < decimalOrders.1 then some ⟨0, 0⟩
  else if decimalOrders.2 < order then none
  else
    let value := nearest (digits * 10 ^ scale.toNat) (10 ^ (-scale).toNat)
    if value.significand * 2 ^ value.exponent.toNat < 2 ^ (1024 : Nat) then some value else none

/-- The number nearest to a decimal literal's magnitude, if that is finite. -/
def ofDecimal (literal : Decimal) : Option Magnitude :=
  ofScaled literal.digits literal.scale

namespace Magnitude

/-- The number nearest to the product with a whole factor. Its exponent may exceed the format's
range: a product too large is still larger than every smaller bound. -/
def times (value : Magnitude) (factor : Nat) : Magnitude :=
  nearest (value.significand * factor * 2 ^ value.exponent.toNat) (2 ^ (-value.exponent).toNat)

/-- The nearest whole number, a half going up. -/
def round (value : Magnitude) : Nat :=
  let denominator := 2 ^ (-value.exponent).toNat
  (2 * value.significand * 2 ^ value.exponent.toNat + denominator) / (2 * denominator)

end Magnitude

/-- One tenth is not a binary number: its neighbour has this significand. -/
example : nearest 1 10 = ⟨7205759403792794, -56⟩ := by decide +kernel

/-- Numbers up to the 53rd power of two are themselves. -/
example : nearest (2 ^ 53 - 1) 1 = ⟨2 ^ 53 - 1, 0⟩ := by decide +kernel

end ZWaveGateway.Binary64
