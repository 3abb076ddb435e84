import ZWaveGateway.Command.Value
import ZWaveGateway.Number.Binary64
import ZWaveGateway.Text.Blank

/-!
# Setpoints

A setpoint is a decimal fraction: a signed value of up to four bytes and the number of its digits
that stand behind the point. It is read from the way it was written: `21.5` keeps one digit behind
the point, `21.50` keeps two, and no more than seven are kept.
-/

namespace ZWaveGateway

-- Powers of numbers are the built-in ones, whatever is imported.
attribute [local instance (high)] instPowNat

/-- A decimal fraction as devices are sent it. -/
structure Setpoint where
  value : Int
  precision : Nat
  holds : Width.four.Holds value
  precision_le : precision ≤ 7
  deriving DecidableEq

namespace Setpoint

/-- The most digits behind the point. -/
def maxPrecision : Nat := 7

/-- The exponent as far as it counts for the precision: one that needs more than 32 bits counts as
none. -/
def countedExponent (literal : Decimal) : Int :=
  if -(2 : Int) ^ (31 : Nat) ≤ literal.exponent ∧ literal.exponent < (2 : Int) ^ (31 : Nat) then
    literal.exponent
  else 0

/-- How many digits the literal has behind its point, as far as they count: no more than a signed
number of 32 bits can hold. -/
def countedFraction (literal : Decimal) : Nat :=
  min literal.fraction.length ((2 : Nat) ^ (31 : Nat) - 1)

/-- The digits behind the point that a literal is written with, up to the most that are kept. -/
def precisionOf (literal : Decimal) : Nat :=
  min ((countedFraction literal : Int) - countedExponent literal).toNat maxPrecision

/-- The literal's binary neighbour times the power of ten of its precision, rounded to a whole
number, a half going away from zero. -/
def scaledValue (literal : Decimal) (neighbour : Binary64.Magnitude) : Int :=
  let size := (neighbour.times (10 ^ precisionOf literal)).round
  if literal.negative then -size else size

/-- Read a setpoint, naming the field it was given in when it cannot be one. -/
def read (field text : String) : Except RequestError Setpoint :=
  match Decimal.read? (Text.trimChars text.toList) with
  | none => .error (.invalidParameter field .notNumber)
  | some .undefined | some .infinite => .error (.invalidParameter field .notFinite)
  | some (.finite literal) =>
      match Binary64.ofDecimal literal with
      | none => .error (.invalidParameter field .notFinite)
      | some neighbour =>
          if holds : Width.four.Holds (scaledValue literal neighbour) then
            .ok ⟨scaledValue literal neighbour, precisionOf literal, holds, Nat.min_le_right _ _⟩
          else .error (.invalidParameter field .tooLarge)

/-- The smallest width that holds the value. -/
def width (setpoint : Setpoint) : Width :=
  Width.smallest setpoint.value

/-- The value as devices are sent it. -/
def valueBytes (setpoint : Setpoint) : List UInt8 :=
  BigEndian.ofInt setpoint.width.bytes setpoint.value

end Setpoint

end ZWaveGateway
