import ZWaveGateway.Text.Numeral

/-!
# Decimal literals

A literal is an optional sign, digits with at most one point among them, and an optional exponent
after the letter e. At least one digit stands before the exponent, and an exponent has at least one
digit. Infinity and the value that is not a number have words of their own, in either case.
-/

namespace ZWaveGateway

/-- The parts of a decimal literal: `whole.fraction` times ten to the `exponent`. -/
structure Decimal where
  negative : Bool
  whole : List Nat
  fraction : List Nat
  exponent : Int
  deriving DecidableEq

namespace Decimal

/-- What a text that names a number can say. -/
inductive Reading where
  | finite (literal : Decimal)
  | infinite
  | undefined
  deriving DecidableEq

/-- The digits at the front of a text and what follows them. -/
def takeDigits : List Char → List Nat × List Char
  | [] => ([], [])
  | c :: rest =>
      match Text.Numeral.digit? c with
      | some digit => (digit :: (takeDigits rest).1, (takeDigits rest).2)
      | none => ([], c :: rest)

/-- The value of a run of digits. -/
def ofDigits (digits : List Nat) : Nat :=
  digits.foldl (fun value digit => 10 * value + digit) 0

/-- The exponent that ends a literal: none at all, or the letter and a whole number. -/
def exponent? : List Char → Option Int
  | [] => some 0
  | c :: rest => if c = 'e' ∨ c = 'E' then Text.Numeral.integer? rest else none

/-- A literal without its sign. -/
def unsigned? (negative : Bool) (chars : List Char) : Option Decimal := do
  let (whole, rest) := takeDigits chars
  let (fraction, rest) := match rest with
    | '.' :: behind => takeDigits behind
    | rest => ([], rest)
  if whole.isEmpty && fraction.isEmpty then none
  else return ⟨negative, whole, fraction, ← exponent? rest⟩

/-- The words for values that are no finite numbers. -/
def word? (chars : List Char) : Option Reading :=
  match String.ofList (chars.map Char.toLower) with
  | "inf" | "infinity" => some .infinite
  | "nan" => some .undefined
  | _ => none

/-- Read a whole text as a number. -/
def read? (chars : List Char) : Option Reading :=
  let (negative, body) := match chars with
    | '-' :: body => (true, body)
    | '+' :: body => (false, body)
    | body => (false, body)
  match word? body with
  | some reading => some reading
  | none => (unsigned? negative body).map .finite

/-- All digits of the literal read as one whole number. -/
def digits (literal : Decimal) : Nat :=
  ofDigits (literal.whole ++ literal.fraction)

/-- The power of ten that `digits` is to be multiplied with. -/
def scale (literal : Decimal) : Int :=
  literal.exponent - literal.fraction.length

end Decimal

end ZWaveGateway
