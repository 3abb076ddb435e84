/-!
# Hexadecimal text

In messages a byte is shown with two upper-case digits, and a code point with as few lower-case
digits as its value needs. A dump is a run of bytes with two lower-case digits each.
-/

namespace ZWaveGateway.Text.Hexadecimal

/-- Two upper-case digits. -/
def byte (value : UInt8) : String :=
  let digit (n : Nat) : Char := (Nat.digitChar n).toUpper
  String.ofList [digit (value.toNat / 16), digit (value.toNat % 16)]

/-- Lower-case digits without leading zeros. -/
def codePoint (value : Nat) : String :=
  String.ofList (Nat.toDigits 16 value)

/-- Bytes in brackets, separated by commas. -/
def bytes (values : List UInt8) : String :=
  "[" ++ ", ".intercalate (values.map byte) ++ "]"

/-- Bytes as lower-case digits, two for each. -/
def dump (values : List UInt8) : String :=
  String.join (values.map fun value => (byte value).toLower)

/-- The value of a lower-case digit. -/
def digit? (c : Char) : Option UInt8 :=
  if '0' ≤ c ∧ c ≤ '9' then some (UInt8.ofNat (c.toNat - 48))
  else if 'a' ≤ c ∧ c ≤ 'f' then some (UInt8.ofNat (c.toNat - 87))
  else none

/-- The bytes that lower-case digits stand for, two for each. -/
def undump? : List Char → Option (List UInt8)
  | [] => some []
  | [_] => none
  | high :: low :: rest => do
      let value := (← digit? high) * 16 + (← digit? low)
      return value :: (← undump? rest)

example : byte 0x0A = "0A" ∧ byte 0xFF = "FF" ∧ codePoint 0x200B = "200b" := by decide +kernel

end ZWaveGateway.Text.Hexadecimal
