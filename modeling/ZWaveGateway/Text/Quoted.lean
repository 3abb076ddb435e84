import ZWaveGateway.Text.Hexadecimal
import ZWaveGateway.Text.Unprintable

/-!
# Quoted text

A text between double quotes, in which the quote and the backslash are escaped, line breaks, tabs
and NUL have short names, and every other character that would not show is written by its code
point in braces. All other characters stand for themselves.
-/

namespace ZWaveGateway.Text.Quoted

/-- One character between the quotes. -/
def escape (c : Char) : String :=
  if c = '"' then "\\\""
  else if c = '\\' then "\\\\"
  else if c = '\n' then "\\n"
  else if c = '\r' then "\\r"
  else if c = '\t' then "\\t"
  else if c.toNat = 0 then "\\0"
  else if c.toNat < 0x20 ∨ c.toNat = 0x7F ∨ (0x80 ≤ c.toNat ∧ isUnprintable c) then
    "\\u\x7b" ++ Hexadecimal.codePoint c.toNat ++ "\x7d"
  else c.toString

/-- The text between its quotes. -/
def encode (text : String) : String :=
  "\"" ++ String.join (text.toList.map escape) ++ "\""

end ZWaveGateway.Text.Quoted
