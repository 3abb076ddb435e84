/-!
# Records and pairs in text

A record is shown as its name and, between braces, its fields by name; a pair of bytes as its two
numbers between parentheses.
-/

namespace ZWaveGateway.Text

/-- The fields of a record, named, in braces. -/
def record (name : String) (fields : List (String × String)) : String :=
  name ++ " \x7b " ++ ", ".intercalate (fields.map fun (field, value) => field ++ ": " ++ value) ++
    " \x7d"

/-- Two bytes as numbers. -/
def pair (value : UInt8 × UInt8) : String :=
  "(" ++ toString value.1.toNat ++ ", " ++ toString value.2.toNat ++ ")"

example : record "Point" [("at", pair (1, 2))] = "Point \x7b at: (1, 2) \x7d" := by
  decide +kernel

end ZWaveGateway.Text
