/-!
# Code tables

A vocabulary of the protocol is a list of values, each written as one byte. Reading a byte looks it
up in the list. Main statement: where every value is found under its own byte, a byte reads as a
value exactly when the value is written with it.
-/

namespace ZWaveGateway.CodeTable

variable {α : Type}

/-- The first value of a list that is written with a byte. -/
def read? (all : List α) (code : α → UInt8) (byte : UInt8) : Option α :=
  all.find? fun value => code value == byte

/-- A byte reads as the values written with it, and as nothing else. -/
theorem read?_eq_some_iff {all : List α} {code : α → UInt8}
    (listed : ∀ value, read? all code (code value) = some value) {byte : UInt8} {value : α} :
    read? all code byte = some value ↔ code value = byte := by
  constructor
  · intro found
    simpa using List.find?_some found
  · rintro rfl
    exact listed value

/-- A byte is read exactly when it is among those that the values are written with. -/
theorem isSome_read?_iff {all : List α} {code : α → UInt8} {byte : UInt8} :
    (read? all code byte).isSome = true ↔ byte.toNat ∈ all.map fun value => (code value).toNat := by
  simp only [read?, List.find?_isSome, beq_iff_eq, List.mem_map, UInt8.toNat_inj]

end ZWaveGateway.CodeTable
