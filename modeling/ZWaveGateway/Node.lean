/-!
# Node ids

Every device on a Z-Wave network has an id of one byte. A network assigns the ids from 1 to 232;
the remaining bytes can be written down, and arrive in frames, but name no device.
-/

namespace ZWaveGateway

/-- A node as named in one byte. -/
structure NodeId where
  number : UInt8
  deriving DecidableEq, Repr

namespace NodeId

/-- The largest id a network assigns. -/
def greatest : UInt8 := 232

/-- The ids a network assigns. -/
def Assignable (node : NodeId) : Prop :=
  1 ≤ node.number ∧ node.number ≤ greatest

instance (node : NodeId) : Decidable node.Assignable :=
  inferInstanceAs (Decidable (_ ∧ _))

/-- The id as it is printed. -/
def text (node : NodeId) : String :=
  toString node.number.toNat

end NodeId

end ZWaveGateway
