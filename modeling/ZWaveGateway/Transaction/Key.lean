import ZWaveGateway.Serial.Frame

/-!
# Ids and correlation keys

Every transaction has an id of its own and a key: the node it concerns, if any, and the message
class of the frame that will answer it. At most one transaction per key is in flight.
-/

namespace ZWaveGateway

/-- The number of a transaction, counted from one in the order of submission. -/
structure TransactionId where
  number : Nat
  deriving DecidableEq, Repr

/-- The id as it is printed. -/
def TransactionId.text (id : TransactionId) : String :=
  "#" ++ toString id.number

/-- What ties a transaction to the frame that answers it. -/
structure Key where
  node : Option NodeId
  messageClass : MessageClass
  deriving DecidableEq, Repr

namespace Key

/-- The key a frame bears. -/
def ofFrame (frame : Frame) : Key :=
  ⟨frame.node, frame.messageClass⟩

/-- The key as it is printed. -/
def text (key : Key) : String :=
  match key.node with
  | some node => "node " ++ node.text ++ " / " ++ key.messageClass.name
  | none => "controller / " ++ key.messageClass.name

end Key

end ZWaveGateway
