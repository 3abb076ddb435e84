import ZWaveGateway.Transaction.Key
import ZWaveGateway.Transaction.Outcome

/-!
# Events

What the gateway tells its listeners: that a transaction has ended, or that the controller has said
something nobody was waiting for.
-/

namespace ZWaveGateway

/-- One piece of news. -/
inductive Event where
  /-- The controller has listed its network. -/
  | networkReady
  /-- The controller lists the node as failed. -/
  | nodeFailed (node : NodeId)
  /-- A report of a command class that nobody asked for. -/
  | report (node : NodeId) (commandClass command : UInt8) (data : List UInt8)
  /-- News about a node, with the controller's own status byte. -/
  | nodeUpdate (node : Option NodeId) (status : UInt8)
  | completed (id : TransactionId) (key : Key) (outcome : Outcome)
  | timedOut (id : TransactionId) (key : Key)
  /-- A frame without a meaning to the gateway. -/
  | unhandled (frame : Frame)
  deriving DecidableEq

namespace Event

/-- The node the event is about, if it names one. -/
def node? : Event → Option NodeId
  | .networkReady => none
  | .nodeFailed node => some node
  | .report node _ _ _ => some node
  | .nodeUpdate node _ => node
  | .completed _ key _ => key.node
  | .timedOut _ key => key.node
  | .unhandled frame => frame.node

/-- The transaction the event reports the end of. -/
def ended? : Event → Option TransactionId
  | .completed id _ _ => some id
  | .timedOut id _ => some id
  | _ => none

/-- The report inside an application command that names its node, if the payload holds all the
bytes it counts and these include command class and command. -/
def reportOf? (frame : Frame) : Option Event :=
  match frame.node, frame.payload with
  | some node, _ :: _ :: count :: commandClass :: command :: rest =>
      if 2 ≤ count.toNat ∧ count.toNat + 3 ≤ frame.payload.length then
        some (.report node commandClass command (rest.take (count.toNat - 2)))
      else none
  | _, _ => none

/-- The news in a frame that answers no transaction. -/
def ofFrame (frame : Frame) : Event :=
  match frame.messageClass, frame.frameType with
  | .applicationCommand, .request => (reportOf? frame).getD (.unhandled frame)
  | .initData, .response => .networkReady
  | .applicationUpdate, _ =>
      match frame.payload with
      | status :: _ => .nodeUpdate frame.node status
      | [] => .unhandled frame
  | _, _ => .unhandled frame

end Event

end ZWaveGateway
