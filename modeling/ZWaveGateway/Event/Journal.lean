import ZWaveGateway.Capability.CommandClass
import ZWaveGateway.Event.Basic
import ZWaveGateway.Log
import ZWaveGateway.Text.Quoted
import ZWaveGateway.Text.Record

/-!
# Events in the log

A listener that keeps a journal writes one line for every event. Failures are warnings, answers and
the ready network are for information, and what nobody asked for is for debugging only.
-/

namespace ZWaveGateway

/-- An answer as the journal shows it, with its parts named. -/
def Answer.detail : Answer → String
  | .controllerVersion info =>
      "ControllerVersion(" ++ Text.record "ControllerInfo"
        [("version", Text.Quoted.encode info.version), ("library", info.library.name)] ++ ")"
  | .nodeFailed failed => "NodeFailed(" ++ toString failed ++ ")"
  | .level value => "Level(" ++ toString value.toNat ++ ")"
  | .nodeVersion library protocol application =>
      Text.record "NodeVersion"
        [("library", library.name), ("protocol", Text.pair protocol),
          ("application", Text.pair application)]
  | .transmitted => "Transmitted"

namespace Event

/-- A command class by name, or by number if it has none here. -/
def classText (code : UInt8) : String :=
  match CommandClass.ofCode? code with
  | some commandClass => commandClass.name
  | none => "class 0x" ++ Text.Hexadecimal.byte code

/-- A node that may be missing. -/
def nodeText : Option NodeId → String
  | some node => "Some(NodeId(" ++ node.text ++ "))"
  | none => "None"

/-- The line that the journal has for an event. -/
def journalLine : Event → LogLine
  | .networkReady => ⟨.info, "Z-Wave network initialised"⟩
  | .nodeFailed node => ⟨.warn, "Node " ++ node.text ++ " marked failed"⟩
  | .completed id key outcome =>
      let subject := "Transaction " ++ id.text ++ " (" ++ key.text ++ ")"
      match outcome, outcome.failure? with
      | .answered answer, _ => ⟨.info, subject ++ " completed: " ++ answer.detail⟩
      | _, failure => ⟨.warn, subject ++ " failed: " ++ failure.getD ""⟩
  | .timedOut id key => ⟨.warn, "Transaction " ++ id.text ++ " (" ++ key.text ++ ") timed out"⟩
  | .report node commandClass command data =>
      ⟨.debug, "Report from node " ++ node.text ++ ": " ++ classText commandClass ++ " cmd 0x" ++
        Text.Hexadecimal.byte command ++ " " ++ Text.Hexadecimal.bytes data⟩
  | .nodeUpdate node status =>
      ⟨.debug, "Node update for " ++ nodeText node ++ ": status 0x" ++
        Text.Hexadecimal.byte status⟩
  | .unhandled frame =>
      ⟨.debug, "Unhandled " ++ frame.messageClass.name ++ " " ++ frame.frameType.name ++ " frame"⟩

end Event

end ZWaveGateway
