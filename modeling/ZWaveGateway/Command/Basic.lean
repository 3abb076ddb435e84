import ZWaveGateway.Capability.CommandClass
import ZWaveGateway.Capability.Thermostat
import ZWaveGateway.Command.Setpoint

/-!
# Commands

A command is one instruction: to the controller itself, or to one capability of one node. Commands
to a capability either ask for its current value or set it. What a command carries has been checked
already, by the types of its values.
-/

namespace ZWaveGateway

/-- The capabilities whose current value can be asked for. -/
inductive QueryTarget where
  | basic
  | binarySwitch
  | multilevelSwitch
  | version
  deriving DecidableEq, Repr

namespace QueryTarget

/-- Every capability that can be asked for. -/
def all : List QueryTarget := [.basic, .binarySwitch, .multilevelSwitch, .version]

/-- The name it is printed with. -/
def name : QueryTarget → String
  | .basic => "Basic"
  | .binarySwitch => "BinarySwitch"
  | .multilevelSwitch => "MultilevelSwitch"
  | .version => "Version"

/-- The command class that is asked. -/
def commandClass : QueryTarget → CommandClass
  | .basic => .basic
  | .binarySwitch => .switchBinary
  | .multilevelSwitch => .switchMultilevel
  | .version => .version

/-- The command that asks and the command that reports: those of the class, if it lists any. -/
def commands (target : QueryTarget) : UInt8 × UInt8 :=
  target.commandClass.query?.getD (0x02, 0x03)

/-- How many bytes a report has at least. -/
def reportLength : QueryTarget → Nat
  | .version => 5
  | _ => 1

end QueryTarget

/-- What a capability can be set to. -/
inductive SetAction where
  | basic (level : UInt8)
  | binarySwitch (on : Bool)
  | multilevelSwitch (level : UInt8)
  | configuration (parameter : ConfigurationParameter)
  | associationSet (association : Association)
  | associationRemove (association : Association)
  | thermostatMode (mode : ThermostatMode)
  | thermostatFanMode (mode : FanMode)
  | thermostatSetpoint (setpointType : SetpointType) (scale : TemperatureScale) (value : Setpoint)
  /-- The interval, and the node the device notifies when it wakes up. -/
  | wakeUpInterval (interval : WakeUpInterval) (notified : NodeId)
  deriving DecidableEq

namespace SetAction

/-- The command class that is set. -/
def commandClass : SetAction → CommandClass
  | .basic _ => .basic
  | .binarySwitch _ => .switchBinary
  | .multilevelSwitch _ => .switchMultilevel
  | .configuration _ => .configuration
  | .associationSet _ => .association
  | .associationRemove _ => .association
  | .thermostatMode _ => .thermostatMode
  | .thermostatFanMode _ => .thermostatFanMode
  | .thermostatSetpoint _ _ _ => .thermostatSetpoint
  | .wakeUpInterval _ _ => .wakeUp

end SetAction

/-- One instruction. -/
inductive Command where
  /-- Ask the controller for the version of its protocol library. -/
  | controllerVersion
  /-- Ask the controller whether it lists a node as failed. -/
  | isFailedNode (node : NodeId)
  /-- Ask a node for the current value of a capability. -/
  | query (node : NodeId) (target : QueryTarget)
  /-- Set a capability of a node. -/
  | set (node : NodeId) (action : SetAction)
  deriving DecidableEq

namespace Command

/-- The node the command is about, if it names one. -/
def node? : Command → Option NodeId
  | .controllerVersion => none
  | .isFailedNode node => some node
  | .query node _ => some node
  | .set node _ => some node

/-- The command class the command is for, if it is for a capability. -/
def commandClass? : Command → Option CommandClass
  | .controllerVersion => none
  | .isFailedNode _ => none
  | .query _ target => some target.commandClass
  | .set _ action => some action.commandClass

/-- The message class of the frame that will answer the command. -/
def answerClass : Command → MessageClass
  | .controllerVersion => .getVersion
  | .isFailedNode _ => .isFailedNode
  | .query _ _ => .applicationCommand
  | .set _ _ => .sendData

end Command

/-- The key of the transaction that a command opens: its node and the class of its answer. -/
def Key.ofCommand (command : Command) : Key :=
  ⟨command.node?, command.answerClass⟩

end ZWaveGateway
