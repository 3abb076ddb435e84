import ZWaveGateway.Command.Basic

/-!
# Commands as frames

Each command is sent as one frame. A command to a node is wrapped: the node, the number of command
bytes, the command bytes themselves (command class, command, arguments) and the transmit options.
-/

namespace ZWaveGateway

/-- The options every transmission asks for: acknowledged, routed, and with exploration. -/
def transmitOptions : UInt8 := 0x25

namespace SetAction

/-- The command byte of an action. -/
def commandCode : SetAction → UInt8
  | .configuration _ => 0x04
  | .associationRemove _ => 0x04
  | .wakeUpInterval _ _ => 0x04
  | _ => 0x01

/-- The byte in front of a setpoint's value: how many digits stand behind the point, the scale, and
the number of bytes of the value. -/
def setpointFormat (scale : TemperatureScale) (value : Setpoint) : UInt8 :=
  (UInt8.ofNat value.precision <<< 5) ||| (scale.code <<< 3) ||| UInt8.ofNat value.width.bytes

/-- The arguments of an action. -/
def arguments : SetAction → List UInt8
  | .basic level => [level]
  | .binarySwitch on => [if on then 0xFF else 0x00]
  | .multilevelSwitch level => [level]
  | .configuration parameter =>
      parameter.index :: UInt8.ofNat parameter.width.bytes :: parameter.valueBytes
  | .associationSet association => [association.group, association.target.number]
  | .associationRemove association => [association.group, association.target.number]
  | .thermostatMode mode => [mode.code]
  | .thermostatFanMode mode => [mode.code]
  | .thermostatSetpoint setpointType scale value =>
      setpointType.code :: setpointFormat scale value :: value.valueBytes
  | .wakeUpInterval interval notified => interval.bytes ++ [notified.number]

/-- Command class, command and arguments. -/
def bytes (action : SetAction) : List UInt8 :=
  action.commandClass.code :: action.commandCode :: action.arguments

/-- The fields of the format byte do not overlap: five bits up the digits, three bits up the scale,
below them the number of bytes. -/
theorem toNat_setpointFormat (scale : TemperatureScale) (value : Setpoint) :
    (setpointFormat scale value).toNat =
      32 * value.precision + 8 * scale.code.toNat + value.width.bytes := by
  have table : ∀ precision : Fin 8, ∀ width : Width,
      ((UInt8.ofNat precision <<< 5) ||| (scale.code <<< 3) ||| UInt8.ofNat width.bytes).toNat =
        32 * precision + 8 * scale.code.toNat + width.bytes := by
    intro precision width
    cases scale <;> cases width <;> revert precision <;> decide
  exact table ⟨value.precision, Nat.lt_succ_of_le value.precision_le⟩ value.width

/-- Command class, command and arguments together are never longer than for a setting or a setpoint
of four bytes. -/
theorem length_bytes_le (action : SetAction) : action.bytes.length ≤ 8 := by
  have wide (width : Width) : width.bytes ≤ 4 := by cases width <;> decide
  cases action with
  | configuration parameter =>
      have value : parameter.valueBytes.length = parameter.width.bytes := BigEndian.length_ofInt ..
      have := wide parameter.width
      simp only [bytes, arguments, List.length_cons, value]
      omega
  | thermostatSetpoint setpointType scale setpoint =>
      have value : setpoint.valueBytes.length = setpoint.width.bytes := BigEndian.length_ofInt ..
      have := wide setpoint.width
      simp only [bytes, arguments, List.length_cons, value]
      omega
  | wakeUpInterval interval notified => simp [bytes, arguments, WakeUpInterval.bytes]
  | _ => simp [bytes, arguments]

end SetAction

/-- Command class and command of a question. -/
def QueryTarget.bytes (target : QueryTarget) : List UInt8 :=
  [target.commandClass.code, target.commands.1]

namespace Command

/-- The frame that sends command bytes to a node. -/
def sendData (node : NodeId) (priority : Priority) (bytes : List UInt8) : Frame :=
  Frame.request .sendData priority (some node)
    (node.number :: UInt8.ofNat bytes.length :: (bytes ++ [transmitOptions]))

/-- The frame that carries a command out. -/
def frame : Command → Frame
  | .controllerVersion => Frame.request .getVersion .high none []
  | .isFailedNode node => Frame.request .isFailedNode .high (some node) [node.number]
  | .query node target => sendData node .get target.bytes
  | .set node action => sendData node .set action.bytes

end Command

/-- The request for the controller's list of nodes. Its answer says that the network is ready. -/
def initRequest : Frame :=
  Frame.request .initData .high none []

end ZWaveGateway
