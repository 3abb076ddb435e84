import ZWaveGateway.Command.Layout
import ZWaveGateway.Link.Outbound
import ZWaveGateway.Proofs.Serial.RoundTrip

/-!
# Commands survive the wire

The bytes that are written for a command say which command it is. `Transmission.read?` is written
from the layout of the bytes alone, and not from the functions that write them: it checks start,
length and checksum, finds the command bytes by their count and takes numbers apart by division.
It gives back every command with every value in it, and the callback id that the link has stamped
on it (`ZWaveGateway.Command.survives_wire`).
-/

namespace ZWaveGateway

/-! ## Reading a transmission -/

/-- A command as it was sent, and the callback id it was sent with, if it was sent to a node's
capability. -/
structure Transmission where
  command : Command
  callback : Option UInt8
  deriving DecidableEq

namespace Transmission

/-- Direction, class and payload of the one frame that the bytes are. -/
def unwrap? : List UInt8 → Option (List UInt8)
  | start :: length :: rest =>
      if start = 0x01 ∧ rest.length = length.toNat ∧ rest.foldl (· ^^^ ·) length = 0xFF then
        some rest.dropLast
      else none
  | _ => none

/-- A parameter's value takes exactly the bytes that its size announces. -/
def readParameter? (index size : UInt8) (value : List UInt8) : Option ConfigurationParameter :=
  if value.length = size.toNat then
    (ConfigurationParameter.ofNumbers index.toNat (BigEndian.toInt value) size.toNat).toOption
  else none

/-- The format byte holds digits, scale and size of a setpoint, from its highest bit down. -/
def readSetpoint? (format : UInt8) (value : List UInt8) : Option (TemperatureScale × Setpoint) := do
  let scale ← TemperatureScale.ofCode? (UInt8.ofNat (format.toNat / 8 % 4))
  let width ← Width.ofBytes? ((format.toNat % 8 : Nat) : Int)
  if value.length = width.bytes then
    if holds : Width.four.Holds (BigEndian.toInt value) then
      some (scale, ⟨BigEndian.toInt value, format.toNat / 32, holds,
        by have := format.toNat_lt; omega⟩)
    else none
  else none

/-- The command that command bytes are to a node. -/
def readInstruction? (node : NodeId) : List UInt8 → Option Command
  | [0x20, 0x02] => some (.query node .basic)
  | [0x25, 0x02] => some (.query node .binarySwitch)
  | [0x26, 0x02] => some (.query node .multilevelSwitch)
  | [0x86, 0x11] => some (.query node .version)
  | [0x20, 0x01, level] => some (.set node (.basic level))
  | [0x25, 0x01, 0x00] => some (.set node (.binarySwitch false))
  | [0x25, 0x01, 0xFF] => some (.set node (.binarySwitch true))
  | [0x26, 0x01, level] => some (.set node (.multilevelSwitch level))
  | 0x70 :: 0x04 :: index :: size :: value =>
      (readParameter? index size value).map (.set node <| .configuration ·)
  | [0x85, 0x01, group, target] =>
      (Association.ofNumbers group.toNat target.toNat).toOption.map
        (.set node <| .associationSet ·)
  | [0x85, 0x04, group, target] =>
      (Association.ofNumbers group.toNat target.toNat).toOption.map
        (.set node <| .associationRemove ·)
  | [0x40, 0x01, mode] => (ThermostatMode.ofCode? mode).map (.set node <| .thermostatMode ·)
  | [0x44, 0x01, mode] => (FanMode.ofCode? mode).map (.set node <| .thermostatFanMode ·)
  | 0x43 :: 0x01 :: kind :: format :: value => do
      let setpointType ← SetpointType.ofCode? kind
      let (scale, setpoint) ← readSetpoint? format value
      some (.set node (.thermostatSetpoint setpointType scale setpoint))
  | [0x84, 0x04, high, middle, low, notified] =>
      (WakeUpInterval.ofSeconds (BigEndian.toNat [high, middle, low])).toOption.map
        (.set node <| .wakeUpInterval · ⟨notified⟩)
  | _ => none

/-- The transmission that the bytes are. -/
def read? (bytes : List UInt8) : Option Transmission := do
  match ← unwrap? bytes with
  | [0x00, 0x15] => some ⟨.controllerVersion, none⟩
  | [0x00, 0x62, node] => some ⟨.isFailedNode ⟨node⟩, none⟩
  | 0x00 :: 0x13 :: node :: count :: rest =>
      match rest.drop count.toNat with
      | [0x25, callback] =>
          (readInstruction? ⟨node⟩ (rest.take count.toNat)).map (⟨·, some callback⟩)
      | _ => none
  | _ => none

/-! ## The frame around a command -/

theorem unwrap?_wrap {data : List UInt8} (fits : data.length ≤ Wire.maxFrameData) :
    unwrap? (Wire.wrap data) = some data := by
  have counted := Wire.toNat_length fits
  simp only [Wire.wrap]
  generalize UInt8.ofNat (data.length + 1) = length at counted
  have announced : (data ++ [Wire.checksum (length :: data)]).length = length.toNat := by
    rw [counted, List.length_append, List.length_singleton]
  -- The checksum is made from `0xFF`, and the bytes it was made of take it back there.
  have checksum : Wire.checksum (length :: data) = 0xFF ^^^ data.foldl (· ^^^ ·) length :=
    Wire.foldl_xor 0xFF length data
  have closed : (data ++ [Wire.checksum (length :: data)]).foldl (· ^^^ ·) length = 0xFF := by
    rw [checksum, List.foldl_append, List.foldl_cons, List.foldl_nil, UInt8.xor_comm,
      UInt8.xor_assoc, UInt8.xor_self, UInt8.xor_zero]
  rw [unwrap?, if_pos ⟨rfl, announced, closed⟩, List.dropLast_concat]

/-! ## The command bytes -/

theorem readParameter?_self (parameter : ConfigurationParameter) :
    readParameter? parameter.index (UInt8.ofNat parameter.width.bytes) parameter.valueBytes =
      some parameter := by
  have size : (UInt8.ofNat parameter.width.bytes).toNat = parameter.width.bytes := by
    cases parameter.width <;> rfl
  have length : parameter.valueBytes.length = parameter.width.bytes := BigEndian.length_ofInt ..
  have value : BigEndian.toInt parameter.valueBytes = parameter.value :=
    Width.toInt_ofInt parameter.holds
  rw [readParameter?, size, length, value, if_pos rfl, ConfigurationParameter.ofNumbers_self]
  rfl

theorem readSetpoint?_self (scale : TemperatureScale) (setpoint : Setpoint) :
    readSetpoint? (SetAction.setpointFormat scale setpoint) setpoint.valueBytes =
      some (scale, setpoint) := by
  have fields := SetAction.toNat_setpointFormat scale setpoint
  have narrow : setpoint.width.bytes < 8 := by cases setpoint.width <;> decide
  have binary : scale.code.toNat < 2 := by cases scale <;> decide
  have length : setpoint.valueBytes.length = setpoint.width.bytes := BigEndian.length_ofInt ..
  have value : BigEndian.toInt setpoint.valueBytes = setpoint.value :=
    Width.toInt_ofInt (Width.holds_smallest setpoint.holds)
  generalize SetAction.setpointFormat scale setpoint = format at fields
  have size : format.toNat % 8 = setpoint.width.bytes := by omega
  have scaled : format.toNat / 8 % 4 = scale.code.toNat := by omega
  have digits : format.toNat / 32 = setpoint.precision := by omega
  simp only [readSetpoint?, size, scaled, digits, length, value, UInt8.ofNat_toNat,
    TemperatureScale.ofCode?_code, Width.ofBytes?_bytes, Option.bind_eq_bind, Option.bind_some,
    ↓reduceIte, setpoint.holds, ↓reduceDIte]

theorem readInstruction?_query (node : NodeId) (target : QueryTarget) :
    readInstruction? node target.bytes = some (.query node target) := by
  cases target <;> rfl

theorem readInstruction?_set (node : NodeId) (action : SetAction) :
    readInstruction? node action.bytes = some (.set node action) := by
  cases action with
  | basic level => rfl
  | binarySwitch on => cases on <;> rfl
  | multilevelSwitch level => rfl
  | configuration parameter =>
      change (readParameter? parameter.index (UInt8.ofNat parameter.width.bytes)
        parameter.valueBytes).map _ = _
      rw [readParameter?_self]
      rfl
  | associationSet association =>
      change (Association.ofNumbers association.group.toNat
        association.target.number.toNat).toOption.map _ = _
      rw [Association.ofNumbers_self]
      rfl
  | associationRemove association =>
      change (Association.ofNumbers association.group.toNat
        association.target.number.toNat).toOption.map _ = _
      rw [Association.ofNumbers_self]
      rfl
  | thermostatMode mode =>
      change (ThermostatMode.ofCode? mode.code).map _ = _
      rw [ThermostatMode.ofCode?_code]
      rfl
  | thermostatFanMode mode =>
      change (FanMode.ofCode? mode.code).map _ = _
      rw [FanMode.ofCode?_code]
      rfl
  | thermostatSetpoint setpointType scale value =>
      change ((SetpointType.ofCode? setpointType.code).bind fun setpointType =>
        (readSetpoint? (SetAction.setpointFormat scale value) value.valueBytes).bind _) = _
      rw [SetpointType.ofCode?_code, readSetpoint?_self]
      rfl
  | wakeUpInterval interval notified =>
      change (WakeUpInterval.ofSeconds (BigEndian.toNat interval.bytes)).toOption.map _ = _
      rw [WakeUpInterval.bytes, BigEndian.toNat_ofNat interval.fits, WakeUpInterval.ofSeconds_self]
      rfl

end Transmission

/-! ## Whole commands -/

namespace Command

/-- The command bytes of a command to a capability. -/
def bytes? : Command → Option (List UInt8)
  | .controllerVersion => none
  | .isFailedNode _ => none
  | .query _ target => some target.bytes
  | .set _ action => some action.bytes

/-- The callback id that a command is sent with after a frame with the id `last`. -/
def callback? (command : Command) (last : UInt8) : Option UInt8 :=
  command.bytes?.map fun _ => Link.nextCallback last

variable {command : Command} {bytes : List UInt8}

theorem toNat_length_of_bytes? (instruction : command.bytes? = some bytes) :
    (UInt8.ofNat bytes.length).toNat = bytes.length ∧ bytes.length ≤ 8 := by
  have short : bytes.length ≤ 8 := by
    cases command with
    | query node target =>
        obtain rfl := Option.some.inj instruction
        simp [QueryTarget.bytes]
    | set node action =>
        obtain rfl := Option.some.inj instruction
        exact action.length_bytes_le
    | _ => cases instruction
  rw [UInt8.toNat_ofNat', Nat.mod_eq_of_lt (by omega)]
  exact ⟨rfl, short⟩

/-- What a command to a capability is, in terms of its bytes. -/
theorem frame_of_bytes? (instruction : command.bytes? = some bytes) :
    ∃ node priority, command.node? = some node ∧ command.frame = sendData node priority bytes ∧
      Transmission.readInstruction? node bytes = some command := by
  cases command with
  | query node target =>
      obtain rfl := Option.some.inj instruction
      exact ⟨node, .get, rfl, rfl, Transmission.readInstruction?_query node target⟩
  | set node action =>
      obtain rfl := Option.some.inj instruction
      exact ⟨node, .set, rfl, rfl, Transmission.readInstruction?_set node action⟩
  | _ => cases instruction

theorem stamp_of_bytes?_eq_none (none : command.bytes? = none) (last : UInt8) :
    (Link.stamp last command.frame).1 = command.frame := by
  cases command <;> first | rfl | cases none

theorem stamp_sendData (last : UInt8) (node : NodeId) (priority : Priority) (bytes : List UInt8) :
    Link.stamp last (sendData node priority bytes) =
      (Frame.request .sendData priority (some node)
        (node.number :: UInt8.ofNat bytes.length :: (bytes ++ [0x25, Link.nextCallback last])),
        Link.nextCallback last) := by
  simp [Link.stamp, sendData, Frame.request, transmitOptions]

theorem read?_sendData {node : NodeId} (instruction : command.bytes? = some bytes)
    (reads : Transmission.readInstruction? node bytes = some command) (callback : UInt8) :
    Transmission.read? (Wire.wrap (0x00 :: 0x13 :: node.number :: UInt8.ofNat bytes.length ::
      (bytes ++ [0x25, callback]))) = some ⟨command, some callback⟩ := by
  obtain ⟨counted, short⟩ := toNat_length_of_bytes? instruction
  have fits : (0x00 :: 0x13 :: node.number :: UInt8.ofNat bytes.length ::
      (bytes ++ [0x25, callback])).length ≤ Wire.maxFrameData := by
    simp only [List.length_cons, List.length_append, List.length_nil, Wire.maxFrameData]
    omega
  rw [Transmission.read?, Transmission.unwrap?_wrap fits, Option.bind_eq_bind, Option.bind_some]
  simp only [counted, List.drop_left, List.take_left, reads, Option.map_some]

/-- The bytes of every command are written, and are read as that command. -/
theorem read?_encode (command : Command) (last : UInt8) :
    ∃ bytes, Wire.encode (Link.stamp last command.frame).1 = .ok bytes ∧
      Transmission.read? bytes = some ⟨command, command.callback? last⟩ := by
  cases instruction : command.bytes? with
  | none =>
      have fits : command.frame.toSerial.length ≤ Wire.maxFrameData := by
        cases command with
        | controllerVersion => decide
        | isFailedNode node => exact Nat.le_add_left 3 251
        | _ => cases instruction
      rw [stamp_of_bytes?_eq_none instruction, callback?, instruction]
      refine ⟨_, Wire.encode_of_le fits, ?_⟩
      rw [Transmission.read?, Transmission.unwrap?_wrap fits]
      cases command <;> first | rfl | cases instruction
  | some bytes =>
      obtain ⟨node, priority, -, sent, reads⟩ := frame_of_bytes? instruction
      obtain ⟨-, short⟩ := toNat_length_of_bytes? instruction
      rw [sent, stamp_sendData, callback?, instruction]
      refine ⟨_, Wire.encode_of_le ?_, read?_sendData instruction reads _⟩
      simp only [Frame.length_toSerial, Frame.request, List.length_cons, List.length_append,
        List.length_nil, Wire.maxFrameData]
      omega

theorem commandBytes?_frame (command : Command) : command.frame.commandBytes? = command.bytes? := by
  cases instruction : command.bytes? with
  | none => cases command <;> first | rfl | cases instruction
  | some bytes =>
      obtain ⟨node, priority, -, sent, -⟩ := frame_of_bytes? instruction
      rw [sent]
      exact Frame.commandBytes?_of_payload rfl rfl (toNat_length_of_bytes? instruction).1

theorem commandBytes?_stamp (command : Command) (last : UInt8) :
    (Link.stamp last command.frame).1.commandBytes? = command.bytes? := by
  cases instruction : command.bytes? with
  | none => rw [stamp_of_bytes?_eq_none instruction, commandBytes?_frame, instruction]
  | some bytes =>
      obtain ⟨node, priority, -, sent, -⟩ := frame_of_bytes? instruction
      rw [sent, stamp_sendData]
      exact Frame.commandBytes?_of_payload rfl rfl (toNat_length_of_bytes? instruction).1

/-- **Commands survive the wire.** Whatever callback id comes before, a command's stamped frame is
encoded, and its bytes are read as exactly that command, with the callback id it was stamped with.
Two commands with the same bytes are therefore the same, and were stamped with the same id. The
command bytes that a frame shows are the same before and after it is stamped; they are there for
commands to a capability only, and say together with the node which command it is. -/
theorem survives_wire (command : Command) (last : UInt8) :
    (∃ bytes, Wire.encode (Link.stamp last command.frame).1 = .ok bytes ∧
      Transmission.read? bytes = some ⟨command, command.callback? last⟩) ∧
    (∀ (other : Command) (before : UInt8),
      Wire.encode (Link.stamp before other.frame).1 = Wire.encode (Link.stamp last command.frame).1 →
        other = command ∧ other.callback? before = command.callback? last) ∧
    command.frame.commandBytes? = command.bytes? ∧
    (Link.stamp last command.frame).1.commandBytes? = command.bytes? ∧
    ∀ bytes, command.bytes? = some bytes →
      ∃ node, command.node? = some node ∧
        Transmission.readInstruction? node bytes = some command := by
  obtain ⟨bytes, encoded, reads⟩ := command.read?_encode last
  refine ⟨⟨bytes, encoded, reads⟩, ?_, command.commandBytes?_frame,
    command.commandBytes?_stamp last, ?_⟩
  · intro other before same
    obtain ⟨others, encodedOther, readsOther⟩ := other.read?_encode before
    -- Equal bytes have one reading.
    rw [encodedOther, encoded] at same
    rw [Except.ok.inj same, reads] at readsOther
    injection readsOther with transmission
    injection transmission with sameCommand sameCallback
    exact ⟨sameCommand.symm, sameCallback.symm⟩
  · intro instruction known
    obtain ⟨node, -, named, -, instructs⟩ := frame_of_bytes? known
    exact ⟨node, named, instructs⟩

/-- A setpoint of 21.5 degrees takes two bytes, and keeps one digit behind the point. -/
example :
    Wire.encode (Link.stamp 255
      (set ⟨7⟩ (.thermostatSetpoint .heating .celsius ⟨215, 1, by decide, by decide⟩)).frame).1 =
      .ok [0x01, 0x0D, 0x00, 0x13, 0x07, 0x06, 0x43, 0x01, 0x01, 0x22, 0x00, 0xD7, 0x25, 0x01,
        0x72] :=
  rfl

end Command

end ZWaveGateway
