import ZWaveGateway.Node
import ZWaveGateway.Serial.MessageClass
import ZWaveGateway.Text.Hexadecimal

/-!
# Frames

A frame is one message between the host and the controller: its direction, its message class and
its payload. Outgoing frames have a priority and may be addressed to a node; of the incoming ones
only application commands and updates name a node, in the second byte of their payload.
-/

namespace ZWaveGateway

/-- What can be wrong with a frame. -/
inductive FrameError where
  /-- The payload ends before the bytes its class needs. -/
  | tooShort (messageClass : MessageClass) (expected actual : Nat)
  /-- The frame has more bytes than a length byte can announce. -/
  | tooLong (most actual : Nat)
  | unknownMessageClass (code : UInt8)
  | unknownFrameType (code : UInt8)
  /-- The announced length leaves no room for direction and class. -/
  | invalidLength (length : UInt8)
  | badChecksum (expected actual : UInt8)
  deriving DecidableEq, Repr

namespace FrameError

/-- The cause in one word. -/
def name : FrameError → String
  | .tooShort .. => "TooShort"
  | .tooLong .. => "TooLong"
  | .unknownMessageClass _ => "UnknownMessageClass"
  | .unknownFrameType _ => "UnknownFrameType"
  | .invalidLength _ => "InvalidLength"
  | .badChecksum .. => "BadChecksum"

/-- The error in words. -/
def message : FrameError → String
  | .tooShort messageClass expected actual =>
      messageClass.name ++ " frame too short: expected at least " ++ toString expected ++
        " bytes, got " ++ toString actual
  | .tooLong most actual =>
      "Frame too long: " ++ toString actual ++ " bytes (max: " ++ toString most ++ ")"
  | .unknownMessageClass code => "Unknown message class: 0x" ++ Text.Hexadecimal.byte code
  | .unknownFrameType code => "Unknown frame type: 0x" ++ Text.Hexadecimal.byte code
  | .invalidLength length => "Invalid length byte: " ++ toString length.toNat
  | .badChecksum expected actual =>
      "Checksum mismatch: expected 0x" ++ Text.Hexadecimal.byte expected ++ ", got 0x" ++
        Text.Hexadecimal.byte actual

end FrameError

/-- One message between the host and the controller. -/
structure Frame where
  messageClass : MessageClass
  frameType : FrameType
  priority : Priority
  node : Option NodeId
  payload : List UInt8
  deriving DecidableEq, Repr

namespace Frame

/-- An outgoing request. -/
def request (messageClass : MessageClass) (priority : Priority) (node : Option NodeId)
    (payload : List UInt8) : Frame :=
  ⟨messageClass, .request, priority, node, payload⟩

/-- An incoming frame. It waits for nothing, so it has the lowest priority. -/
def inbound (messageClass : MessageClass) (frameType : FrameType) (node : Option NodeId)
    (payload : List UInt8) : Frame :=
  ⟨messageClass, frameType, .poll, node, payload⟩

/-- The node that an incoming frame comes from, where its payload names one. -/
def sender (messageClass : MessageClass) (frameType : FrameType) (payload : List UInt8) :
    Option NodeId :=
  match messageClass, frameType with
  | .applicationCommand, .request | .applicationUpdate, .request => payload[1]?.map NodeId.mk
  | _, _ => none

/-- Direction, class and payload as bytes. -/
def toSerial (frame : Frame) : List UInt8 :=
  frame.frameType.code :: frame.messageClass.code :: frame.payload

/-- The incoming frame whose direction, class and payload are these bytes. -/
def ofSerial : List UInt8 → Except FrameError Frame
  | direction :: code :: payload =>
      match FrameType.ofCode? direction with
      | none => .error (.unknownFrameType direction)
      | some frameType =>
          match MessageClass.ofCode? code with
          | none => .error (.unknownMessageClass code)
          | some messageClass =>
              .ok (inbound messageClass frameType (sender messageClass frameType payload) payload)
  | bytes => .error (.invalidLength (UInt8.ofNat bytes.length))

/-- Succeeds when the payload has at least `least` bytes. -/
def requireLength (frame : Frame) (least : Nat) : Except FrameError Unit :=
  if frame.payload.length < least then
    .error (.tooShort frame.messageClass least frame.payload.length)
  else .ok ()

/-- The command class bytes inside a frame that sends data: as many as the second byte of the
payload counts, behind that byte. -/
def commandBytes? (frame : Frame) : Option (List UInt8) :=
  if frame.messageClass ≠ .sendData then none
  else match frame.payload with
    | _ :: count :: rest =>
        if rest.length < count.toNat then none else some (rest.take count.toNat)
    | _ => none

/-- As many command bytes as the payload counts, whatever stands behind them. -/
theorem commandBytes?_of_payload {frame : Frame} {node count : UInt8} {bytes rest : List UInt8}
    (kind : frame.messageClass = .sendData)
    (payload : frame.payload = node :: count :: (bytes ++ rest))
    (counted : count.toNat = bytes.length) : frame.commandBytes? = some bytes := by
  rw [commandBytes?, if_neg (not_not_intro kind), payload]
  simp only [counted, List.length_append, List.take_left]
  rw [if_neg (Nat.not_lt.mpr (Nat.le_add_right _ _))]

@[simp]
theorem length_toSerial (frame : Frame) : frame.toSerial.length = frame.payload.length + 2 := rfl

/-- Reading the bytes of a frame keeps its direction, class and payload. -/
theorem ofSerial_toSerial (frame : Frame) :
    ofSerial frame.toSerial =
      .ok (inbound frame.messageClass frame.frameType
        (sender frame.messageClass frame.frameType frame.payload) frame.payload) := by
  simp only [toSerial, ofSerial, FrameType.ofCode?_code, MessageClass.ofCode?_code]

/-- A frame that was read writes the bytes it was read from. -/
theorem toSerial_of_ofSerial {bytes : List UInt8} {frame : Frame}
    (read : ofSerial bytes = .ok frame) : frame.toSerial = bytes := by
  unfold ofSerial at read
  split at read
  · next direction code payload =>
      split at read
      · cases read
      · next frameType known =>
          split at read
          · cases read
          · next messageClass listed =>
              cases read
              rw [toSerial, inbound, FrameType.ofCode?_eq_some_iff.mp known,
                MessageClass.ofCode?_eq_some_iff.mp listed]
  · cases read

end Frame

end ZWaveGateway
