import ZWaveGateway.Serial.Frame

/-!
# Frames on the wire

On the serial line a frame stands behind a start byte and a length byte and is followed by a
checksum. The length counts every byte after itself; the checksum is `0xFF` combined by exclusive
or with every byte from the length to the end of the payload. Between frames the line carries
single bytes that accept, refuse or cancel the last frame.
-/

namespace ZWaveGateway.Wire

/-- Starts a frame. -/
def startOfFrame : UInt8 := 0x01

/-- Accepts the last frame. -/
def acknowledge : UInt8 := 0x06

/-- Refuses the last frame. -/
def refuse : UInt8 := 0x15

/-- Cancels the last frame. -/
def cancel : UInt8 := 0x18

/-- The most bytes of direction, class and payload that one length byte can announce. -/
def maxFrameData : Nat := 254

/-- The checksum of bytes. -/
def checksum (bytes : List UInt8) : UInt8 :=
  bytes.foldl (· ^^^ ·) 0xFF

/-- The bytes that carry a block of direction, class and payload. -/
def wrap (data : List UInt8) : List UInt8 :=
  let length := UInt8.ofNat (data.length + 1)
  startOfFrame :: length :: (data ++ [checksum (length :: data)])

/-- A frame as it is written on the line. -/
def encode (frame : Frame) : Except FrameError (List UInt8) :=
  if maxFrameData < frame.toSerial.length then
    .error (.tooLong maxFrameData frame.toSerial.length)
  else .ok (wrap frame.toSerial)

/-- The length byte of a block that fits counts the block and the checksum behind it. -/
theorem toNat_length {data : List UInt8} (fits : data.length ≤ maxFrameData) :
    (UInt8.ofNat (data.length + 1)).toNat = data.length + 1 := by
  rw [UInt8.toNat_ofNat', Nat.mod_eq_of_lt (by unfold maxFrameData at fits; omega)]

theorem foldl_xor (first second : UInt8) (bytes : List UInt8) :
    bytes.foldl (· ^^^ ·) (first ^^^ second) = first ^^^ bytes.foldl (· ^^^ ·) second := by
  induction bytes generalizing second with
  | nil => rfl
  | cons byte rest ih => rw [List.foldl_cons, List.foldl_cons, UInt8.xor_assoc, ih]

end ZWaveGateway.Wire
