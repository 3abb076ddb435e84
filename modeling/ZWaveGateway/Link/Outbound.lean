import ZWaveGateway.Serial.Wire

/-!
# The outbound half of the link

Frames are written whole, in the order in which they were queued. A frame that sends data gets a
callback id at the end of its payload: ids count from 1 to 255 and then start over, so that they
are never zero. A frame that is too long for the wire is not written, and ends the link.
-/

namespace ZWaveGateway.Link

/-- How many frames wait between those who send and the link. -/
def queueCapacity : Nat := 64

/-- The callback id after another one; before the first one stands zero. -/
def nextCallback (last : UInt8) : UInt8 :=
  if last = 255 then 1 else last + 1

/-- The frame as it is written, and the callback id that was given last. -/
def stamp (last : UInt8) (frame : Frame) : Frame × UInt8 :=
  if frame.messageClass = .sendData then
    let callback := nextCallback last
    (Frame.request frame.messageClass frame.priority frame.node (frame.payload ++ [callback]),
      callback)
  else (frame, last)

/-- Stamp a frame and write it: its bytes, or why it cannot be written, and the last callback. -/
def transmit (last : UInt8) (frame : Frame) : Except FrameError (List UInt8) × UInt8 :=
  let (stamped, callback) := stamp last frame
  (Wire.encode stamped, callback)

/-- Callback ids are never zero. -/
theorem nextCallback_ne_zero (last : UInt8) : nextCallback last ≠ 0 := by
  unfold nextCallback
  split
  · decide
  · next other =>
      intro zero
      apply other
      have : last.toNat + 1 = 256 ∨ (last.toNat + 1) % 256 ≠ 0 := by
        have := last.toNat_lt
        omega
      have sum := congrArg UInt8.toNat zero
      rw [UInt8.toNat_add] at sum
      simp only [UInt8.toNat_one, UInt8.toNat_zero, Nat.reducePow] at sum
      apply UInt8.toNat_inj.mp
      change last.toNat = 255
      omega

end ZWaveGateway.Link
