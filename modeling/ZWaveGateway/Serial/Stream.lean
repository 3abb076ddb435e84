import ZWaveGateway.Serial.Wire

/-!
# The incoming byte stream

Bytes from the controller are collected and cut into items: frames and the single bytes between
them. Bytes that start nothing are line noise and are skipped. A damaged frame is reported once,
with its bytes taken off the stream, and reading goes on behind it.
-/

namespace ZWaveGateway

/-- What the controller can say in one go. -/
inductive Item where
  | acknowledge
  | refuse
  | cancel
  | frame (frame : Frame)
  deriving DecidableEq, Repr

namespace Stream

/-- A byte that starts no item. -/
def isNoise (b : UInt8) : Bool :=
  b != Wire.startOfFrame && b != Wire.acknowledge && b != Wire.refuse && b != Wire.cancel

/-- The frame inside the bytes that a length byte announces, checksum included. -/
def readBody (length : UInt8) (body : List UInt8) : Except FrameError Item :=
  let data := body.dropLast
  let expected := Wire.checksum (length :: data)
  let actual := body.getLastD 0
  if expected ≠ actual then .error (.badChecksum expected actual)
  else (Frame.ofSerial data).map .frame

/-- The fewest bytes a length byte may announce: direction, class and checksum. -/
def leastLength : UInt8 := 3

/-- The frame that starts behind a start byte, with the bytes left over. Nothing is read while the
frame is incomplete. -/
def nextFrame : List UInt8 → Option (Except FrameError Item) × List UInt8
  | [] => (none, [Wire.startOfFrame])
  | length :: rest =>
      if length < leastLength then (some (.error (.invalidLength length)), rest)
      else if rest.length < length.toNat then (none, Wire.startOfFrame :: length :: rest)
      else (some (readBody length (rest.take length.toNat)), rest.drop length.toNat)

/-- The next item of a buffer, or the reason why its bytes are none, with the bytes left over;
without an item, the bytes that wait for more. -/
def next (buffer : List UInt8) : Option (Except FrameError Item) × List UInt8 :=
  match buffer.dropWhile isNoise with
  | [] => (none, [])
  | first :: rest =>
      if first = Wire.acknowledge then (some (.ok .acknowledge), rest)
      else if first = Wire.refuse then (some (.ok .refuse), rest)
      else if first = Wire.cancel then (some (.ok .cancel), rest)
      else nextFrame rest

theorem isNoise_or (b : UInt8) :
    isNoise b = true ∨ b = Wire.startOfFrame ∨ b = Wire.acknowledge ∨ b = Wire.refuse ∨
      b = Wire.cancel := by
  simp only [isNoise, Bool.and_eq_true, bne_iff_ne]
  grind

theorem next_noise {b : UInt8} (quiet : isNoise b = true) (rest : List UInt8) :
    next (b :: rest) = next rest := by
  rw [next, next, List.dropWhile_cons_of_pos quiet]

theorem next_startOfFrame (rest : List UInt8) :
    next (Wire.startOfFrame :: rest) = nextFrame rest := by
  rw [next, List.dropWhile_cons_of_neg (by decide)]
  rfl

theorem next_acknowledge (rest : List UInt8) :
    next (Wire.acknowledge :: rest) = (some (.ok .acknowledge), rest) := by
  rw [next, List.dropWhile_cons_of_neg (by decide)]
  rfl

theorem next_refuse (rest : List UInt8) :
    next (Wire.refuse :: rest) = (some (.ok .refuse), rest) := by
  rw [next, List.dropWhile_cons_of_neg (by decide)]
  rfl

theorem next_cancel (rest : List UInt8) :
    next (Wire.cancel :: rest) = (some (.ok .cancel), rest) := by
  rw [next, List.dropWhile_cons_of_neg (by decide)]
  rfl

theorem nextFrame_of_short {length : UInt8} (short : length < leastLength) (rest : List UInt8) :
    nextFrame (length :: rest) = (some (.error (.invalidLength length)), rest) :=
  if_pos short

theorem nextFrame_of_missing {length : UInt8} {rest : List UInt8} (room : leastLength ≤ length)
    (missing : rest.length < length.toNat) :
    nextFrame (length :: rest) = (none, Wire.startOfFrame :: length :: rest) := by
  rw [nextFrame, if_neg (UInt8.not_lt.mpr room), if_pos missing]

theorem nextFrame_of_whole {length : UInt8} {rest : List UInt8} (room : leastLength ≤ length)
    (whole : length.toNat ≤ rest.length) :
    nextFrame (length :: rest) =
      (some (readBody length (rest.take length.toNat)), rest.drop length.toNat) := by
  rw [nextFrame, if_neg (UInt8.not_lt.mpr room), if_neg (Nat.not_lt.mpr whole)]

theorem nextFrame_length_le {rest left : List UInt8} {item : Except FrameError Item}
    (found : nextFrame rest = (some item, left)) : left.length ≤ rest.length := by
  unfold nextFrame at found
  split at found
  · simp at found
  · split at found
    · obtain ⟨-, rfl⟩ := Prod.mk.inj found
      simp
    · split at found
      · simp at found
      · obtain ⟨-, rfl⟩ := Prod.mk.inj found
        simp only [List.length_drop, List.length_cons]
        omega

/-- Every item takes at least one byte off the buffer. -/
theorem next_length_lt {buffer left : List UInt8} {item : Except FrameError Item}
    (found : next buffer = (some item, left)) : left.length < buffer.length := by
  have kept : (buffer.dropWhile isNoise).length ≤ buffer.length :=
    (List.dropWhile_sublist _).length_le
  unfold next at found
  split at found
  · simp at found
  · next first rest shape =>
      rw [shape, List.length_cons] at kept
      split at found
      · obtain ⟨-, rfl⟩ := Prod.mk.inj found
        omega
      · split at found
        · obtain ⟨-, rfl⟩ := Prod.mk.inj found
          omega
        · split at found
          · obtain ⟨-, rfl⟩ := Prod.mk.inj found
            omega
          · have := nextFrame_length_le found
            omega

/-- All items of a buffer, with the bytes that wait for more. -/
def drain (buffer : List UInt8) : List (Except FrameError Item) × List UInt8 :=
  match found : next buffer with
  | (none, left) => ([], left)
  | (some item, left) =>
      have _shorter : left.length < buffer.length := next_length_lt found
      (item :: (drain left).1, (drain left).2)
termination_by buffer.length

theorem drain_of_none {buffer left : List UInt8} (found : next buffer = (none, left)) :
    drain buffer = ([], left) := by
  rw [drain]
  split
  · next other =>
      rw [found] at other
      cases other
      rfl
  · next other =>
      rw [found] at other
      cases other

/-- The first item of a buffer comes first. -/
theorem drain_of_next {buffer left : List UInt8} {item : Except FrameError Item}
    (found : next buffer = (some item, left)) :
    drain buffer = (item :: (drain left).1, (drain left).2) := by
  rw [drain]
  split
  · next other =>
      rw [found] at other
      cases other
  · next other =>
      rw [found] at other
      cases other
      rfl

end Stream

end ZWaveGateway
