import ZWaveGateway.Proofs.Serial.Chunks

/-!
# What is written is read back

The bytes of a frame may be any bytes, start bytes and acknowledgements included. Reading keeps its
place because a length byte counts exactly what belongs to its frame: the bytes written for a frame
are read as that frame, and the bytes behind them are left (`ZWaveGateway.Stream.next_wrap`). A line
on which frames, single bytes and noise follow each other in any order is therefore read back as it
was written, the noise left out (`ZWaveGateway.Stream.round_trip`).
-/

namespace ZWaveGateway

namespace Wire

variable {frame : Frame}

theorem encode_of_le (fits : frame.toSerial.length ≤ maxFrameData) :
    encode frame = .ok (wrap frame.toSerial) :=
  if_neg (Nat.not_lt.mpr fits)

theorem encode_of_lt (long : maxFrameData < frame.toSerial.length) :
    encode frame = .error (.tooLong maxFrameData frame.toSerial.length) :=
  if_pos long

end Wire

namespace Frame

/-- The frame as it arrives at the other end, where it has lost its priority and has the node that
its payload names. -/
def arrived (frame : Frame) : Frame :=
  inbound frame.messageClass frame.frameType
    (sender frame.messageClass frame.frameType frame.payload) frame.payload

theorem node_arrived (frame : Frame) :
    frame.arrived.node =
      if frame.frameType = .request ∧
          (frame.messageClass = .applicationCommand ∨ frame.messageClass = .applicationUpdate) then
        frame.payload[1]?.map NodeId.mk
      else none := by
  change sender frame.messageClass frame.frameType frame.payload = _
  unfold sender
  split
  · next command request => simp only [command, request, true_or, and_self, ↓reduceIte]
  · next update request => simp only [update, request, or_true, and_self, ↓reduceIte]
  · next noCommand noUpdate =>
      rw [if_neg]
      rintro ⟨request, command | update⟩
      · exact noCommand command request
      · exact noUpdate update request

theorem arrived_of_ofSerial {bytes : List UInt8} {frame : Frame}
    (read : ofSerial bytes = .ok frame) : frame.arrived = frame := by
  have again := ofSerial_toSerial frame
  rw [toSerial_of_ofSerial read, read] at again
  exact (Except.ok.inj again).symm

end Frame

namespace Stream

/-! ## One frame -/

theorem readBody_append_checksum (length : UInt8) (data : List UInt8) :
    readBody length (data ++ [Wire.checksum (length :: data)]) =
      (Frame.ofSerial data).map .frame := by
  rw [readBody, List.dropLast_concat, List.getLastD_concat, if_neg (by simp)]

theorem leastLength_le {data : List UInt8} (least : 2 ≤ data.length)
    (most : data.length ≤ Wire.maxFrameData) : leastLength ≤ UInt8.ofNat (data.length + 1) := by
  rw [UInt8.le_iff_toNat_le, Wire.toNat_length most]
  exact Nat.succ_le_succ least

/-- The bytes written for a block of direction, class and payload are read as one item, and what
comes behind them is left. -/
theorem next_wrap {data : List UInt8} (least : 2 ≤ data.length)
    (most : data.length ≤ Wire.maxFrameData) (rest : List UInt8) :
    next (Wire.wrap data ++ rest) = (some ((Frame.ofSerial data).map .frame), rest) := by
  have announced := Wire.toNat_length most
  have room := leastLength_le least most
  have counted (checksum : UInt8) : (data ++ [checksum]).length = data.length + 1 :=
    List.length_append
  have whole : (UInt8.ofNat (data.length + 1)).toNat ≤
      (data ++ [Wire.checksum (UInt8.ofNat (data.length + 1) :: data)] ++ rest).length := by
    rw [announced, List.length_append, counted]
    exact Nat.le_add_right _ _
  rw [Wire.wrap, List.cons_append, List.cons_append, next_startOfFrame,
    nextFrame_of_whole room whole, announced, List.take_left' (counted _),
    List.drop_left' (counted _), readBody_append_checksum]

theorem next_frame {frame : Frame} (fits : frame.toSerial.length ≤ Wire.maxFrameData)
    (rest : List UInt8) :
    next (Wire.wrap frame.toSerial ++ rest) = (some (.ok (.frame frame.arrived)), rest) := by
  rw [next_wrap (Nat.le_add_left 2 _) fits, Frame.ofSerial_toSerial]
  rfl

/-! ## A whole line -/

/-- What can be on the line: single bytes, noise, and frames that fit. -/
inductive Piece where
  | acknowledge
  | refuse
  | cancel
  | noise (byte : UInt8) (quiet : isNoise byte = true)
  | frame (sent : Frame) (fits : sent.toSerial.length ≤ Wire.maxFrameData)

namespace Piece

/-- The bytes on the line. -/
def bytes : Piece → List UInt8
  | .acknowledge => [Wire.acknowledge]
  | .refuse => [Wire.refuse]
  | .cancel => [Wire.cancel]
  | .noise byte _ => [byte]
  | .frame sent _ => Wire.wrap sent.toSerial

/-- What is to be read of it. -/
def item? : Piece → Option Item
  | .acknowledge => some .acknowledge
  | .refuse => some .refuse
  | .cancel => some .cancel
  | .noise _ _ => none
  | .frame sent _ => some (.frame sent.arrived)

theorem drain_bytes_append (piece : Piece) (rest : List UInt8) :
    drain (piece.bytes ++ rest) =
      ((piece.item?.map .ok).toList ++ (drain rest).1, (drain rest).2) := by
  cases piece with
  | acknowledge => exact drain_of_next (next_acknowledge rest)
  | refuse => exact drain_of_next (next_refuse rest)
  | cancel => exact drain_of_next (next_cancel rest)
  | noise byte quiet => exact drain_congr (next_noise quiet rest)
  | frame sent fits => exact drain_of_next (next_frame fits rest)

end Piece

/-- Whatever is behind the pieces of a line, they are read first, each as what it is. -/
theorem drain_pieces (pieces : List Piece) (rest : List UInt8) :
    drain (pieces.flatMap Piece.bytes ++ rest) =
      ((pieces.filterMap Piece.item?).map .ok ++ (drain rest).1, (drain rest).2) := by
  induction pieces with
  | nil => rfl
  | cons piece later read =>
      rw [List.flatMap_cons, List.append_assoc, piece.drain_bytes_append, read]
      cases piece <;> rfl

/-- **What is written is read back.** A line of single bytes, noise and frames that fit, cut in any
way, is read without an error as its single bytes and frames in order, and nothing is left waiting.
The bytes of a frame are those that it is encoded as; only a frame that does not fit cannot be
encoded. A frame arrives with its direction, class and payload, with the lowest priority, and with
the node that the second byte of its payload names if it is an application command or update; a
frame that was itself read arrives unchanged. -/
theorem round_trip (pieces : List Piece) (chunks : List (List UInt8))
    (cut : chunks.flatten = pieces.flatMap Piece.bytes) :
    drainChunks [] chunks = ((pieces.filterMap Piece.item?).map .ok, []) ∧
    (∀ frame fits, Wire.encode frame = .ok (Piece.frame frame fits).bytes) ∧
    (∀ frame, (∃ error, Wire.encode frame = .error error) ↔ 254 < frame.toSerial.length) ∧
    (∀ frame : Frame, Frame.ofSerial frame.toSerial = .ok frame.arrived ∧
      frame.arrived.frameType = frame.frameType ∧
      frame.arrived.messageClass = frame.messageClass ∧
      frame.arrived.payload = frame.payload ∧ frame.arrived.priority = .poll ∧
      frame.arrived.node =
        if frame.frameType = .request ∧ (frame.messageClass = .applicationCommand ∨
            frame.messageClass = .applicationUpdate) then
          frame.payload[1]?.map NodeId.mk
        else none) ∧
    ∀ bytes frame, Frame.ofSerial bytes = .ok frame → frame.arrived = frame := by
  refine ⟨?_, fun frame fits => Wire.encode_of_le fits, fun frame => ?_,
    fun frame => ⟨frame.ofSerial_toSerial, rfl, rfl, rfl, rfl, frame.node_arrived⟩,
    fun bytes frame read => Frame.arrived_of_ofSerial read⟩
  · have read := drain_pieces pieces []
    rw [drain_of_waiting .nothing, List.append_nil, List.append_nil] at read
    rw [drainChunks_eq_drain .nothing, List.nil_append, cut, read]
  · constructor
    · rintro ⟨error, failed⟩
      refine Nat.lt_of_not_le fun fits => ?_
      rw [Wire.encode_of_le fits] at failed
      cases failed
    · intro long
      exact ⟨_, Wire.encode_of_lt long⟩

/-- A response whose payload is a start byte, behind noise and before an acknowledgement, comes in
two chunks that end in the middle of it. -/
theorem round_trip_of_cut_frame :
    drainChunks [] [[0xAA, 0x01, 0x04, 0x01], [0x62, 0x01, 0x99, 0x06]] =
      ([.ok (.frame (Frame.inbound .isFailedNode .response none [0x01])), .ok .acknowledge], []) :=
  (round_trip
    [.noise 0xAA (by decide),
      .frame (Frame.inbound .isFailedNode .response none [0x01]) (by decide), .acknowledge]
    [[0xAA, 0x01, 0x04, 0x01], [0x62, 0x01, 0x99, 0x06]] (by decide)).1

end Stream

end ZWaveGateway
