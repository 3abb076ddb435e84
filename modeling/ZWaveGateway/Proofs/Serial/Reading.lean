import ZWaveGateway.Proofs.Serial.RoundTrip

/-!
# What a reading takes off the buffer

A reading parts the buffer in three: the noise in front, which is dropped; the bytes that what it
finds is made of; and the bytes it leaves. Which bytes are taken goes with what is found
(`ZWaveGateway.Stream.Takes`): a single byte for an acknowledgement, a refusal or a cancellation, the
start byte and the length byte for a length that announces too little, and one whole frame for
everything else. No byte is lost between the parts (`ZWaveGateway.Stream.reading_parts_buffer`).

A frame that is found is written as the very bytes it was read from, so that there is only one way to
write a frame that is accepted.
-/

namespace ZWaveGateway

namespace Frame

/-- What was announced as a frame and is none has an unknown direction, or else an unknown class. -/
theorem error_of_ofSerial {data : List UInt8} {error : FrameError} (least : 2 ≤ data.length)
    (strange : ofSerial data = .error error) :
    ∃ direction code payload, data = direction :: code :: payload ∧
      (FrameType.ofCode? direction = none ∧ error = .unknownFrameType direction ∨
        ∃ frameType : FrameType, direction = frameType.code ∧
          MessageClass.ofCode? code = none ∧ error = .unknownMessageClass code) := by
  match data with
  | direction :: code :: payload =>
      refine ⟨direction, code, payload, rfl, ?_⟩
      rw [ofSerial] at strange
      split at strange
      · next unknown =>
          cases strange
          exact .inl ⟨unknown, rfl⟩
      · next frameType known =>
          split at strange
          · next unknown =>
              cases strange
              exact .inr ⟨frameType, (FrameType.ofCode?_eq_some_iff.mp known).symm, unknown, rfl⟩
          · cases strange
  | [_] | [] => simp at least

end Frame

namespace Stream

variable {buffer taken left : List UInt8} {found : Option (Except FrameError Item)}

/-! ## Whole frames -/

/-- A start byte, a length byte that leaves room for direction, class and checksum, and as many bytes
as it announces. -/
inductive Whole : List UInt8 → Prop where
  | intro {length : UInt8} {body : List UInt8} (room : leastLength ≤ length)
      (counted : body.length = length.toNat) : Whole (Wire.startOfFrame :: length :: body)

theorem whole_wrap_iff {data : List UInt8} :
    Whole (Wire.wrap data) ↔ 2 ≤ data.length ∧ data.length ≤ Wire.maxFrameData := by
  have size (checksum : UInt8) : (data ++ [checksum]).length = data.length + 1 :=
    List.length_append
  constructor
  · rintro ⟨room, counted⟩
    have least : 3 ≤ (UInt8.ofNat (data.length + 1)).toNat := UInt8.le_iff_toNat_le.mp room
    have most := (UInt8.ofNat (data.length + 1)).toNat_lt
    rw [size] at counted
    unfold Wire.maxFrameData
    omega
  · rintro ⟨least, most⟩
    exact .intro (leastLength_le least most) ((size _).trans (Wire.toNat_length most).symm)

/-- A frame with a wrong checksum is read as damaged. -/
theorem next_damaged {length checksum : UInt8} {data : List UInt8} (room : leastLength ≤ length)
    (counted : length.toNat = data.length + 1) (wrong : checksum ≠ Wire.checksum (length :: data))
    (rest : List UInt8) :
    next (Wire.startOfFrame :: length :: (data ++ checksum :: rest)) =
      (some (.error (.badChecksum (Wire.checksum (length :: data)) checksum)), rest) := by
  have size : (data ++ [checksum]).length = data.length + 1 := List.length_append
  have whole : length.toNat ≤ (data ++ [checksum] ++ rest).length := by
    rw [counted, List.length_append, size]
    exact Nat.le_add_right _ _
  rw [List.append_cons, next_startOfFrame, nextFrame_of_whole room whole, counted,
    List.take_left' size, List.drop_left' size, readBody, List.dropLast_concat,
    List.getLastD_concat, if_pos wrong.symm]

/-- The bytes that a length byte announces are a block as it is written on the line, or a block with
a wrong checksum. -/
theorem announced_cases {length : UInt8} {body : List UInt8} (room : leastLength ≤ length)
    (whole : length.toNat ≤ body.length) :
    ∃ data rest, 2 ≤ data.length ∧ data.length ≤ Wire.maxFrameData ∧
      (Wire.startOfFrame :: length :: body = Wire.wrap data ++ rest ∨
        ∃ checksum, checksum ≠ Wire.checksum (length :: data) ∧
          length.toNat = data.length + 1 ∧ body = data ++ checksum :: rest) := by
  have least : 3 ≤ length.toNat := UInt8.le_iff_toNat_le.mp room
  have most := length.toNat_lt
  have split := List.take_append_drop (length.toNat - 1) body
  have size : (body.take (length.toNat - 1)).length = length.toNat - 1 := by
    rw [List.length_take]
    omega
  cases behind : body.drop (length.toNat - 1) with
  | nil =>
      have short := List.drop_eq_nil_iff.mp behind
      omega
  | cons checksum rest =>
      rw [behind] at split
      have counted : length.toNat = (body.take (length.toNat - 1)).length + 1 := by omega
      generalize body.take (length.toNat - 1) = data at split counted
      subst split
      refine ⟨data, rest, by omega, by unfold Wire.maxFrameData; omega, ?_⟩
      by_cases right : checksum = Wire.checksum (length :: data)
      · have announced : UInt8.ofNat (data.length + 1) = length := by
          rw [← counted, UInt8.ofNat_toNat]
        left
        rw [Wire.wrap, announced, right]
        simp only [List.cons_append, List.append_assoc, List.nil_append]
      · exact .inr ⟨checksum, right, counted, rfl⟩

/-! ## One reading -/

/-- What a reading takes off the buffer behind the noise, for what it finds, and what it leaves.

A frame that is found was written as the bytes taken, and arrives as itself. Damaged and unknown
frames are taken whole. Where nothing is found nothing is taken, and what is left waits. -/
inductive Takes : Option (Except FrameError Item) → List UInt8 → List UInt8 → Prop where
  | nothing {left : List UInt8} (waiting : Waiting left) : Takes none [] left
  | acknowledge {left : List UInt8} : Takes (some (.ok .acknowledge)) [Wire.acknowledge] left
  | refuse {left : List UInt8} : Takes (some (.ok .refuse)) [Wire.refuse] left
  | cancel {left : List UInt8} : Takes (some (.ok .cancel)) [Wire.cancel] left
  | frame {frame : Frame} {bytes left : List UInt8} (written : Wire.encode frame = .ok bytes)
      (arrives : Frame.ofSerial frame.toSerial = .ok frame) :
      Takes (some (.ok (.frame frame))) bytes left
  | badChecksum {length checksum : UInt8} {data left : List UInt8}
      (whole : Whole (Wire.startOfFrame :: length :: (data ++ [checksum])))
      (wrong : checksum ≠ Wire.checksum (length :: data)) :
      Takes (some (.error (.badChecksum (Wire.checksum (length :: data)) checksum)))
        (Wire.startOfFrame :: length :: (data ++ [checksum])) left
  | unknownFrameType {direction code : UInt8} {payload left : List UInt8}
      (whole : Whole (Wire.wrap (direction :: code :: payload)))
      (unknown : FrameType.ofCode? direction = none) :
      Takes (some (.error (.unknownFrameType direction)))
        (Wire.wrap (direction :: code :: payload)) left
  | unknownMessageClass {frameType : FrameType} {code : UInt8} {payload left : List UInt8}
      (whole : Whole (Wire.wrap (frameType.code :: code :: payload)))
      (unknown : MessageClass.ofCode? code = none) :
      Takes (some (.error (.unknownMessageClass code)))
        (Wire.wrap (frameType.code :: code :: payload)) left
  | invalidLength {length : UInt8} {left : List UInt8} (short : length < leastLength) :
      Takes (some (.error (.invalidLength length))) [Wire.startOfFrame, length] left

/-- What the bytes are taken for is what they are read as, whatever is left behind them. -/
theorem Takes.next (takes : Takes found taken left) : next (taken ++ left) = (found, left) := by
  cases takes with
  | nothing waiting => exact next_of_waiting waiting
  | acknowledge => exact next_acknowledge left
  | refuse => exact next_refuse left
  | cancel => exact next_cancel left
  | @frame frame _ _ written arrives =>
      unfold Wire.encode at written
      split at written
      · cases written
      · next fits =>
          cases written
          rw [next_wrap (Nat.le_add_left 2 _) (Nat.not_lt.mp fits), arrives]
          rfl
  | @badChecksum length checksum data left whole wrong =>
      cases whole with
      | intro room counted =>
          have split : Wire.startOfFrame :: length :: (data ++ [checksum]) ++ left =
              Wire.startOfFrame :: length :: (data ++ checksum :: left) := by
            simp only [List.cons_append, List.append_assoc, List.nil_append]
          rw [split]
          exact next_damaged room (counted.symm.trans List.length_append) wrong left
  | unknownFrameType whole unknown =>
      obtain ⟨least, most⟩ := whole_wrap_iff.mp whole
      rw [next_wrap least most, Frame.ofSerial, unknown]
      rfl
  | unknownMessageClass whole unknown =>
      obtain ⟨least, most⟩ := whole_wrap_iff.mp whole
      rw [next_wrap least most, Frame.ofSerial, FrameType.ofCode?_code]
      simp only [unknown]
      rfl
  | invalidLength short =>
      exact (next_startOfFrame _).trans (nextFrame_of_short short left)

private theorem exists_takes_nextFrame (rest : List UInt8) :
    ∃ taken, Wire.startOfFrame :: rest = taken ++ (nextFrame rest).2 ∧
      Takes (nextFrame rest).1 taken (nextFrame rest).2 := by
  cases rest with
  | nil => exact ⟨[], rfl, .nothing .start⟩
  | cons length body =>
      by_cases short : length < leastLength
      · rw [nextFrame_of_short short]
        exact ⟨_, rfl, .invalidLength short⟩
      have room := UInt8.not_lt.mp short
      by_cases missing : body.length < length.toNat
      · rw [nextFrame_of_missing room missing]
        exact ⟨[], rfl, .nothing (.frame room missing)⟩
      obtain ⟨data, rest, least, most, written | ⟨checksum, wrong, counted, rfl⟩⟩ :=
        announced_cases room (Nat.not_lt.mp missing)
      · have whole := whole_wrap_iff.mpr ⟨least, most⟩
        rw [← next_startOfFrame, written, next_wrap least most]
        refine ⟨_, rfl, ?_⟩
        cases content : Frame.ofSerial data with
        | ok frame =>
            have same := Frame.toSerial_of_ofSerial content
            refine .frame ?_ (same ▸ content)
            rw [Wire.encode_of_le (same ▸ most), same]
        | error error =>
            obtain ⟨direction, code, payload, rfl, ⟨unknown, rfl⟩ | ⟨frameType, rfl, unknown, rfl⟩⟩ :=
              Frame.error_of_ofSerial least content
            · exact .unknownFrameType whole unknown
            · exact .unknownMessageClass whole unknown
      · rw [← next_startOfFrame, next_damaged room counted wrong]
        refine ⟨Wire.startOfFrame :: length :: (data ++ [checksum]), ?_, .badChecksum ?_ wrong⟩
        · simp only [List.cons_append, List.append_assoc, List.nil_append]
        · exact .intro room (List.length_append.trans counted.symm)

theorem exists_takes (buffer : List UInt8) :
    ∃ taken, buffer = buffer.takeWhile isNoise ++ taken ++ (next buffer).2 ∧
      Takes (next buffer).1 taken (next buffer).2 := by
  induction buffer with
  | nil => exact ⟨[], rfl, .nothing .nothing⟩
  | cons first rest behind =>
      rcases isNoise_or first with quiet | rfl | rfl | rfl | rfl
      · obtain ⟨taken, parts, takes⟩ := behind
        rw [next_noise quiet, List.takeWhile_cons_of_pos quiet]
        exact ⟨taken, congrArg (first :: ·) parts, takes⟩
      · rw [next_startOfFrame, List.takeWhile_cons_of_neg (by decide)]
        exact exists_takes_nextFrame rest
      · rw [next_acknowledge, List.takeWhile_cons_of_neg (by decide)]
        exact ⟨_, rfl, .acknowledge⟩
      · rw [next_refuse, List.takeWhile_cons_of_neg (by decide)]
        exact ⟨_, rfl, .refuse⟩
      · rw [next_cancel, List.takeWhile_cons_of_neg (by decide)]
        exact ⟨_, rfl, .cancel⟩

/-- What is found is whatever the bytes can be taken for: there is nothing else they can be. -/
theorem Takes.found_iff {other : Option (Except FrameError Item)} (takes : Takes found taken left) :
    found = other ↔ Takes other taken left := by
  constructor
  · rintro rfl
    exact takes
  · intro again
    exact congrArg Prod.fst (takes.next.symm.trans again.next)

theorem takes_acknowledge_iff :
    Takes (some (.ok .acknowledge)) taken left ↔ taken = [Wire.acknowledge] := by
  constructor
  · rintro ⟨⟩
    rfl
  · rintro rfl
    exact .acknowledge

theorem takes_refuse_iff : Takes (some (.ok .refuse)) taken left ↔ taken = [Wire.refuse] := by
  constructor
  · rintro ⟨⟩
    rfl
  · rintro rfl
    exact .refuse

theorem takes_cancel_iff : Takes (some (.ok .cancel)) taken left ↔ taken = [Wire.cancel] := by
  constructor
  · rintro ⟨⟩
    rfl
  · rintro rfl
    exact .cancel

theorem takes_frame_iff {frame : Frame} :
    Takes (some (.ok (.frame frame))) taken left ↔
      Wire.encode frame = .ok taken ∧ Frame.ofSerial frame.toSerial = .ok frame := by
  constructor
  · intro takes
    cases takes with
    | frame written arrives => exact ⟨written, arrives⟩
  · rintro ⟨written, arrives⟩
    exact .frame written arrives

/-- **A reading parts the buffer without losing a byte.** In front is the noise, as far as it goes;
then come the bytes that are taken for what is found, as `Takes` says; and then the bytes that are
left. An acknowledgement, a refusal or a cancellation is found exactly where its byte is taken, and
a frame exactly where the bytes are taken that it is encoded as and it arrives as itself. -/
theorem reading_parts_buffer (buffer : List UInt8) :
    ∃ taken, buffer = buffer.takeWhile isNoise ++ taken ++ (next buffer).2 ∧
      Takes (next buffer).1 taken (next buffer).2 ∧
      ((next buffer).1 = some (.ok .acknowledge) ↔ taken = [Wire.acknowledge]) ∧
      ((next buffer).1 = some (.ok .refuse) ↔ taken = [Wire.refuse]) ∧
      ((next buffer).1 = some (.ok .cancel) ↔ taken = [Wire.cancel]) ∧
      ∀ frame, (next buffer).1 = some (.ok (.frame frame)) ↔
        Wire.encode frame = .ok taken ∧ Frame.ofSerial frame.toSerial = .ok frame := by
  obtain ⟨taken, parts, takes⟩ := exists_takes buffer
  refine ⟨taken, parts, takes, ?_, ?_, ?_, fun frame => ?_⟩
  · exact takes.found_iff.trans takes_acknowledge_iff
  · exact takes.found_iff.trans takes_refuse_iff
  · exact takes.found_iff.trans takes_cancel_iff
  · exact takes.found_iff.trans takes_frame_iff

end Stream

end ZWaveGateway
