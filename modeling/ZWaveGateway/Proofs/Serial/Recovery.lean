import ZWaveGateway.Proofs.Serial.Reading

/-!
# Recovering from damage

Bytes can be changed on the line, and a frame can be cut off. Neither reaches further than it must.

Behind the start byte and the length byte of a frame come its direction, its class, its payload and
its checksum. If these are changed, the checksum is off by the exclusive or of all the differences
(`ZWaveGateway.Wire.difference`), so that a change is noticed unless its differences cancel out. It
is reported once, and reading goes on where the length byte says that the frame ends, whatever its
bytes have become (`ZWaveGateway.Stream.corruption_contained`).

A length byte that was itself damaged, or belongs to a frame that was cut off, makes the reader wait
for bytes that were never sent, and take later ones in their place. That ends with a pause of 256
bytes of noise: whatever waited before, the next frame is read (`ZWaveGateway.Stream.resynchronises`).
-/

namespace ZWaveGateway

namespace Wire

/-- The exclusive or of bytes. -/
def parity (bytes : List UInt8) : UInt8 :=
  bytes.foldl (· ^^^ ·) 0

/-- The exclusive or of all differences between the bytes sent and those that have arrived. -/
def difference (sent arrived : List UInt8) : UInt8 :=
  parity (sent.zipWith (· ^^^ ·) arrived)

variable {sent arrived : List UInt8}

theorem parity_cons (byte : UInt8) (bytes : List UInt8) :
    parity (byte :: bytes) = byte ^^^ parity bytes := by
  rw [parity, List.foldl_cons, UInt8.xor_comm, foldl_xor, parity]

theorem parity_concat (bytes : List UInt8) (byte : UInt8) :
    parity (bytes ++ [byte]) = parity bytes ^^^ byte := by
  rw [parity, List.foldl_append, List.foldl_cons, List.foldl_nil, parity]

theorem checksum_eq (bytes : List UInt8) : checksum bytes = 0xFF ^^^ parity bytes :=
  foldl_xor 0xFF 0 bytes

theorem difference_cons (first second : UInt8) (sent arrived : List UInt8) :
    difference (first :: sent) (second :: arrived) =
      (first ^^^ second) ^^^ difference sent arrived :=
  parity_cons ..

theorem difference_eq (whole : arrived.length = sent.length) :
    difference sent arrived = parity sent ^^^ parity arrived := by
  induction sent generalizing arrived with
  | nil =>
      rw [List.length_eq_zero_iff.mp whole]
      rfl
  | cons first sent ih =>
      cases arrived with
      | nil => cases whole
      | cons second arrived =>
          rw [difference_cons, ih (Nat.succ.inj whole), parity_cons, parity_cons]
          ac_rfl

/-- Where one byte is changed, its own difference is the only one. -/
theorem difference_set {position : Nat} (inside : position < sent.length) (byte : UInt8) :
    difference sent (sent.set position byte) = sent[position] ^^^ byte := by
  induction sent generalizing position with
  | nil => cases inside
  | cons first rest ih =>
      cases position with
      | zero =>
          rw [List.set_cons_zero, difference_cons, difference_eq rfl, UInt8.xor_self,
            UInt8.xor_zero, List.getElem_cons_zero]
      | succ position =>
          rw [List.set_cons_succ, difference_cons, ih (Nat.lt_of_succ_lt_succ inside),
            UInt8.xor_self, UInt8.zero_xor, List.getElem_cons_succ]

/-- What arrives misses its checksum by the exclusive or of all differences. -/
theorem checksum_xor {length checksum : UInt8} {data : List UInt8}
    (whole : arrived.length = data.length) :
    Wire.checksum (length :: arrived) ^^^ checksum =
      difference (data ++ [Wire.checksum (length :: data)]) (arrived ++ [checksum]) := by
  -- The parity of what was sent does not depend on the data, which the checksum cancels.
  have closed : parity data ^^^ Wire.checksum (length :: data) = 0xFF ^^^ length := by
    have commuted : parity data ^^^ (0xFF ^^^ (length ^^^ parity data)) =
        (parity data ^^^ parity data) ^^^ (0xFF ^^^ length) := by ac_rfl
    rw [checksum_eq, parity_cons, commuted, UInt8.xor_self, UInt8.zero_xor]
  rw [difference_eq (by simp only [List.length_append, whole, List.length_singleton]),
    parity_concat, parity_concat, closed, checksum_eq, parity_cons]
  ac_rfl

end Wire

namespace Stream

/-! ## Corrupt frames -/

variable {left noise : List UInt8} {frame : Frame}

/-- A block that has been changed, with a checksum that does not make up for it, is read as damaged
where it stands. -/
theorem next_corrupted {data arrived : List UInt8} {checksum : UInt8} (least : 2 ≤ data.length)
    (most : data.length ≤ Wire.maxFrameData) (whole : arrived.length = data.length)
    (differs : Wire.difference
      (data ++ [Wire.checksum (UInt8.ofNat (data.length + 1) :: data)]) (arrived ++ [checksum]) ≠ 0)
    (rest : List UInt8) :
    next (Wire.startOfFrame :: UInt8.ofNat (data.length + 1) :: (arrived ++ [checksum] ++ rest)) =
      (some (.error (.badChecksum (Wire.checksum (UInt8.ofNat (data.length + 1) :: arrived))
        checksum)), rest) := by
  rw [← Wire.checksum_xor whole] at differs
  have wrong : checksum ≠ Wire.checksum (UInt8.ofNat (data.length + 1) :: arrived) := by
    rintro rfl
    exact differs UInt8.xor_self
  have counted : (UInt8.ofNat (data.length + 1)).toNat = arrived.length + 1 := by
    rw [Wire.toNat_length most, whole]
  rw [List.append_assoc]
  exact next_damaged (leastLength_le least most) counted wrong rest

/-- **Corruption is noticed and contained.** Whatever becomes of the bytes behind the length byte of a
frame, if their differences do not cancel out, then a wrong checksum is reported, the bytes behind
the frame are left, and they are read as if they stood alone. The differences do not cancel out if
exactly one byte was changed. -/
theorem corruption_contained (frame : Frame) (fits : frame.toSerial.length ≤ Wire.maxFrameData) :
    ∃ length sent, Wire.encode frame = .ok (Wire.startOfFrame :: length :: sent) ∧
      (∀ arrived rest, arrived.length = sent.length → Wire.difference sent arrived ≠ 0 →
        ∃ expected actual, expected ^^^ actual = Wire.difference sent arrived ∧
          next (Wire.startOfFrame :: length :: (arrived ++ rest)) =
            (some (.error (.badChecksum expected actual)), rest) ∧
          drain (Wire.startOfFrame :: length :: (arrived ++ rest)) =
            (.error (.badChecksum expected actual) :: (drain rest).1, (drain rest).2)) ∧
      ∀ position (inside : position < sent.length) (byte : UInt8), byte ≠ sent[position] →
        Wire.difference sent (sent.set position byte) ≠ 0 := by
  refine ⟨_, _, Wire.encode_of_le fits, ?_, ?_⟩
  · intro arrived rest whole differs
    rcases List.eq_nil_or_concat arrived with rfl | ⟨data, checksum, rfl⟩
    · cases whole
    rw [List.concat_eq_append] at whole differs ⊢
    rw [List.length_append, List.length_append] at whole
    have same := Nat.add_right_cancel whole
    have found := next_corrupted (Nat.le_add_left 2 _) fits same differs rest
    exact ⟨_, checksum, Wire.checksum_xor same, found, drain_of_next found⟩
  · intro position inside byte changed
    rw [Wire.difference_set inside, Ne, UInt8.xor_eq_zero_iff]
    exact changed.symm

/-- The class byte of a response becomes a start byte, and its payload an acknowledgement. -/
theorem corruption_contained_of_start_byte :
    ∃ expected actual,
      next [0x01, 0x04, 0x01, 0x01, 0x06, 0x99, 0x15] =
        (some (.error (.badChecksum expected actual)), [0x15]) := by
  obtain ⟨length, sent, written, contained, -⟩ := corruption_contained
    (Frame.inbound .isFailedNode .response none [0x01]) (by decide)
  have bytes : Wire.encode (Frame.inbound .isFailedNode .response none [0x01]) =
      .ok [0x01, 0x04, 0x01, 0x62, 0x01, 0x99] := rfl
  cases bytes.symm.trans written
  obtain ⟨expected, actual, -, found, -⟩ :=
    contained [0x01, 0x01, 0x06, 0x99] [0x15] (by decide) (by decide)
  exact ⟨expected, actual, found⟩

/-! ## After a cut -/

/-- What waits does not begin in noise. -/
theorem Waiting.eq_nil_of_quiet (waiting : Waiting left)
    (quiet : ∀ byte ∈ left, isNoise byte = true) : left = [] := by
  cases waiting with
  | nothing => rfl
  | start => cases quiet _ List.mem_cons_self
  | frame room missing => cases quiet _ List.mem_cons_self

/-- After as much noise as a frame can be long, nothing waits any more. -/
theorem nothing_waits (quiet : ∀ byte ∈ noise, isNoise byte = true) (long : 256 ≤ noise.length)
    (heard : List UInt8) : (drain (heard ++ noise)).2 = [] := by
  have waiting := waiting_drain (heard ++ noise)
  have last := (drain_suffix (heard ++ noise)).1
  generalize (drain (heard ++ noise)).2 = left at waiting last
  -- What waits are the last bytes of all, and too few of them to reach beyond the noise.
  have inside : left <:+ noise := by
    rcases List.suffix_or_suffix_of_suffix last (List.suffix_append heard noise) with shorter | longer
    · exact shorter
    · obtain rfl := longer.eq_of_length_le (Nat.le_trans waiting.length_le long)
      exact List.suffix_rfl
  exact waiting.eq_nil_of_quiet fun byte member => quiet byte (inside.subset member)

/-- One byte less may not be enough: behind a start byte on its own, the start byte of the next frame
is still taken for a checksum. -/
theorem next_short_pause (rest : List UInt8) :
    next (Wire.startOfFrame :: (List.replicate 255 0xFF ++ Wire.startOfFrame :: rest)) =
      (some (.error (.badChecksum 0x00 Wire.startOfFrame)), rest) := by
  have checksum : Wire.checksum (0xFF :: List.replicate 254 0xFF) = 0x00 := by decide +kernel
  have wrong : Wire.startOfFrame ≠ Wire.checksum (0xFF :: List.replicate 254 0xFF) := by
    rw [checksum]
    decide
  have counted : (0xFF : UInt8).toNat = (List.replicate 254 (0xFF : UInt8)).length + 1 := by
    rw [List.length_replicate]
    rfl
  rw [List.replicate_succ, List.cons_append, next_damaged (by decide) counted wrong, checksum]

/-- **The reader finds its place again.** Whatever it has read before, and whatever bytes it has been
left waiting with, after 256 bytes of noise a frame is read as itself, behind whatever may have been
read of the bytes before it, and nothing is left waiting; however noise and frame are cut. -/
theorem resynchronises (heard : List (List UInt8)) (noise : List UInt8)
    (quiet : ∀ byte ∈ noise, isNoise byte = true) (long : noise.length = 256) (frame : Frame)
    (fits : frame.toSerial.length ≤ Wire.maxFrameData) :
    ∃ bytes arrived, Wire.encode frame = .ok bytes ∧
      Frame.ofSerial frame.toSerial = .ok arrived ∧
      ∀ chunks, chunks.flatten = noise ++ bytes →
        ∃ earlier, drainChunks (drainChunks [] heard).2 chunks =
          (earlier ++ [.ok (.frame arrived)], []) := by
  refine ⟨_, _, Wire.encode_of_le fits, frame.ofSerial_toSerial, fun chunks cut => ?_⟩
  have waiting : Waiting (drainChunks [] heard).2 := by
    rw [drainChunks_eq_drain .nothing]
    exact waiting_drain _
  generalize (drainChunks [] heard).2 = left at waiting
  have read := drain_of_next (next_frame fits [])
  rw [List.append_nil, drain_of_waiting .nothing] at read
  refine ⟨(drain (left ++ noise)).1, ?_⟩
  rw [drainChunks_eq_drain waiting, cut, ← List.append_assoc, drain_append,
    nothing_waits quiet (Nat.le_of_eq long.symm), List.nil_append, read]
  rfl

/-- A start byte waits, and the first byte of the noise is taken for the greatest length. -/
theorem resynchronises_after_lone_start :
    ∃ bytes, Wire.encode (Frame.inbound .isFailedNode .response none [0x01]) = .ok bytes ∧
      ∃ earlier, drainChunks (drainChunks [] [[0x01]]).2 [List.replicate 256 0xFF, bytes] =
        (earlier ++ [.ok (.frame (Frame.inbound .isFailedNode .response none [0x01]))], []) := by
  obtain ⟨bytes, arrived, written, same, read⟩ := resynchronises [[0x01]] (List.replicate 256 0xFF)
    (fun byte member => List.eq_of_mem_replicate member ▸ rfl) List.length_replicate
    (Frame.inbound .isFailedNode .response none [0x01]) (by decide)
  cases same
  exact ⟨bytes, written, read _ (congrArg (_ ++ ·) (List.append_nil bytes))⟩

end Stream

end ZWaveGateway
