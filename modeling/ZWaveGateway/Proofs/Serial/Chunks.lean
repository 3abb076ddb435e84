import ZWaveGateway.Serial.Stream

/-!
# Reading a stream in chunks

The controller's bytes come in chunks that end anywhere: before a length byte, inside a payload,
in the middle of noise. Each chunk is put behind the bytes that wait, and all that is complete is
taken off. What comes of it depends on the bytes alone and not on the cuts
(`ZWaveGateway.Stream.chunking_immaterial`).

The reason is that a reading is settled by the bytes it takes. An item that was found stays the
same item when more bytes come in behind it, and where none was found, only noise was dropped: what
waits is nothing, or a frame that has begun (`ZWaveGateway.Stream.Waiting`).
-/

namespace ZWaveGateway.Stream

variable {buffer rest left : List UInt8} {item : Except FrameError Item}

/-- Bytes that wait for more: none, a start byte, or a start byte and a length byte with fewer bytes
behind them than the length announces. -/
inductive Waiting : List UInt8 → Prop where
  | nothing : Waiting []
  | start : Waiting [Wire.startOfFrame]
  | frame {length : UInt8} {rest : List UInt8} (room : leastLength ≤ length)
      (missing : rest.length < length.toNat) : Waiting (Wire.startOfFrame :: length :: rest)

theorem next_of_waiting (waiting : Waiting left) : next left = (none, left) := by
  cases waiting with
  | nothing => rfl
  | start => exact next_startOfFrame []
  | frame room missing =>
      rw [next_startOfFrame]
      exact nextFrame_of_missing room missing

theorem Waiting.length_le (waiting : Waiting left) : left.length ≤ 256 := by
  cases waiting with
  | nothing => exact Nat.zero_le _
  | start => decide
  | @frame length rest room missing =>
      have := length.toNat_lt
      simp only [List.length_cons]
      omega

/-! ## A single reading -/

private theorem nextFrame_cases (rest : List UInt8) :
    (nextFrame rest = (none, Wire.startOfFrame :: rest) ∧
        Waiting (Wire.startOfFrame :: rest)) ∨
      ∃ item left, left <:+ rest ∧
        ∀ more, nextFrame (rest ++ more) = (some item, left ++ more) := by
  cases rest with
  | nil => exact .inl ⟨rfl, .start⟩
  | cons length body =>
      by_cases short : length < leastLength
      · exact .inr ⟨_, body, List.suffix_cons length body,
          fun more => nextFrame_of_short short (body ++ more)⟩
      have room := UInt8.not_lt.mp short
      by_cases missing : body.length < length.toNat
      · exact .inl ⟨nextFrame_of_missing room missing, .frame room missing⟩
      -- The frame is complete, so that what comes behind it is not looked at.
      have whole := Nat.not_lt.mp missing
      refine .inr ⟨readBody length (body.take length.toNat), body.drop length.toNat,
        (List.drop_suffix _ body).trans (List.suffix_cons length body), fun more => ?_⟩
      have longer : length.toNat ≤ (body ++ more).length := by
        rw [List.length_append]
        exact Nat.le_add_right_of_le whole
      rw [List.cons_append, nextFrame_of_whole room longer, List.take_append_of_le_length whole,
        List.drop_append_of_le_length whole]

/-- **A reading is settled by the bytes it takes.** Either the buffer has an item at its front,
and has it whatever comes in behind; or it has none, and goes on as the bytes that wait do. -/
theorem next_cases (buffer : List UInt8) :
    (∃ left, Waiting left ∧ left <:+ buffer ∧
        ∀ more, next (buffer ++ more) = next (left ++ more)) ∨
      ∃ item left, left <:+ buffer ∧
        ∀ more, next (buffer ++ more) = (some item, left ++ more) := by
  induction buffer with
  | nil => exact .inl ⟨[], .nothing, List.suffix_rfl, fun more => rfl⟩
  | cons first rest settled =>
      have behind : rest <:+ first :: rest := List.suffix_cons first rest
      simp only [List.cons_append]
      rcases isNoise_or first with quiet | rfl | rfl | rfl | rfl
      · simp only [next_noise quiet]
        rcases settled with ⟨left, waiting, part, same⟩ | ⟨item, left, part, found⟩
        · exact .inl ⟨left, waiting, part.trans behind, same⟩
        · exact .inr ⟨item, left, part.trans behind, found⟩
      · simp only [next_startOfFrame]
        rcases nextFrame_cases rest with ⟨-, waiting⟩ | ⟨item, left, part, found⟩
        · exact .inl ⟨_, waiting, List.suffix_rfl,
            fun more => (next_startOfFrame (rest ++ more)).symm⟩
        · exact .inr ⟨item, left, part.trans behind, found⟩
      · exact .inr ⟨_, rest, behind, fun more => next_acknowledge (rest ++ more)⟩
      · exact .inr ⟨_, rest, behind, fun more => next_refuse (rest ++ more)⟩
      · exact .inr ⟨_, rest, behind, fun more => next_cancel (rest ++ more)⟩

/-! ## All readings of a buffer -/

theorem drain_congr {one other : List UInt8} (same : next one = next other) :
    drain one = drain other := by
  cases found : next other with
  | mk item left =>
      rw [found] at same
      cases item with
      | none => rw [drain_of_none found, drain_of_none same]
      | some item => rw [drain_of_next found, drain_of_next same]

theorem drain_of_waiting (waiting : Waiting left) : drain left = ([], left) :=
  drain_of_none (next_of_waiting waiting)

/-- What holds of every buffer that has no item, and of a buffer with an item at its front if it
holds of the bytes behind that item, holds of all buffers. -/
@[elab_as_elim]
theorem drain_induction {motive : List UInt8 → Prop}
    (waits : ∀ buffer left, Waiting left → left <:+ buffer → drain buffer = ([], left) →
      (∀ more, drain (buffer ++ more) = drain (left ++ more)) → motive buffer)
    (reads : ∀ buffer item left, left <:+ buffer → left.length < buffer.length →
      drain buffer = (item :: (drain left).1, (drain left).2) →
      (∀ more, drain (buffer ++ more) =
        (item :: (drain (left ++ more)).1, (drain (left ++ more)).2)) →
      motive left → motive buffer)
    (buffer : List UInt8) : motive buffer := by
  rcases next_cases buffer with ⟨left, waiting, part, same⟩ | ⟨item, left, part, found⟩
  · have ended : next buffer = (none, left) := by
      simpa only [List.append_nil, next_of_waiting waiting] using same []
    exact waits buffer left waiting part (drain_of_none ended) fun more => drain_congr (same more)
  · have first : next buffer = (some item, left) := by
      simpa only [List.append_nil] using found []
    have shorter := next_length_lt first
    exact reads buffer item left part shorter (drain_of_next first)
      (fun more => drain_of_next (found more)) (drain_induction waits reads left)
termination_by buffer.length

theorem waiting_drain (buffer : List UInt8) : Waiting (drain buffer).2 := by
  induction buffer using drain_induction with
  | waits buffer left waiting part ended same =>
      rw [ended]
      exact waiting
  | reads buffer item left part shorter first found waiting =>
      rw [first]
      exact waiting

/-- What waits when a buffer has been read stands for the buffer, whatever comes in behind. -/
theorem drain_append (buffer more : List UInt8) :
    drain (buffer ++ more) =
      ((drain buffer).1 ++ (drain ((drain buffer).2 ++ more)).1,
        (drain ((drain buffer).2 ++ more)).2) := by
  induction buffer using drain_induction with
  | waits buffer left waiting part ended same =>
      rw [ended, same]
      rfl
  | reads buffer item left part shorter first found later =>
      rw [first, found, later]
      rfl

/-- Each item takes a byte at least, and what waits are the last bytes. -/
theorem drain_suffix (buffer : List UInt8) :
    (drain buffer).2 <:+ buffer ∧
      (drain buffer).1.length + (drain buffer).2.length ≤ buffer.length := by
  induction buffer using drain_induction with
  | waits buffer left waiting part ended same =>
      rw [ended]
      exact ⟨part, (Nat.zero_add _).symm ▸ part.length_le⟩
  | reads buffer item left part shorter first found later =>
      rw [first]
      refine ⟨later.1.trans part, ?_⟩
      have := later.2
      simp only [List.length_cons]
      omega

/-! ## Chunks -/

/-- Read chunks that come in behind the bytes that wait: each is put behind them, and all that is
complete is taken off. -/
def drainChunks (buffer : List UInt8) :
    List (List UInt8) → List (Except FrameError Item) × List UInt8
  | [] => ([], buffer)
  | chunk :: later =>
      let (items, left) := drain (buffer ++ chunk)
      let (more, waiting) := drainChunks left later
      (items ++ more, waiting)

theorem drainChunks_eq_drain (waiting : Waiting buffer) (chunks : List (List UInt8)) :
    drainChunks buffer chunks = drain (buffer ++ chunks.flatten) := by
  induction chunks generalizing buffer with
  | nil => rw [List.flatten_nil, List.append_nil, drain_of_waiting waiting, drainChunks]
  | cons chunk later same =>
      rw [List.flatten_cons, ← List.append_assoc, drain_append, ← same (waiting_drain _)]
      rfl

/-- **Chunks do not matter.** However a stream is cut, reading it chunk by chunk finds what reading
it at once finds, and leaves the same bytes waiting: the last ones of the stream, which are none or
the beginning of a frame, of at most 256 bytes. Every reading that finds something takes a byte off
the buffer, so that a buffer is read in no more readings than it has bytes. -/
theorem chunking_immaterial (chunks : List (List UInt8)) :
    drainChunks [] chunks = drain chunks.flatten ∧
    (drainChunks [] chunks).2 <:+ chunks.flatten ∧
    Waiting (drainChunks [] chunks).2 ∧ (drainChunks [] chunks).2.length ≤ 256 ∧
    (∀ buffer item left, next buffer = (some item, left) → left.length < buffer.length) ∧
    ∀ buffer, next (drain buffer).2 = (none, (drain buffer).2) ∧
      (drain buffer).1.length + (drain buffer).2.length ≤ buffer.length := by
  have same : drainChunks [] chunks = drain chunks.flatten := drainChunks_eq_drain .nothing chunks
  have waiting := waiting_drain chunks.flatten
  rw [same]
  refine ⟨rfl, (drain_suffix _).1, waiting, waiting.length_le, ?_, fun buffer => ⟨?_, ?_⟩⟩
  · exact fun buffer item left => next_length_lt
  · exact next_of_waiting (waiting_drain buffer)
  · exact (drain_suffix buffer).2

end ZWaveGateway.Stream
