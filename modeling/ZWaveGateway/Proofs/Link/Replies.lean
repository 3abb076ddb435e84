import ZWaveGateway.Gateway.Operation
import ZWaveGateway.Proofs.Link.Session
import ZWaveGateway.Proofs.Serial.Reading

/-!
# What a byte stream calls for

Which replies a stream of bytes calls for, which frames it carries and which bytes it leaves waiting
is said here without regard to how it is read (`ZWaveGateway.Link.CallsFor`): the stream is taken
apart from its front, and what stands there decides. A stream calls for one thing only, and that is
what reading it finds (`ZWaveGateway.Link.callsFor_iff`).

However the stream is cut, and whatever is written, submitted and timed out in between, the link
replies as the stream calls for and hands its frames to the tracker, as long as the frames written
fit and the tracker returns (`ZWaveGateway.Link.Session.answers_stream`).
-/

namespace ZWaveGateway

namespace Link

open ZWaveGateway.Stream

variable {stream replies left : List UInt8} {frames : List Frame}

/-- The stream calls for these replies, carries these frames, and leaves these bytes waiting.

A byte that starts no frame calls for nothing. A length that announces too little is refused, and
so is a frame with a wrong checksum; every other whole frame is accepted, and handed on if its
direction and class are known. -/
inductive CallsFor : List UInt8 → List UInt8 → List Frame → List UInt8 → Prop where
  | waits {left : List UInt8} (waiting : Waiting left) : CallsFor left [] [] left
  | quiet {byte : UInt8} {stream replies left : List UInt8} {frames : List Frame}
      (other : byte ≠ Wire.startOfFrame) (behind : CallsFor stream replies frames left) :
      CallsFor (byte :: stream) replies frames left
  | short {length : UInt8} {stream replies left : List UInt8} {frames : List Frame}
      (short : length < leastLength) (behind : CallsFor stream replies frames left) :
      CallsFor (Wire.startOfFrame :: length :: stream) (Wire.refuse :: replies) frames left
  | damaged {length checksum : UInt8} {data stream replies left : List UInt8}
      {frames : List Frame} (room : leastLength ≤ length)
      (counted : length.toNat = data.length + 1)
      (wrong : checksum ≠ Wire.checksum (length :: data))
      (behind : CallsFor stream replies frames left) :
      CallsFor (Wire.startOfFrame :: length :: (data ++ checksum :: stream))
        (Wire.refuse :: replies) frames left
  | frame {frame : Frame} {data stream replies left : List UInt8} {frames : List Frame}
      (least : 2 ≤ data.length) (most : data.length ≤ Wire.maxFrameData)
      (known : Frame.ofSerial data = .ok frame) (behind : CallsFor stream replies frames left) :
      CallsFor (Wire.wrap data ++ stream) (Wire.acknowledge :: replies) (frame :: frames) left
  | unknown {error : FrameError} {data stream replies left : List UInt8} {frames : List Frame}
      (least : 2 ≤ data.length) (most : data.length ≤ Wire.maxFrameData)
      (strange : Frame.ofSerial data = .error error)
      (behind : CallsFor stream replies frames left) :
      CallsFor (Wire.wrap data ++ stream) (Wire.acknowledge :: replies) frames left

/-! ## Reading finds what the stream calls for -/

/-- A frame whose direction or class is unknown is not damaged. -/
theorem isCorruption_of_ofSerial {data : List UInt8} {error : FrameError}
    (least : 2 ≤ data.length) (strange : Frame.ofSerial data = .error error) :
    isCorruption error = false := by
  obtain ⟨direction, code, payload, -, ⟨-, rfl⟩ | ⟨frameType, -, -, rfl⟩⟩ :=
    Frame.error_of_ofSerial least strange
  · rfl
  · rfl

/-- What is found when an item is read, and the rest calls for the rest. -/
private theorem found_of_next {item : Except FrameError Item} {buffer rest : List UInt8}
    (found : next buffer = (some item, rest))
    (behind : (drain rest).1.flatMap reply = replies ∧ framesOf (drain rest).1 = frames ∧
      (drain rest).2 = left) :
    (drain buffer).1.flatMap reply = reply item ++ replies ∧
      framesOf (drain buffer).1 = (frame? item).toList ++ frames ∧ (drain buffer).2 = left := by
  obtain ⟨rfl, rfl, rfl⟩ := behind
  rw [drain_of_next found]
  refine ⟨List.flatMap_cons, ?_, rfl⟩
  cases kind : frame? item with
  | none => exact framesOf_cons_of_none kind _
  | some frame => exact framesOf_cons_of_some kind _

theorem CallsFor.found (calls : CallsFor stream replies frames left) :
    (drain stream).1.flatMap reply = replies ∧ framesOf (drain stream).1 = frames ∧
      (drain stream).2 = left := by
  induction calls with
  | waits waiting =>
      rw [drain_of_waiting waiting]
      exact ⟨rfl, rfl, rfl⟩
  | @quiet byte stream replies left frames other behind found =>
      rcases isNoise_or byte with quiet | rfl | rfl | rfl | rfl
      · rw [drain_congr (next_noise quiet stream)]
        exact found
      · exact (other rfl).elim
      · exact found_of_next (next_acknowledge stream) found
      · exact found_of_next (next_refuse stream) found
      · exact found_of_next (next_cancel stream) found
  | @short length stream replies left frames short behind found =>
      have read := nextFrame_of_short short stream
      rw [← next_startOfFrame] at read
      exact found_of_next read found
  | damaged room counted wrong behind found =>
      exact found_of_next (next_damaged room counted wrong _) found
  | @frame frame data stream replies left frames least most known behind found =>
      have read := next_wrap least most stream
      rw [known] at read
      exact found_of_next read found
  | @unknown error data stream replies left frames least most strange behind found =>
      have read := next_wrap least most stream
      rw [strange] at read
      have accepted : reply (.error error) = [Wire.acknowledge] := by
        rw [reply, isCorruption_of_ofSerial least strange]
        rfl
      have split := found_of_next read found
      rw [show reply ((Except.error error).map Item.frame) = _ from accepted] at split
      exact split

/-- Every stream calls for something. -/
theorem exists_callsFor (stream : List UInt8) :
    ∃ replies frames left, CallsFor stream replies frames left := by
  -- What stands in front is taken off, and what is behind it is shorter.
  match stream with
  | [] => exact ⟨_, _, _, .waits .nothing⟩
  | first :: rest =>
      by_cases starts : first = Wire.startOfFrame
      swap
      · obtain ⟨replies, frames, left, behind⟩ := exists_callsFor rest
        exact ⟨_, _, _, .quiet starts behind⟩
      subst starts
      match rest with
      | [] => exact ⟨_, _, _, .waits .start⟩
      | length :: body =>
          by_cases short : length < leastLength
          · obtain ⟨replies, frames, left, behind⟩ := exists_callsFor body
            exact ⟨_, _, _, .short short behind⟩
          have room := UInt8.not_lt.mp short
          by_cases missing : body.length < length.toNat
          · exact ⟨_, _, _, .waits (.frame room missing)⟩
          obtain ⟨data, rest, least, most, written | ⟨checksum, wrong, counted, rfl⟩⟩ :=
            announced_cases room (Nat.not_lt.mp missing)
          · have shorter : rest.length < body.length + 1 + 1 := by
              have := congrArg List.length written
              simp only [Wire.wrap, List.length_cons, List.length_append] at this
              omega
            obtain ⟨replies, frames, left, behind⟩ := exists_callsFor rest
            rw [written]
            cases content : Frame.ofSerial data with
            | ok frame => exact ⟨_, _, _, .frame least most content behind⟩
            | error error => exact ⟨_, _, _, .unknown least most content behind⟩
          · obtain ⟨replies, frames, left, behind⟩ := exists_callsFor rest
            exact ⟨_, _, _, .damaged room counted wrong behind⟩
termination_by stream.length

/-- **A stream calls for one thing only**, and that is what reading it finds. -/
theorem callsFor_iff :
    CallsFor stream replies frames left ↔
      (drain stream).1.flatMap reply = replies ∧ framesOf (drain stream).1 = frames ∧
        (drain stream).2 = left := by
  refine ⟨CallsFor.found, ?_⟩
  rintro ⟨rfl, rfl, rfl⟩
  obtain ⟨replies, frames, left, calls⟩ := exists_callsFor stream
  obtain ⟨rfl, rfl, rfl⟩ := calls.found
  exact calls

/-! ## Sessions -/

namespace Session

variable {timeout : Duration}

/-- The link runs, and has answered all that has come in. -/
structure Answering (heard : List UInt8) (session : Session) : Prop where
  running : session.link.status = .running
  replies : (drain heard).1.flatMap reply = session.replies
  frames : framesOf (drain heard).1 = session.history.heard
  left : (drain heard).2 = session.link.buffer

theorem Answering.read {heard : List UInt8} {session : Session}
    (answering : Answering heard session) (bytes : List UInt8)
    (returns : (session.turn (.read bytes)).history.Returns) :
    Answering (heard ++ bytes) (session.turn (.read bytes)) := by
  obtain ⟨running, replies, frames, left⟩ := answering
  rw [turn_read (isRunning_iff.mpr running) rfl] at returns ⊢
  obtain ⟨still, written, handed⟩ := takeIn_of_returns returns
  constructor
  · exact still
  · rw [drain_append, List.flatMap_append, replies, left]
    exact congrArg _ written.symm
  · rw [drain_append, framesOf, List.filterMap_append, ← framesOf, ← framesOf, frames, left]
    exact handed.symm
  · rw [drain_append, left]

/-- What concerns only the tracker, or writes a frame that fits, leaves the answers as they are. -/
private theorem Answering.of_same {heard : List UInt8} {session after : Session}
    (answering : Answering heard session) (running : after.link.status = session.link.status)
    (buffer : after.link.buffer = session.link.buffer) (replies : after.replies = session.replies)
    (frames : after.history.heard = session.history.heard) : Answering heard after where
  running := running.trans answering.running
  replies := answering.replies.trans replies.symm
  frames := answering.frames.trans frames.symm
  left := answering.left.trans buffer.symm

theorem answering (turns : List Turn) (fits : ∀ frame ∈ queued turns, Fits frame)
    (returns : (run timeout turns).history.Returns) :
    Answering (incoming turns) (run timeout turns) := by
  induction turns using List.reverseRecOn with
  | nil =>
      have nothing : drain (incoming []) = ([], []) := drain_of_waiting .nothing
      constructor
      · rfl
      all_goals
        rw [nothing]
        rfl
  | append_singleton turns next before =>
      rw [run_concat] at returns ⊢
      rw [queued_concat] at fits
      have earlier := before (fun frame member => fits frame (List.mem_append_left _ member))
        (returns.of_suffix (suffix_turn _ next))
      rw [incoming_concat]
      generalize run timeout turns = session at earlier returns ⊢
      cases next with
      | read bytes => exact earlier.read bytes returns
      | write frame =>
          have running := isRunning_iff.mpr earlier.running
          have short := fits frame (List.mem_append_right _ List.mem_cons_self)
          rw [Turn.incoming, List.append_nil]
          simp only [turn, write_of_fits running short]
          exact earlier.of_same rfl rfl rfl rfl
      | submit command now refuses =>
          rw [Turn.incoming, List.append_nil]
          exact earlier.of_same rfl rfl rfl ((History.heard_cons _ _).trans (List.append_nil _))
      | expire now =>
          rw [Turn.incoming, List.append_nil]
          exact earlier.of_same rfl rfl rfl ((History.heard_cons _ _).trans (List.append_nil _))

end Session

end Link

/-! ## Chunks at the gateway -/

namespace Gateway

open ZWaveGateway.Stream Link

variable {gateway : Gateway} {link : Link}

/-- The gateway when its link has taken items in, with the bytes that wait for more. -/
def afterIntake (gateway : Gateway) (link : Link) (waiting : List UInt8) (intake : Intake) :
    Gateway :=
  (gateway.performAll intake.effects).refit intake.tracker
    { gateway.outlet with
      link := some { link with buffer := waiting, status := intake.status } }
    (gateway.record.wire ++ intake.written)

theorem feed_of_running (opened : gateway.outlet.link = some link)
    (running : link.isRunning = true) (bytes : List UInt8) :
    (gateway.feed bytes).1 =
      gateway.afterIntake link (drain (link.buffer ++ bytes)).2
        (takeIn gateway.tracker (drain (link.buffer ++ bytes)).1) := by
  simp only [feed, opened, Link.read, if_pos running]
  exact performAll_refit ..

/-- What is taken in behind something else might have been taken in with it. -/
theorem afterIntake_afterIntake (gateway : Gateway) (link : Link) (waiting later : List UInt8)
    (intake more : Intake) :
    (gateway.afterIntake link waiting intake).afterIntake
        { link with buffer := waiting, status := intake.status } later more =
      gateway.afterIntake link later (more.after intake.effects intake.written) := by
  simp only [afterIntake, Intake.after, performAll_append, performAll_refit]
  rw [← List.append_assoc]
  rfl

/-- Bytes that come in two chunks do what they do in one, if the tracker returns on their frames. -/
theorem feed_append (opened : gateway.outlet.link = some link) (running : link.isRunning = true)
    (bytes more : List UInt8)
    (returned : (gateway.feed (bytes ++ more)).1.linkStatus? ≠ some .faulted) :
    ((gateway.feed bytes).1.feed more).1 = (gateway.feed (bytes ++ more)).1 ∧
      ∃ next, (gateway.feed bytes).1.outlet.link = some next ∧ next.isRunning = true ∧
        Waiting next.buffer := by
  have split := drain_append (link.buffer ++ bytes) more
  rw [List.append_assoc] at split
  have atOnce := feed_of_running opened running (bytes ++ more)
  rw [split] at atOnce
  rw [atOnce] at returned ⊢
  rw [feed_of_running opened running]
  rcases takeIn_append gateway.tracker (drain (link.buffer ++ bytes)).1
      (drain ((drain (link.buffer ++ bytes)).2 ++ more)).1 with
    ⟨ended, same⟩ | ⟨goesOn, same⟩
  · refine (returned ?_).elim
    rw [same]
    exact congrArg some ended
  · have still : isRunning
        { link with
          buffer := (drain (link.buffer ++ bytes)).2
          status := (takeIn gateway.tracker (drain (link.buffer ++ bytes)).1).status } = true :=
      isRunning_iff.mpr goesOn
    refine ⟨?_, _, rfl, still, waiting_drain _⟩
    rw [feed_of_running rfl still, same, ← afterIntake_afterIntake]
    rfl

/-- **Chunks do not matter to the gateway.** What bytes that are fed in chunks do to it, down to
what is written, told, settled and logged, is what they do at once, if the tracker returns on their
frames. -/
theorem feed_chunks (opened : gateway.outlet.link = some link) (running : link.isRunning = true)
    (waiting : Waiting link.buffer) (chunks : List (List UInt8))
    (returned : (gateway.feed chunks.flatten).1.linkStatus? ≠ some .faulted) :
    chunks.foldl (fun gateway chunk => (gateway.feed chunk).1) gateway =
      (gateway.feed chunks.flatten).1 := by
  induction chunks generalizing gateway link with
  | nil =>
      rw [List.flatten_nil, feed_of_running opened running, List.append_nil,
        drain_of_waiting waiting]
      have status := isRunning_iff.mp running
      simp only [afterIntake, takeIn, refit, List.append_nil]
      rw [← status, ← opened]
      rfl
  | cons chunk later same =>
      rw [List.flatten_cons] at returned ⊢
      obtain ⟨split, next, reopened, still, waits⟩ :=
        feed_append opened running chunk later.flatten returned
      rw [List.foldl_cons, ← split]
      exact same reopened still waits (split ▸ returned)

end Gateway

/-! ## The inbound half -/

namespace Link.Session

open ZWaveGateway.Stream
open Effect (visible)

variable {timeout : Duration}

/-- **The link answers what the stream calls for.** For all turns in which the frames written fit
and the tracker returns on each frame it is handed, the link is running at the end; its replies, the
frames that the tracker was handed and the bytes that wait are those that the bytes read call for,
and they call for nothing else. The tracker has gone through a run with these frames, and what was
told and settled is what it wanted done.

A gateway whose link has come that far does with further bytes the same in chunks as at once. -/
theorem answers_stream (turns : List Turn) (fits : ∀ frame ∈ queued turns, Fits frame)
    (returns : (run timeout turns).history.Returns) :
    (run timeout turns).link.status = .running ∧
    CallsFor (incoming turns) (run timeout turns).replies (run timeout turns).history.heard
      (run timeout turns).link.buffer ∧
    (∀ replies frames left, CallsFor (incoming turns) replies frames left →
      (run timeout turns).replies = replies ∧ (run timeout turns).history.heard = frames ∧
        (run timeout turns).link.buffer = left) ∧
    Tracker.Run timeout (run timeout turns).history (run timeout turns).tracker ∧
    visible (run timeout turns).effects = visible (run timeout turns).history.effects ∧
    ∀ gateway : Gateway, gateway.outlet.link = some (run timeout turns).link →
      ∀ chunks : List (List UInt8),
        (gateway.feed chunks.flatten).1.linkStatus? ≠ some .faulted →
          chunks.foldl (fun gateway chunk => (gateway.feed chunk).1) gateway =
            (gateway.feed chunks.flatten).1 := by
  obtain ⟨running, replies, frames, left⟩ := answering turns fits returns
  obtain ⟨tracked, same⟩ := tracked timeout turns
  refine ⟨running, callsFor_iff.mpr ⟨replies, frames, left⟩, ?_, tracked, same, ?_⟩
  · intro otherReplies otherFrames otherLeft calls
    obtain ⟨rfl, rfl, rfl⟩ := calls.found
    exact ⟨replies.symm, frames.symm, left.symm⟩
  · intro gateway opened chunks returned
    exact Gateway.feed_chunks opened (isRunning_iff.mpr running) (left ▸ waiting_drain _) chunks
      returned

/-- A response comes behind noise, in two chunks that end in the middle of it, and a frame is
written in between. -/
theorem answers_stream_of_cut_frame :
    let turns := [Turn.read [0xAA, 0x01, 0x04],
      .write (Frame.request .sendData .set (some ⟨5⟩) [5, 3, 0x20, 0x01, 1, 0x25]),
      .read [0x01, 0x62, 0x01, 0x99, 0x06]]
    (∀ frame ∈ queued turns, Fits frame) ∧ (run ⟨10⟩ turns).history.Returns ∧
      (run ⟨10⟩ turns).link.status = .running ∧
      (run ⟨10⟩ turns).replies = [Wire.acknowledge] ∧
      (run ⟨10⟩ turns).history.heard = [Frame.inbound .isFailedNode .response none [0x01]] := by
  intro turns
  let response := Frame.inbound .isFailedNode .response none [0x01]
  have fits : ∀ frame ∈ queued turns, Fits frame := by decide
  have begun : (start ⟨10⟩).turn (.read [0xAA, 0x01, 0x04]) =
      { start ⟨10⟩ with link := ⟨.running, [0x01, 0x04], 0⟩ } := by
    have nothing : drain [0xAA, 0x01, 0x04] = ([], [0x01, 0x04]) := drain_of_none (by decide)
    rw [turn_read rfl nothing]
    rfl
  have heard : (run ⟨10⟩ turns).history =
      [.received response ((Tracker.fresh ⟨10⟩).receive response)] := by
    have first : next [0x01, 0x04, 0x01, 0x62, 0x01, 0x99, 0x06] =
        (some (.ok (.frame response)), [Wire.acknowledge]) := by decide
    have whole := drain_of_next first
    rw [drain_of_next (next_acknowledge []), drain_of_waiting .nothing] at whole
    simp only [run, turns, List.foldl_cons, List.foldl_nil, begun]
    rw [turn_read rfl whole]
    rfl
  have returns : (run ⟨10⟩ turns).history.Returns := by
    rw [heard]
    intro frame receipt occurred
    obtain ⟨rfl, rfl⟩ := Occurrence.received.inj (List.mem_singleton.mp occurred)
    decide
  have behind : CallsFor (Wire.wrap [0x01, 0x62, 0x01] ++ [Wire.acknowledge])
      [Wire.acknowledge] [response] [] :=
    .frame (by decide) (by decide) rfl (.quiet (by decide) (.waits .nothing))
  obtain ⟨running, -, only, -⟩ := answers_stream turns fits returns
  obtain ⟨replies, frames, -⟩ := only _ _ _ (.quiet (by decide) behind)
  exact ⟨fits, returns, running, replies, frames⟩

end Link.Session

end ZWaveGateway
