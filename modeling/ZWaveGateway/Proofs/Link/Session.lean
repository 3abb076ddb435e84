import ZWaveGateway.Link.Basic
import ZWaveGateway.Proofs.Link.Intake
import ZWaveGateway.Proofs.Serial.RoundTrip

/-!
# Sessions of a link

A link from the moment it is opened, with the tracker that it hands frames to. Bytes come in chunks
that end anywhere, and frames are taken off the queue; in between commands are submitted and time
passes. All this happens in any order (`ZWaveGateway.Link.Session.run`).

A session keeps what its link has written, in all and in reply to what was read, and the history of
its tracker. What holds of a session is shown for one turn more and so for all of them.
-/

namespace ZWaveGateway.Link

open Effect (visible)

/-! ## Writing a frame -/

/-- The frame is not too long for the wire, with its callback id if it gets one. -/
def Fits (frame : Frame) : Prop :=
  (stamp 0 frame).1.toSerial.length ≤ Wire.maxFrameData

instance (frame : Frame) : Decidable (Fits frame) :=
  inferInstanceAs (Decidable (_ ≤ _))

/-- How long a frame is does not depend on its callback id. -/
theorem length_stamp (last : UInt8) (frame : Frame) :
    (stamp last frame).1.toSerial.length = (stamp 0 frame).1.toSerial.length := by
  unfold stamp
  split
  · simp only [Frame.length_toSerial, Frame.request, List.length_append, List.length_singleton]
  · rfl

theorem write_of_fits {link : Link} (running : link.isRunning = true) {frame : Frame}
    (fits : Fits frame) :
    link.write frame =
      ({ link with lastCallback := (stamp link.lastCallback frame).2 },
        Wire.wrap (stamp link.lastCallback frame).1.toSerial) := by
  have short : (stamp link.lastCallback frame).1.toSerial.length ≤ Wire.maxFrameData := by
    rw [length_stamp]
    exact fits
  have sent : transmit link.lastCallback frame =
      (.ok (Wire.wrap (stamp link.lastCallback frame).1.toSerial),
        (stamp link.lastCallback frame).2) :=
    congrArg (·, _) (Wire.encode_of_le short)
  rw [write, if_pos running, sent]

theorem write_of_not_fits {link : Link} (running : link.isRunning = true) {frame : Frame}
    (long : ¬Fits frame) :
    link.write frame =
      ({ link with
          status := .failed
            (FrameError.tooLong Wire.maxFrameData (stamp 0 frame).1.toSerial.length).message
          lastCallback := (stamp link.lastCallback frame).2 }, []) := by
  have tooLong : Wire.maxFrameData < (stamp link.lastCallback frame).1.toSerial.length := by
    rw [length_stamp]
    exact Nat.lt_of_not_le long
  have failed : transmit link.lastCallback frame =
      (.error (.tooLong Wire.maxFrameData (stamp link.lastCallback frame).1.toSerial.length),
        (stamp link.lastCallback frame).2) :=
    congrArg (·, _) (Wire.encode_of_lt tooLong)
  rw [write, if_pos running, failed, length_stamp]

/-! ## Turns -/

/-- One thing that happens to a link or to its tracker. -/
inductive Turn where
  /-- Bytes come from the controller. -/
  | read (bytes : List UInt8)
  /-- A frame is taken off the queue. -/
  | write (frame : Frame)
  | submit (command : Command) (now : Instant) (refuses : Frame → Option String)
  | expire (now : Instant)

namespace Turn

/-- The bytes that come from the controller. -/
def incoming : Turn → List UInt8
  | .read bytes => bytes
  | .write _ | .submit .. | .expire _ => []

/-- The frame that is taken off the queue. -/
def queued : Turn → List Frame
  | .write frame => [frame]
  | .read _ | .submit .. | .expire _ => []

end Turn

/-- The bytes that come from the controller, in order. -/
def incoming (turns : List Turn) : List UInt8 :=
  turns.flatMap Turn.incoming

/-- The frames that are taken off the queue, in order. -/
def queued (turns : List Turn) : List Frame :=
  turns.flatMap Turn.queued

theorem incoming_concat (turns : List Turn) (next : Turn) :
    incoming (turns ++ [next]) = incoming turns ++ next.incoming := by
  rw [incoming, List.flatMap_append, List.flatMap_singleton, incoming]

theorem queued_concat (turns : List Turn) (next : Turn) :
    queued (turns ++ [next]) = queued turns ++ next.queued := by
  rw [queued, List.flatMap_append, List.flatMap_singleton, queued]

/-- A link and its tracker, with what has come of them. -/
structure Session where
  link : Link
  tracker : Tracker
  /-- What the tracker has gone through. -/
  history : History
  /-- What the tracker wanted done, and the link's own lines for the log. -/
  effects : List Effect
  /-- The bytes that were written in reply to what was read. -/
  replies : List UInt8
  /-- All bytes that were written. -/
  wire : List UInt8

namespace Session

/-- A link that has just been opened, with a fresh tracker. -/
def start (timeout : Duration) : Session :=
  ⟨Link.fresh, Tracker.fresh timeout, [], [], [], []⟩

/-- The session after one turn. -/
def turn (session : Session) : Turn → Session
  | .read bytes =>
      let (link, intake) := session.link.read session.tracker bytes
      let handed := if session.link.isRunning then
        framesOf (Stream.drain (session.link.buffer ++ bytes)).1 else []
      { link
        tracker := intake.tracker
        history := session.tracker.hear session.history handed
        effects := session.effects ++ intake.effects
        replies := session.replies ++ intake.written
        wire := session.wire ++ intake.written }
  | .write frame =>
      let (link, bytes) := session.link.write frame
      { session with link, wire := session.wire ++ bytes }
  | .submit command now refuses =>
      let submission := session.tracker.submit command now refuses
      { session with
        tracker := submission.tracker
        history := .submitted command submission :: session.history
        effects := session.effects ++ submission.effects }
  | .expire now =>
      let expiry := session.tracker.expire now
      { session with
        tracker := expiry.tracker
        history := .expired expiry :: session.history
        effects := session.effects ++ expiry.effects }

/-- The session after turns in order. -/
def run (timeout : Duration) (turns : List Turn) : Session :=
  turns.foldl turn (start timeout)

theorem run_concat (timeout : Duration) (turns : List Turn) (next : Turn) :
    run timeout (turns ++ [next]) = (run timeout turns).turn next := by
  rw [run, List.foldl_concat, run]

variable {session : Session} {bytes left : List UInt8} {items : List (Except FrameError Item)}

/-- A link that runs takes in the items of its buffer. -/
theorem turn_read (running : session.link.isRunning = true)
    (found : Stream.drain (session.link.buffer ++ bytes) = (items, left)) :
    session.turn (.read bytes) =
      { link :=
          { session.link with
            buffer := left
            status := (takeIn session.tracker items).status }
        tracker := (takeIn session.tracker items).tracker
        history := session.tracker.hear session.history (framesOf items)
        effects := session.effects ++ (takeIn session.tracker items).effects
        replies := session.replies ++ (takeIn session.tracker items).written
        wire := session.wire ++ (takeIn session.tracker items).written } := by
  rw [turn, read, if_pos running, if_pos running]
  simp only [found]

/-- A link that has ended reads nothing. -/
theorem turn_read_of_ended (ended : ¬session.link.isRunning = true) (bytes : List UInt8) :
    session.turn (.read bytes) = session := by
  rw [turn, read, if_neg ended, if_neg ended]
  simp only [Tracker.hear, List.append_nil]

/-- A link that has ended writes nothing. -/
theorem turn_write_of_ended (ended : ¬session.link.isRunning = true) (frame : Frame) :
    session.turn (.write frame) = session := by
  rw [turn, write, if_neg ended]
  simp only [List.append_nil]

/-- The tracker of a session goes through its history, and what is told and settled is what it
wanted done. -/
theorem tracked (timeout : Duration) (turns : List Turn) :
    Tracker.Run timeout (run timeout turns).history (run timeout turns).tracker ∧
      visible (run timeout turns).effects = visible (run timeout turns).history.effects := by
  induction turns using List.reverseRecOn with
  | nil => exact ⟨.fresh, rfl⟩
  | append_singleton turns next before =>
      obtain ⟨tracked, same⟩ := before
      rw [run_concat]
      generalize run timeout turns = session at tracked same ⊢
      cases next with
      | read bytes =>
          by_cases running : session.link.isRunning = true
          · rw [turn_read running rfl]
            refine ⟨takeIn_run tracked _, ?_⟩
            rw [visible_takeIn, ← same]
            exact Effect.visible_append _ _
          · rw [turn_read_of_ended running]
            exact ⟨tracked, same⟩
      | write frame => exact ⟨tracked, same⟩
      | submit command now refuses =>
          refine ⟨tracked.submit command now refuses, ?_⟩
          simp only [turn, Effect.visible_append, same, History.effects_cons, Occurrence.effects]
      | expire now =>
          refine ⟨tracked.sweep (Tracker.sweep_expire _ now), ?_⟩
          simp only [turn, Effect.visible_append, same, History.effects_cons, Occurrence.effects]

/-- What the tracker has gone through stays in its history. -/
theorem suffix_turn (session : Session) (next : Turn) :
    session.history <:+ (session.turn next).history := by
  cases next with
  | read bytes => exact Tracker.suffix_hear _ _ _
  | write frame => exact List.suffix_rfl
  | submit command now refuses => exact List.suffix_cons _ _
  | expire now => exact List.suffix_cons _ _

end Session

end ZWaveGateway.Link
