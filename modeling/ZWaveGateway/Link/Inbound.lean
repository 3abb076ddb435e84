import ZWaveGateway.Serial.Stream
import ZWaveGateway.Tracker.Basic

/-!
# The inbound half of the link

Every frame that arrives whole is accepted with one byte, even when its content means nothing here;
every damaged one is refused with one byte; the bytes between frames get no reply. Frames go to the
tracker one at a time, in the order of the stream, each after its reply was written.
-/

namespace ZWaveGateway.Link

/-- Where the link stands. -/
inductive Status where
  | running
  /-- Nobody was left to send. -/
  | stopped
  | failed (words : String)
  /-- Reading a frame broke off. -/
  | faulted
  deriving DecidableEq, Repr

/-- The error means that bytes of a frame were damaged. -/
def isCorruption : FrameError → Bool
  | .badChecksum _ _ => true
  | .invalidLength _ => true
  | _ => false

/-- The bytes written in reply. -/
def reply : Except FrameError Item → List UInt8
  | .ok (.frame _) => [Wire.acknowledge]
  | .ok _ => []
  | .error error => if isCorruption error then [Wire.refuse] else [Wire.acknowledge]

/-- The warning that an item calls for by itself. -/
def remark : Except FrameError Item → List LogLine
  | .ok .refuse | .ok .cancel => [⟨.warn, "Controller did not accept the last frame"⟩]
  | .ok _ => []
  | .error error =>
      if isCorruption error then [⟨.warn, "Corrupt frame on the link: " ++ error.message⟩] else []

/-- The warning that a frame could not be processed. -/
def unprocessed (error : FrameError) : LogLine :=
  ⟨.warn, "Inbound frame not processed: " ++ (RequestError.malformedFrame error).message⟩

/-- What taking items off the stream comes to. -/
structure Intake where
  tracker : Tracker
  effects : List Effect
  written : List UInt8
  status : Status

/-- Take items in order. A fault ends the link; what comes after it is lost. -/
def takeIn (tracker : Tracker) : List (Except FrameError Item) → Intake
  | [] => ⟨tracker, [], [], .running⟩
  | item :: rest =>
      match item with
      | .ok (.frame frame) =>
          let receipt := tracker.receive frame
          match receipt.result with
          | .error .fault => ⟨receipt.tracker, receipt.effects, reply item, .faulted⟩
          | .error (.malformed error) =>
              let later := takeIn receipt.tracker rest
              { later with
                effects := receipt.effects ++ .log (unprocessed error) :: later.effects
                written := reply item ++ later.written }
          | .ok _ =>
              let later := takeIn receipt.tracker rest
              { later with
                effects := receipt.effects ++ later.effects
                written := reply item ++ later.written }
      | item =>
          let later := takeIn tracker rest
          { later with
            effects := (remark item).map .log ++ later.effects
            written := reply item ++ later.written }

end ZWaveGateway.Link
