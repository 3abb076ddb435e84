import ZWaveGateway.Link.Inbound
import ZWaveGateway.Link.Outbound

/-!
# The serial link

The link owns the byte stream to the controller. It runs until the controller closes the stream,
until nobody is left who could send a frame, or until a frame ends it.
-/

namespace ZWaveGateway

/-- The link's state: where it stands, the bytes that wait for the rest of their frame, and the
callback id it gave last. -/
structure Link where
  status : Link.Status
  buffer : List UInt8
  lastCallback : UInt8
  deriving DecidableEq, Repr

namespace Link

/-- A link that has just been opened. -/
def fresh : Link :=
  ⟨.running, [], 0⟩

/-- The link still reads and writes. -/
def isRunning (link : Link) : Bool :=
  link.status == .running

theorem isRunning_iff {link : Link} : link.isRunning = true ↔ link.status = .running :=
  beq_iff_eq

/-- End the link, unless it has ended already. -/
def finish (link : Link) (status : Status) : Link :=
  if link.isRunning then { link with status } else link

/-- The text of a link that has ended, to those who still send. -/
def closedWords : String := "Serial link closed"

/-- The controller closes the stream. -/
def close (link : Link) : Link :=
  link.finish (.failed "Serial link closed by controller")

/-- Write a queued frame: the bytes written. -/
def write (link : Link) (frame : Frame) : Link × List UInt8 :=
  if link.isRunning then
    match transmit link.lastCallback frame with
    | (.ok bytes, lastCallback) => ({ link with lastCallback }, bytes)
    | (.error error, lastCallback) =>
        ({ link with status := .failed error.message, lastCallback }, [])
  else (link, [])

/-- Write queued frames in order. -/
def writeAll (link : Link) : List Frame → Link × List UInt8
  | [] => (link, [])
  | frame :: rest =>
      let (link, bytes) := link.write frame
      let (link, later) := link.writeAll rest
      (link, bytes ++ later)

/-- Read bytes from the controller. -/
def read (link : Link) (tracker : Tracker) (bytes : List UInt8) : Link × Intake :=
  if link.isRunning then
    let (items, buffer) := Stream.drain (link.buffer ++ bytes)
    let intake := takeIn tracker items
    ({ link with buffer, status := intake.status }, intake)
  else (link, ⟨tracker, [], [], link.status⟩)

end Link

end ZWaveGateway
