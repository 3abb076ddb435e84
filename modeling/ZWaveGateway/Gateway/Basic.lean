import ZWaveGateway.Request.Basic
import ZWaveGateway.Event.Audience
import ZWaveGateway.Link.Basic

/-!
# The gateway

The parts of a gateway together: the directory of devices, the tracker, the listeners, the handles
that somebody still holds, and the way out for frames, which may lead onto a serial link. Each
operation notes what the world outside could see of it, in order.
-/

namespace ZWaveGateway

/-- Where frames go. The transport can be told to refuse them, in given words; it may pass what it
takes on to a serial link. -/
structure Outlet where
  refusal : Option String
  link : Option Link
  /-- The tracker's frames go on to the link. -/
  tracked : Bool
  deriving DecidableEq, Repr

/-- What the world outside sees of an operation. -/
structure Record where
  /-- The frames the transport took. -/
  sent : List Frame
  /-- The events that listeners were told. -/
  deliveries : List Delivery
  /-- How the handles that somebody held were settled. -/
  outcomes : List (TransactionId × Outcome)
  log : List LogLine
  /-- The bytes the link wrote. -/
  wire : List UInt8

/-- A whole gateway. -/
structure Gateway where
  directory : Directory
  controller : NodeId
  tracker : Tracker
  audience : Audience
  /-- The transactions whose handle somebody holds. -/
  handles : List TransactionId
  outlet : Outlet
  record : Record

namespace Record

/-- Nothing was seen. -/
def blank : Record :=
  ⟨[], [], [], [], []⟩

end Record

namespace Outlet

/-- The outlet's answer to a frame of the tracker: nothing, or why it is refused. -/
def refuses (outlet : Outlet) (_ : Frame) : Option String :=
  match outlet.refusal with
  | some words => some words
  | none =>
      match outlet.link with
      | some link => if outlet.tracked && !link.isRunning then some Link.closedWords else none
      | none => none

end Outlet

namespace Gateway

/-- A gateway in which nothing has happened. -/
def fresh (directory : Directory) (controller : NodeId) (timeout : Duration) (link : Option Link)
    (tracked : Bool) : Gateway where
  directory := directory
  controller := controller
  tracker := Tracker.fresh timeout
  audience := Audience.empty
  handles := []
  outlet := ⟨none, link, tracked⟩
  record := Record.blank

/-- The gateway with nothing seen of it yet. -/
def unseen (gateway : Gateway) : Gateway :=
  { gateway with record := Record.blank }

/-- Write lines to the log. -/
def write (gateway : Gateway) (lines : List LogLine) : Gateway :=
  { gateway with record.log := gateway.record.log ++ lines }

/-- Tell the listeners an event: how many of them receive it. -/
def tell (gateway : Gateway) (event : Event) : Gateway × Nat :=
  let (audience, count, deliveries) := gateway.audience.announce event
  ({ gateway with
      audience
      record.deliveries := gateway.record.deliveries ++ deliveries
      record.log := gateway.record.log ++ audience.journal deliveries },
    count)

/-- Settle a handle, if somebody still holds it. -/
def settle (gateway : Gateway) (id : TransactionId) (outcome : Outcome) : Gateway :=
  if gateway.handles.contains id then
    { gateway with
      handles := gateway.handles.filter (· != id)
      record.outcomes := gateway.record.outcomes ++ [(id, outcome)] }
  else gateway

/-- Do what the tracker wants done. -/
def perform (gateway : Gateway) : Effect → Gateway
  | .log line => gateway.write [line]
  | .tell event => (gateway.tell event).1
  | .settle id outcome => gateway.settle id outcome

/-- Do all that the tracker wants done, in order. -/
def performAll (gateway : Gateway) (effects : List Effect) : Gateway :=
  effects.foldl perform gateway

/-- Let the link write frames that were queued. -/
def putOnLink (gateway : Gateway) (frames : List Frame) : Gateway :=
  match gateway.outlet.link with
  | none => gateway
  | some link =>
      let (link, bytes) := link.writeAll frames
      { gateway with
        outlet.link := some link
        record.wire := gateway.record.wire ++ bytes }

/-- Note the frames that the transport took from the tracker, and pass them on. -/
def carry (gateway : Gateway) (frames : List Frame) : Gateway :=
  let noted := { gateway with record.sent := gateway.record.sent ++ frames }
  if gateway.outlet.tracked then noted.putOnLink frames else noted

/-- The gateway with another tracker, another way out and other bytes written. -/
def refit (gateway : Gateway) (tracker : Tracker) (outlet : Outlet) (wire : List UInt8) : Gateway :=
  { gateway with tracker, outlet, record.wire := wire }

/-- What the tracker wants done concerns the listeners, the handles and the log, and neither the
tracker itself nor the way out. -/
theorem performAll_refit (gateway : Gateway) (tracker : Tracker) (outlet : Outlet)
    (wire : List UInt8) (effects : List Effect) :
    (gateway.refit tracker outlet wire).performAll effects =
      (gateway.performAll effects).refit tracker outlet wire := by
  induction effects generalizing gateway with
  | nil => rfl
  | cons effect rest later =>
      have first : (gateway.refit tracker outlet wire).perform effect =
          (gateway.perform effect).refit tracker outlet wire := by
        cases effect with
        | log line => rfl
        | tell event => rfl
        | settle id outcome =>
            by_cases held : gateway.handles.contains id = true
            · have still : (gateway.refit tracker outlet wire).handles.contains id = true := held
              simp only [perform, settle, if_pos held, if_pos still]
              rfl
            · have still : ¬(gateway.refit tracker outlet wire).handles.contains id = true := held
              simp only [perform, settle, if_neg held, if_neg still]
      rw [performAll, List.foldl_cons, first]
      exact later (gateway.perform effect)

theorem performAll_append (gateway : Gateway) (effects more : List Effect) :
    gateway.performAll (effects ++ more) = (gateway.performAll effects).performAll more :=
  List.foldl_append

@[simp]
theorem tracker_performAll (gateway : Gateway) (effects : List Effect) :
    (gateway.performAll effects).tracker = gateway.tracker := by
  have same := congrArg Gateway.tracker
    (gateway.performAll_refit gateway.tracker gateway.outlet gateway.record.wire effects)
  exact same

@[simp]
theorem tracker_putOnLink (gateway : Gateway) (frames : List Frame) :
    (gateway.putOnLink frames).tracker = gateway.tracker := by
  unfold putOnLink
  split <;> rfl

@[simp]
theorem tracker_carry (gateway : Gateway) (frames : List Frame) :
    (gateway.carry frames).tracker = gateway.tracker := by
  unfold carry
  split
  · exact tracker_putOnLink _ frames
  · rfl

theorem audience_putOnLink (gateway : Gateway) (frames : List Frame) :
    (gateway.putOnLink frames).audience = gateway.audience := by
  unfold putOnLink
  split <;> rfl

theorem deliveries_putOnLink (gateway : Gateway) (frames : List Frame) :
    (gateway.putOnLink frames).record.deliveries = gateway.record.deliveries := by
  unfold putOnLink
  split <;> rfl

/-- Frames that go out concern no listener. -/
@[simp]
theorem audience_carry (gateway : Gateway) (frames : List Frame) :
    (gateway.carry frames).audience = gateway.audience := by
  unfold carry
  split
  · exact audience_putOnLink _ frames
  · rfl

@[simp]
theorem deliveries_carry (gateway : Gateway) (frames : List Frame) :
    (gateway.carry frames).record.deliveries = gateway.record.deliveries := by
  unfold carry
  split
  · exact deliveries_putOnLink _ frames
  · rfl

end Gateway

end ZWaveGateway
