import ZWaveGateway.Gateway.Basic

/-!
# What can be done with a gateway

Requests and commands go in at the top, frames and bytes from the controller at the bottom; time
passes; listeners come and go. Each operation gives its answer and the gateway afterwards.
-/

namespace ZWaveGateway.Gateway

/-- Submit a command of its own. -/
def submit (gateway : Gateway) (command : Command) (now : Instant) :
    Gateway × Except RequestError Ticket :=
  let submission := gateway.tracker.submit command now gateway.outlet.refuses
  let after := { gateway with tracker := submission.tracker }.performAll submission.effects
  match submission.result with
  | .error error => (after, .error error)
  | .ok ticket =>
      ({ after with handles := after.handles ++ [ticket.id] }.carry submission.offered.toList,
        .ok ticket)

/-- Dispatch a request. Who made it holds the handles only if it is accepted. -/
def dispatch (gateway : Gateway) (request : Request) (now : Instant) :
    Gateway × Except RequestError Accepted :=
  let dispatched := request.dispatch gateway.directory gateway.controller gateway.tracker now
    gateway.outlet.refuses
  let after := { gateway with tracker := dispatched.tracker }.performAll dispatched.effects
  let held := match dispatched.result with
    | .ok accepted => accepted.tickets.map (·.id)
    | .error _ => []
  ({ after with handles := after.handles ++ held }.carry dispatched.sent, dispatched.result)

/-- Send a frame that opens no transaction. -/
def sendUntracked (gateway : Gateway) (frame : Frame) : Gateway × Except RequestError Unit :=
  match gateway.outlet.refuses frame with
  | some words => (gateway, .error (.transport words))
  | none => (gateway.carry [frame], .ok ())

/-- Hand the tracker a frame from the controller. -/
def receive (gateway : Gateway) (frame : Frame) : Gateway × Except ReceiveError Disposition :=
  let receipt := gateway.tracker.receive frame
  ({ gateway with tracker := receipt.tracker }.performAll receipt.effects, receipt.result)

/-- Do what follows from a sweep. -/
def afterSweep (gateway : Gateway) (expiry : Expiry) : Gateway × List TransactionId :=
  ({ gateway with tracker := expiry.tracker }.performAll expiry.effects, expiry.expired)

/-- Time out the transactions that are overdue at an instant. -/
def expire (gateway : Gateway) (now : Instant) : Gateway × List TransactionId :=
  gateway.afterSweep (gateway.tracker.expire now)

/-- Give up a handle: whether somebody held it. -/
def dropHandle (gateway : Gateway) (id : TransactionId) : Gateway × Bool :=
  ({ gateway with handles := gateway.handles.filter (· != id) }, gateway.handles.contains id)

/-- Tell the transport to refuse frames in these words, or to take them again. -/
def refuseWith (gateway : Gateway) (words : Option String) : Gateway :=
  { gateway with outlet.refusal := words }

/-- Apply a change to the router. -/
def route (gateway : Gateway) (change : Router → Router) : Gateway :=
  { gateway with audience.router := change gateway.audience.router }

/-- Register a listener by name. -/
def subscribe (gateway : Gateway) (name : String) : Gateway :=
  match gateway.audience.named? name with
  | some id => gateway.route (·.subscribe id)
  | none => gateway

/-- Take back a listener's registrations by name: whether there were any. -/
def unsubscribe (gateway : Gateway) (name : String) : Gateway × Bool :=
  match gateway.audience.named? name with
  | some id => (gateway.route (·.unsubscribe id), gateway.audience.router.isRegistered id)
  | none => (gateway, false)

/-- Shut the router down. -/
def shutDown (gateway : Gateway) : Gateway :=
  gateway.route (·.shutDown)

/-- How many registrations there are. -/
def listenerCount (gateway : Gateway) : Nat :=
  gateway.audience.router.registered.length

/-- The link's state, if there is a link. -/
def linkStatus? (gateway : Gateway) : Option Link.Status :=
  gateway.outlet.link.map (·.status)

/-- Bytes come from the controller: whether the stream was still open. -/
def feed (gateway : Gateway) (bytes : List UInt8) : Gateway × Bool :=
  match gateway.outlet.link with
  | none => (gateway, false)
  | some link =>
      let (after, intake) := link.read gateway.tracker bytes
      let wired := { gateway with
        tracker := intake.tracker
        outlet.link := some after
        record.wire := gateway.record.wire ++ intake.written }
      (wired.performAll intake.effects, link.isRunning)

/-- Send a frame straight to the link, if that still runs. -/
def sendOnLink (gateway : Gateway) (frame : Frame) : Gateway × Except String Unit :=
  match gateway.outlet.link with
  | some link =>
      if link.isRunning then (gateway.putOnLink [frame], .ok ())
      else (gateway, .error Link.closedWords)
  | none => (gateway, .error Link.closedWords)

/-- End the link in a given way, unless it has ended. -/
def finishLink (gateway : Gateway) (finish : Link → Link) : Gateway :=
  { gateway with outlet.link := gateway.outlet.link.map finish }

/-- The controller closes the stream. -/
def closeStream (gateway : Gateway) : Gateway :=
  gateway.finishLink Link.close

/-- The last sender outside the tracker goes away. If the tracker does not send on the link either,
the link stops. -/
def dropSender (gateway : Gateway) : Gateway :=
  if gateway.outlet.tracked then gateway else gateway.finishLink (·.finish .stopped)

/-! The tracker goes its own way, whatever else a gateway does. -/

variable (gateway : Gateway)

theorem tracker_submit (command : Command) (now : Instant) :
    (gateway.submit command now).1.tracker =
      (gateway.tracker.submit command now gateway.outlet.refuses).tracker := by
  unfold submit
  simp only []
  split
  · exact tracker_performAll _ _
  · exact (tracker_carry _ _).trans (tracker_performAll _ _)

theorem result_submit (command : Command) (now : Instant) :
    (gateway.submit command now).2 =
      (gateway.tracker.submit command now gateway.outlet.refuses).result := by
  unfold submit
  simp only []
  split
  · next failed => exact failed.symm
  · next taken => exact taken.symm

theorem tracker_sendUntracked (frame : Frame) :
    (gateway.sendUntracked frame).1.tracker = gateway.tracker := by
  unfold sendUntracked
  split
  · rfl
  · exact tracker_carry gateway [frame]

theorem tracker_receive (frame : Frame) :
    (gateway.receive frame).1.tracker = (gateway.tracker.receive frame).tracker :=
  tracker_performAll _ _

end ZWaveGateway.Gateway
