import ZWaveGateway.Request.Plan
import ZWaveGateway.Tracker.Batch
import ZWaveGateway.Node.Directory

/-!
# Dispatching a request

A request names a control and a device, and brings a form. It passes one gate after another: the
control has to be known, the device has to be known, the device has to support what the control
drives, the form has to make a plan, and the plan's commands have to be submitted. The first gate
that does not let it pass ends it, with that gate's error.
-/

namespace ZWaveGateway

/-- A request as somebody made it. -/
structure Request where
  control : String
  device : String
  form : Form
  deriving DecidableEq

/-- A request whose frames were handed over. -/
structure Accepted where
  control : Control
  node : NodeId
  /-- One per command, the question first. -/
  tickets : List Ticket
  notices : List RequestError
  deriving DecidableEq

/-- What dispatching a request comes to. -/
structure Dispatched where
  tracker : Tracker
  effects : List Effect
  /-- The frames the transport took, in order. -/
  sent : List Frame
  result : Except RequestError Accepted

namespace Request

/-- The control the request names. -/
def named (request : Request) : Control :=
  Control.ofToken request.control

/-- The device the request names, if there is one. -/
def target? (request : Request) (directory : Directory) : Option Device := do
  let number ← Text.Numeral.natural? 255 (Text.trim request.device)
  directory.lookup? ⟨UInt8.ofNat number⟩

/-- Pass all gates but the last: the node, and what to submit to it. -/
def resolve (request : Request) (directory : Directory) (controller : NodeId) :
    Except RequestError (NodeId × Plan) :=
  if request.named = .unknown then .error (.unrecognizedControl request.control)
  else match request.target? directory with
    | none => .error (.deviceNotFound request.device)
    | some device =>
        if (device.capability? request.named).isNone then
          .error (.capabilityNotPresent device.id)
        else (request.named.plan request.form device.id controller).map (device.id, ·)

/-- The line that tells of a failure, for the control the request names. -/
def errorLine (request : Request) (error : RequestError) : LogLine :=
  ⟨.error, error.report request.named.label⟩

/-- The lines that tell of an accepted request. -/
def acceptedLines (request : Request) (accepted : Accepted) : List LogLine :=
  ⟨.info, request.named.label ++ " Control: " ++ toString accepted.tickets.length ++
      " command(s) sent to node " ++ accepted.node.text⟩ ::
    accepted.notices.map request.errorLine

/-- Dispatch the request. -/
def dispatch (request : Request) (directory : Directory) (controller : NodeId)
    (tracker : Tracker) (now : Instant) (refuses : Frame → Option String) : Dispatched :=
  match request.resolve directory controller with
  | .error error => ⟨tracker, [.log (request.errorLine error)], [], .error error⟩
  | .ok (node, plan) =>
      let batch := tracker.submitAll now refuses plan.commands
      match batch.failure with
      | some error =>
          ⟨batch.tracker, batch.effects ++ [.log (request.errorLine error)], batch.sent,
            .error error⟩
      | none =>
          let accepted : Accepted := ⟨request.named, node, batch.tickets, plan.notices⟩
          ⟨batch.tracker, batch.effects ++ (request.acceptedLines accepted).map .log, batch.sent,
            .ok accepted⟩

end Request

end ZWaveGateway
