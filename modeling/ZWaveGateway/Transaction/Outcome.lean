import ZWaveGateway.Capability.Library
import ZWaveGateway.Time

/-!
# Outcomes

How a transaction ends: with an answer of the kind its command asks for, with the controller's
refusal, or with silence past the timeout.
-/

namespace ZWaveGateway

/-- What the controller says about itself. -/
structure ControllerInfo where
  version : String
  library : Library
  deriving DecidableEq, Repr

/-- What an answer says. -/
inductive Answer where
  | controllerVersion (info : ControllerInfo)
  | nodeFailed (failed : Bool)
  | level (level : UInt8)
  | nodeVersion (library : Library) (protocol application : UInt8 × UInt8)
  /-- The controller took a set command for transmission. -/
  | transmitted
  deriving DecidableEq, Repr

/-- How a transaction ends. -/
inductive Outcome where
  | answered (answer : Answer)
  | rejected
  | timedOut (after : Duration)
  deriving DecidableEq, Repr

namespace Outcome

/-- What went wrong, in words; nothing for an answer. -/
def failure? : Outcome → Option String
  | .answered _ => none
  | .rejected => some "controller rejected the frame"
  | .timedOut after => some ("no response within " ++ after.text)

end Outcome

end ZWaveGateway
