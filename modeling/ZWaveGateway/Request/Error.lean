import ZWaveGateway.Time
import ZWaveGateway.Transaction.Key

/-!
# Why a request fails

A control request can fail because of what it says, because of the device it names, or because of
what else is in flight. Every failure names its cause; the wording is in one place.
-/

namespace ZWaveGateway

/-- What is wrong with one parameter of a request. -/
inductive Complaint where
  | required
  /-- The parameter that asks for a report is missing where nothing can be set. -/
  | readOnly
  | notInteger
  | notNumber
  | notFinite
  | tooLarge
  | unsupportedMode
  /-- Outside the range from `least` to `greatest`. -/
  | outside (least greatest : Int)
  /-- Outside the values that `bytes` bytes can hold. -/
  | overflows (bytes : Nat) (least greatest : Int)
  /-- None of the choices, which are listed in words. -/
  | notAmong (choices : String)
  /-- A complaint worded by the caller. -/
  | stated (words : String)
  deriving DecidableEq, Repr

namespace Complaint

/-- The complaint in words. -/
def message : Complaint → String
  | .required => "is required"
  | .readOnly => "is required, version is read-only"
  | .notInteger => "must be an integer"
  | .notNumber => "must be a number"
  | .notFinite => "must be a finite number"
  | .tooLarge => "is out of range"
  | .unsupportedMode => "is not a supported mode"
  | .outside least greatest =>
      "must be between " ++ toString least ++ " and " ++ toString greatest
  | .overflows bytes least greatest =>
      "must fit in " ++ toString bytes ++ " byte(s) (" ++ toString least ++ " to " ++
        toString greatest ++ ")"
  | .notAmong choices => "must be " ++ choices
  | .stated words => words

end Complaint

/-- Why a request fails. -/
inductive RequestError where
  /-- The control token names no control. -/
  | unrecognizedControl (token : String)
  /-- The control is known but takes no requests. -/
  | unsupportedControl
  | deviceNotFound (token : String)
  /-- The device lacks the command class of the control. -/
  | capabilityNotPresent (node : NodeId)
  | invalidParameter (field : String) (complaint : Complaint)
  | notImplemented (feature : String)
  /-- Another transaction with the same key is waiting for its answer. -/
  | duplicateInFlight (key : Key)
  | malformedFrame (error : FrameError)
  | timedOut (after : Duration)
  /-- The transport refused a frame, in its own words. -/
  | transport (words : String)
  deriving DecidableEq, Repr

namespace RequestError

/-- The cause in one word. -/
def name : RequestError → String
  | .unrecognizedControl _ => "UnrecognizedControl"
  | .unsupportedControl => "UnsupportedControl"
  | .deviceNotFound _ => "DeviceNotFound"
  | .capabilityNotPresent _ => "CapabilityNotPresent"
  | .invalidParameter .. => "InvalidParameter"
  | .notImplemented _ => "NotImplemented"
  | .duplicateInFlight _ => "DuplicateInFlight"
  | .malformedFrame _ => "MalformedFrame"
  | .timedOut _ => "TimedOut"
  | .transport _ => "Transport"

/-- The failure in words. -/
def message : RequestError → String
  | .unrecognizedControl token => "Unrecognized control type '" ++ token ++ "'"
  | .unsupportedControl => "Processing for this control type is not yet supported"
  | .deviceNotFound token => "Node " ++ token ++ " not found"
  | .capabilityNotPresent node =>
      "An appropriate command class was not found for node " ++ node.text
  | .invalidParameter field complaint =>
      "Invalid input (" ++ field ++ " " ++ complaint.message ++ ")"
  | .notImplemented feature => feature ++ " not yet supported"
  | .duplicateInFlight key => "A transaction for " ++ key.text ++ " is already in flight"
  | .malformedFrame error => "Malformed frame: " ++ error.message
  | .timedOut after => "No response within " ++ after.text
  | .transport words => "Transport error: " ++ words

/-- The failure as it is reported for a control, named by its label. -/
def report (label : String) (error : RequestError) : String :=
  label ++ " Control: " ++ error.message

end RequestError

end ZWaveGateway
