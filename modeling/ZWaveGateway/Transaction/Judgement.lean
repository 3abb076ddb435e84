import ZWaveGateway.Command.Basic
import ZWaveGateway.Text.Utf8
import ZWaveGateway.Transaction.Outcome
import ZWaveGateway.Transaction.State

/-!
# What a frame says to a command

A frame that bears the key of a waiting command is judged: it settles the command, or the
controller has merely taken the question, or it is about something else. The kind of frame decides
how it is read; a frame too short for its kind is malformed.

An application command counts its own command bytes. When the count leaves out the command class
and the command that the frame goes on to have, there is no report to cut out, and reading it
faults.
-/

namespace ZWaveGateway

/-- Why a frame cannot be taken as an answer. -/
inductive ReadError where
  | malformed (error : FrameError)
  | transition (error : TransitionError)
  /-- The frame counts fewer command bytes than its command class and command take. -/
  | fault
  deriving DecidableEq, Repr

/-- What a frame says to a waiting command. -/
inductive Verdict where
  /-- The command ends with this outcome. -/
  | settled (outcome : Outcome)
  /-- The frame is about something else. -/
  | unrelated
  /-- The question is on its way; its report is still to come. -/
  | acknowledged
  deriving DecidableEq

/-- The length of the version text in a version response. -/
def versionTextLength : Nat := 12

/-- The version text ends at the first NUL, or at the end of its field; blanks around it do not
count. -/
def versionText (field : List UInt8) : String :=
  Text.trim (Text.Utf8.text (field.takeWhile (· != 0)))

/-- The controller's version and library, from a payload of at least thirteen bytes. -/
def readControllerInfo (payload : List UInt8) : ControllerInfo :=
  ⟨versionText (payload.take versionTextLength),
    Library.ofCode (payload.getD versionTextLength 0)⟩

namespace QueryTarget

/-- The answer in a report's data, if the data is long enough. -/
def readReport? (target : QueryTarget) (data : List UInt8) : Option Answer :=
  match target, data with
  | .version, library :: protocol :: subprotocol :: application :: subapplication :: _ =>
      some (.nodeVersion (Library.ofCode library) (protocol, subprotocol)
        (application, subapplication))
  | .version, _ => none
  | _, level :: _ => some (.level level)
  | _, [] => none

/-- The bytes in front of a report's data: status, node, count, command class, command. -/
def reportHeader : Nat := 5

/-- Judge an application command from the node that was asked. -/
def judgeReport (target : QueryTarget) (frame : Frame) : Except ReadError Verdict :=
  let tooShort (expected actual : Nat) : Except ReadError Verdict :=
    .error (.malformed (.tooShort frame.messageClass expected actual))
  match frame.payload with
  | _ :: _ :: count :: commandClass :: command :: rest =>
      if frame.payload.length < 3 + count.toNat then
        tooShort (3 + count.toNat) frame.payload.length
      else if commandClass ≠ target.commandClass.code ∨ command ≠ target.commands.2 then
        .ok .unrelated
      else if count.toNat < 2 then .error .fault
      else
        let data := rest.take (count.toNat - 2)
        match target.readReport? data with
        | some answer => .ok (.settled (.answered answer))
        | none => tooShort (reportHeader + target.reportLength) (reportHeader + data.length)
  | _ => tooShort reportHeader frame.payload.length

/-- A report is read exactly when its data is long enough. -/
theorem readReport?_eq_none_iff {target : QueryTarget} {data : List UInt8} :
    target.readReport? data = none ↔ data.length < target.reportLength := by
  cases target
  case version =>
    match data with
    | [] | [_] | [_, _] | [_, _, _] | [_, _, _, _] => simp [readReport?, reportLength]
    | _ :: _ :: _ :: _ :: _ :: _ => simp [readReport?, reportLength]
  all_goals cases data <;> simp [readReport?, reportLength]

end QueryTarget

/-- Succeeds when the payload is long enough. -/
def Frame.readable (frame : Frame) (least : Nat) : Except ReadError Unit :=
  (frame.requireLength least).mapError .malformed

namespace Command

/-- Judge the controller's word on a transmission. A question that it took is still to be answered;
anything else it took is done. -/
def judgeTransmission (command : Command) (status : UInt8) : Verdict :=
  if status = 0 then .settled .rejected
  else match command with
    | .query _ _ => .acknowledged
    | _ => .settled (.answered .transmitted)

/-- Judge a frame by its message class. -/
def judge (command : Command) (frame : Frame) : Except ReadError Verdict :=
  match frame.messageClass with
  | .getVersion => do
      frame.readable (versionTextLength + 1)
      return .settled (.answered (.controllerVersion (readControllerInfo frame.payload)))
  | .isFailedNode => do
      frame.readable 1
      return .settled (.answered (.nodeFailed (frame.payload.getD 0 0 != 0)))
  | .sendData => do
      frame.readable 1
      return command.judgeTransmission (frame.payload.getD 0 0)
  | .applicationCommand =>
      match command with
      | .query _ target => target.judgeReport frame
      | _ => .ok .unrelated
  | .initData | .applicationUpdate => .ok .unrelated

end Command

end ZWaveGateway
