import ZWaveGateway.Command.Layout
import ZWaveGateway.Event.Basic
import ZWaveGateway.Log
import ZWaveGateway.Tracker.InFlight

/-!
# The tracker

The tracker submits commands and ties incoming frames to the transactions they answer. What it
wants done besides, it lists as effects, in order: settle a transaction's handle, tell an event,
write a line to the log.

A submission first registers its transaction and then offers the frame to the transport; if that
refuses, the registration is taken back.
-/

namespace ZWaveGateway

/-- Something the tracker wants done. -/
inductive Effect where
  | log (line : LogLine)
  | tell (event : Event)
  /-- The transaction has ended, and whoever holds its handle learns how. -/
  | settle (id : TransactionId) (outcome : Outcome)
  deriving DecidableEq

/-- What a submitter is given: which transaction it has opened. -/
structure Ticket where
  id : TransactionId
  key : Key
  deriving DecidableEq, Repr

/-- What the tracker did with an incoming frame. -/
inductive Disposition where
  | completed (id : TransactionId)
  /-- The controller took the question; its report is still to come. -/
  | acknowledged (id : TransactionId)
  | unsolicited
  deriving DecidableEq, Repr

/-- Why an incoming frame was not processed. -/
inductive ReceiveError where
  | malformed (error : FrameError)
  /-- Reading the frame broke off; whoever fed it ends with it. -/
  | fault
  deriving DecidableEq, Repr

/-- The transactions in flight, the ids given out, and what the controller said about itself. -/
structure Tracker where
  timeout : Duration
  lastId : Nat
  inFlight : InFlight
  controllerInfo : Option ControllerInfo
  deriving DecidableEq

/-- What submitting a command comes to. -/
structure Submission where
  tracker : Tracker
  effects : List Effect
  /-- The frame that was offered to the transport. -/
  offered : Option Frame
  result : Except RequestError Ticket

/-- What receiving a frame comes to. -/
structure Receipt where
  tracker : Tracker
  effects : List Effect
  result : Except ReceiveError Disposition

/-- What sweeping overdue transactions comes to. -/
structure Expiry where
  tracker : Tracker
  effects : List Effect
  expired : List TransactionId

namespace Tracker

/-- A tracker that has submitted nothing. -/
def fresh (timeout : Duration) : Tracker :=
  ⟨timeout, 0, InFlight.empty, none⟩

/-- Give a command an id and put it in flight, unless another one with its key is. -/
def register (tracker : Tracker) (command : Command) (now : Instant) :
    Except RequestError (Ticket × Tracker) :=
  let key := Key.ofCommand command
  if tracker.inFlight.contains key then .error (.duplicateInFlight key)
  else
    let id : TransactionId := ⟨tracker.lastId + 1⟩
    .ok (⟨id, key⟩,
      { tracker with
        lastId := tracker.lastId + 1
        inFlight := tracker.inFlight.add (Transaction.issue id command now) })

/-- Take a registration back after the transport refused the frame. -/
def rollBack (tracker : Tracker) (ticket : Ticket) : Tracker :=
  { tracker with inFlight := tracker.inFlight.discard ticket.key ticket.id }

/-- The line that says why a frame was not sent. -/
def refusalLine (id : TransactionId) (words : String) : LogLine :=
  ⟨.error, "Failed to send transaction " ++ id.text ++ ": " ++ words⟩

/-- Submit a command. The transport takes a frame, or refuses it in words of its own. -/
def submit (tracker : Tracker) (command : Command) (now : Instant)
    (refuses : Frame → Option String) : Submission :=
  match tracker.register command now with
  | .error error => ⟨tracker, [], none, .error error⟩
  | .ok (ticket, registered) =>
      match refuses command.frame with
      | none => ⟨registered, [], some command.frame, .ok ticket⟩
      | some words =>
          ⟨registered.rollBack ticket, [.log (refusalLine ticket.id words)], some command.frame,
            .error (.transport words)⟩

/-- Who was given a ticket had the command's own frame offered. -/
theorem offered_of_ok {tracker : Tracker} {command : Command} {now : Instant}
    {refuses : Frame → Option String} {ticket : Ticket}
    (taken : (tracker.submit command now refuses).result = .ok ticket) :
    (tracker.submit command now refuses).offered = some command.frame := by
  unfold submit at taken ⊢
  cases registered : tracker.register command now with
  | error error =>
      rw [registered] at taken
      cases taken
  | ok pair => cases refuses command.frame <;> rfl

/-- What follows from the end of a transaction: its handle is settled, the outcome is told, and so
is a failed node. -/
def completion (transaction : Transaction) (outcome : Outcome) : List Effect :=
  let key := transaction.key
  [.settle transaction.id outcome, .tell (.completed transaction.id key outcome)] ++
    match outcome, key.node with
    | .answered (.nodeFailed true), some node =>
        [.log ⟨.warn, "Controller reports node " ++ node.text ++ " as failed"⟩,
          .tell (.nodeFailed node)]
    | _, _ => []

/-- What the controller is known to have said about itself after an outcome. -/
def learn (known : Option ControllerInfo) : Outcome → Option ControllerInfo
  | .answered (.controllerVersion info) => some info
  | _ => known

/-- Pass on a frame that answers nothing. -/
def passOn (tracker : Tracker) (frame : Frame) (effects : List Effect) : Receipt :=
  ⟨tracker, effects ++ [.tell (Event.ofFrame frame)], .ok .unsolicited⟩

/-- Process an incoming frame. -/
def receive (tracker : Tracker) (frame : Frame) : Receipt :=
  let (claimed, inFlight) := tracker.inFlight.claim frame
  let tracker := { tracker with inFlight }
  match claimed with
  | none => tracker.passOn frame []
  | some (key, transaction) =>
      match transaction.receive frame with
      | (ended, .ok .answered) =>
          match ended.outcome with
          | some outcome =>
              ⟨{ tracker with
                  inFlight := inFlight.remove key
                  controllerInfo := learn tracker.controllerInfo outcome },
                completion ended outcome, .ok (.completed ended.id)⟩
          | none =>
              ⟨{ tracker with inFlight := inFlight.remove key }, [], .ok (.completed ended.id)⟩
      | (_, .ok .acknowledged) => ⟨tracker, [], .ok (.acknowledged transaction.id)⟩
      | (_, .ok .notAnAnswer) => tracker.passOn frame []
      | (_, .error (.malformed error)) =>
          ⟨tracker,
            [.log ⟨.warn, "Malformed answer for " ++ key.text ++ ": " ++ error.message⟩],
            .error (.malformed error)⟩
      | (_, .error (.transition error)) =>
          { tracker with inFlight := inFlight.discard key transaction.id }.passOn frame
            [.log ⟨.error, "Transaction for " ++ key.text ++ " could not complete: " ++
              error.message⟩]
      | (_, .error .fault) => ⟨tracker, [], .error .fault⟩

/-- What follows when a transaction's time is up, and whether it ended by that. -/
def lapse (timeout : Duration) (transaction : Transaction) :
    List Effect × Option TransactionId :=
  match transaction.timeOut timeout with
  | .error error =>
      ([.log ⟨.error, "Cannot time out " ++ transaction.id.text ++ ": " ++ error.message⟩], none)
  | .ok ended =>
      ((ended.outcome.map (Effect.settle ended.id)).toList ++
        [.log ⟨.warn, "Transaction " ++ ended.id.text ++ " for " ++ ended.key.text ++
            " timed out after " ++ timeout.text⟩,
          .tell (.timedOut ended.id ended.key)],
        some ended.id)

/-- Time out transactions that were found in flight, in the order in which they were found. -/
def lapseAll (tracker : Tracker) (found : List (Key × Transaction)) : Expiry :=
  let lapses := found.map fun entry => lapse tracker.timeout entry.2
  { tracker := { tracker with inFlight := tracker.inFlight.without found }
    effects := lapses.flatMap (·.1)
    expired := lapses.filterMap (·.2) }

/-- A sweep at an instant, and what it comes to. It times out every transaction that has waited for
the timeout; in which order it finds them is left open, as nothing orders what is in flight. -/
inductive Sweep (tracker : Tracker) (now : Instant) : Expiry → Prop where
  | found {found : List (Key × Transaction)}
      (all : found.Perm (tracker.inFlight.overdue now tracker.timeout)) :
      Sweep tracker now (tracker.lapseAll found)

/-- The sweep that finds the transactions in the order in which they were submitted. -/
def expire (tracker : Tracker) (now : Instant) : Expiry :=
  tracker.lapseAll (tracker.inFlight.overdue now tracker.timeout)

theorem sweep_expire (tracker : Tracker) (now : Instant) :
    Sweep tracker now (tracker.expire now) :=
  .found (.refl _)

/-- How many transactions are in flight. -/
def pendingCount (tracker : Tracker) : Nat :=
  tracker.inFlight.entries.length

end Tracker

end ZWaveGateway
