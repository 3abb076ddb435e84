import ZWaveGateway.Proofs.Gateway.Lifecycle
import ZWaveGateway.Proofs.Tracker.ResponseOrder
import Mathlib.Data.List.Infix

/-!
# Answers to frames that open no transaction

A frame that opens no transaction leaves no trace in the tracker, and its answer, if it is a plain
response, names no node. Here commands and such frames are written in any order and answered in that
order, each once (`ZWaveGateway.Gateway.Conversation`). Those in line for a response of a class are
then the last of the commands of the class that are still to be answered, and not always all of them
(`ZWaveGateway.Gateway.Conversation.awaiting_suffix`).

An answer to a frame that opened no transaction is therefore passed on as unsolicited if no command
of its class was written behind that frame. Otherwise the first in line behind it takes the answer
for its own (`ZWaveGateway.Gateway.Conversation.untracked_answered`).
-/

namespace ZWaveGateway

/-- A frame that was written and has had no answer yet, with the transaction that it opened. -/
structure Unanswered where
  messageClass : MessageClass
  opened : Option TransactionId
  deriving DecidableEq

namespace Unanswered

/-- The frame of a command, if it was submitted. -/
def ofSubmission (command : Command) : Except RequestError Ticket → List Unanswered
  | .ok ticket => [⟨command.frame.messageClass, some ticket.id⟩]
  | .error _ => []

/-- A frame that opens no transaction, if it was sent. -/
def ofUntracked (frame : Frame) : Except RequestError Unit → List Unanswered
  | .ok () => [⟨frame.messageClass, none⟩]
  | .error _ => []

/-- The transactions that frames of a class have opened, in order. -/
def openedIn (messageClass : MessageClass) (frames : List Unanswered) : List TransactionId :=
  frames.filterMap fun frame => if frame.messageClass = messageClass then frame.opened else none

/-- The frame's answer: a plain response of its class, with all the bytes of one. -/
structure AnsweredBy (unanswered : Unanswered) (frame : Frame) : Prop where
  plain : InFlight.isResponse frame = true
  sameClass : frame.messageClass = unanswered.messageClass
  whole : Command.leastResponse frame.messageClass ≤ frame.payload.length

variable {messageClass : MessageClass}

theorem openedIn_append (frames more : List Unanswered) :
    openedIn messageClass (frames ++ more) =
      openedIn messageClass frames ++ openedIn messageClass more :=
  List.filterMap_append

theorem openedIn_ofUntracked (frame : Frame) (result : Except RequestError Unit) :
    openedIn messageClass (ofUntracked frame result) = [] := by
  cases result with
  | error error => rfl
  | ok sent => simp [ofUntracked, openedIn]

theorem openedIn_ofSubmission (command : Command) (submission : Submission) :
    openedIn messageClass (ofSubmission command submission.result) =
      (Occurrence.submitted command submission).requested messageClass := by
  cases same : submission.result with
  | error error => simp [ofSubmission, openedIn, Occurrence.requested, Occurrence.accepted, same]
  | ok ticket =>
      by_cases chosen : command.frame.messageClass = messageClass <;>
        simp [ofSubmission, openedIn, Occurrence.requested, Occurrence.accepted, same, chosen]

end Unanswered

/-- Whoever stands in line was accepted with a command of the class. -/
theorem History.command_of_mem_awaiting {messageClass : MessageClass} {history : History}
    {id : TransactionId} (member : id ∈ history.awaiting messageClass) :
    ∃ command : Command, command.frame.messageClass = messageClass := by
  induction history with
  | nil => cases member
  | cons latest earlier before =>
      cases latest with
      | submitted command submission =>
          rcases List.mem_append.mp member with waited | joined
          · exact before waited
          · obtain ⟨entry, accepted, -⟩ := List.mem_map.mp joined
            exact ⟨entry.2, eq_of_beq (List.mem_filter.mp accepted).2⟩
      | received frame receipt =>
          rw [awaiting] at member
          split at member
          · exact before (List.mem_of_mem_tail member)
          · exact before member
      | expired expiry => exact before (List.mem_of_mem_filter member)

namespace Gateway

open InFlight Unanswered

variable {start gateway : Gateway} {history : History} {unanswered behind : List Unanswered}
  {messageClass : MessageClass}

/-- A conversation with the controller: its history, the frames still to be answered in the order in
which they were written, and the gateway it leads to. The transport may refuse what it likes; what
it takes is answered in order, each frame once. Frames that are no plain responses come in at any
time, and nothing times out. -/
inductive Conversation (start : Gateway) : History → List Unanswered → Gateway → Prop where
  | start : Conversation start [] [] start
  | refuse {history : History} {unanswered : List Unanswered} {gateway : Gateway}
      (conversation : Conversation start history unanswered gateway) (words : Option String) :
      Conversation start history unanswered (gateway.refuseWith words)
  | submit {history : History} {unanswered : List Unanswered} {gateway : Gateway}
      (conversation : Conversation start history unanswered gateway) (command : Command)
      (now : Instant) :
      Conversation start
        (.submitted command (gateway.tracker.submit command now gateway.outlet.refuses) :: history)
        (unanswered ++ ofSubmission command (gateway.submit command now).2)
        (gateway.submit command now).1
  | untracked {history : History} {unanswered : List Unanswered} {gateway : Gateway}
      (conversation : Conversation start history unanswered gateway) (frame : Frame) :
      Conversation start history
        (unanswered ++ ofUntracked frame (gateway.sendUntracked frame).2)
        (gateway.sendUntracked frame).1
  | answer {history : History} {first : Unanswered} {behind : List Unanswered} {gateway : Gateway}
      (conversation : Conversation start history (first :: behind) gateway) {frame : Frame}
      (answers : first.AnsweredBy frame) :
      Conversation start (.received frame (gateway.tracker.receive frame) :: history) behind
        (gateway.receive frame).1
  | aside {history : History} {unanswered : List Unanswered} {gateway : Gateway}
      (conversation : Conversation start history unanswered gateway) {frame : Frame}
      (other : isResponse frame = false) :
      Conversation start (.received frame (gateway.tracker.receive frame) :: history) unanswered
        (gateway.receive frame).1

/-- The tracker of a gateway goes through a run of its own. -/
theorem Conversation.tracked (conversation : Conversation start history unanswered gateway)
    (untouched : start.Untouched) :
    Tracker.Run start.tracker.timeout history gateway.tracker := by
  induction conversation with
  | start =>
      rw [untouched.tracker]
      exact .fresh
  | refuse conversation words run => exact run
  | submit conversation command now run =>
      rw [tracker_submit]
      exact run.submit command now _
  | untracked conversation frame run =>
      rw [tracker_sendUntracked]
      exact run
  | answer conversation answers run =>
      rw [tracker_receive]
      exact run.receive _
  | aside conversation other run =>
      rw [tracker_receive]
      exact run.receive _

/-- Taking the first off a line keeps it among the last of those whose first is gone as well. -/
private theorem tail_suffix {line rest : List TransactionId} (first : Option TransactionId)
    (last : line <:+ first.toList ++ rest) : line.tail <:+ rest := by
  cases first with
  | none => exact (List.tail_suffix line).trans last
  | some id =>
      rcases List.suffix_cons_iff.mp last with rfl | within
      · exact List.suffix_rfl
      · exact (List.tail_suffix line).trans within

/-- Those in line for a response of a class are the last of those who are still to be answered. -/
theorem Conversation.awaiting_suffix (conversation : Conversation start history unanswered gateway)
    (messageClass : MessageClass) :
    history.awaiting messageClass <:+ openedIn messageClass unanswered := by
  induction conversation with
  | start => exact List.suffix_rfl
  | refuse conversation words last => exact last
  | submit conversation command now last =>
      rw [openedIn_append, result_submit, openedIn_ofSubmission]
      exact List.suffix_append_self_iff.mpr last
  | untracked conversation frame last =>
      rw [openedIn_append, openedIn_ofUntracked, List.append_nil]
      exact last
  | @answer history first behind gateway conversation frame answers last =>
      rw [History.awaiting]
      -- The answer takes the head off the line of its class, even if it is not meant for it.
      by_cases same : frame.messageClass = messageClass
      · rw [if_pos ⟨answers.plain, same⟩]
        apply tail_suffix first.opened
        have opened : openedIn messageClass (first :: behind) =
            first.opened.toList ++ openedIn messageClass behind := by
          cases inside : first.opened <;>
            simp [openedIn, ← answers.sameClass, same, inside]
        exact opened ▸ last
      · rw [if_neg fun both => same both.2]
        have opened : openedIn messageClass (first :: behind) = openedIn messageClass behind := by
          simp [openedIn, ← answers.sameClass, same]
        exact opened ▸ last
  | aside conversation other last =>
      rw [History.awaiting, if_neg fun both => Bool.false_ne_true (other.symm.trans both.1)]
      exact last

/-- **An answer to a frame that opened no transaction is unsolicited unless somebody of its class
stands in line.** Those in line are the last of the commands of the class that were written behind
the frame. If nobody is, or the first has been completed by its report, the answer is passed on,
told once, and no transaction is touched; otherwise the first, which is in flight, is completed or
acknowledged by it and gives up its place. In particular the answer is passed on when no command of
the class was written behind the frame, and always in a class that no command is sent in. -/
theorem Conversation.untracked_answered
    (conversation : Conversation start history (⟨messageClass, none⟩ :: behind) gateway)
    (untouched : start.Untouched) {frame : Frame}
    (answers : Unanswered.AnsweredBy ⟨messageClass, none⟩ frame) :
    history.awaiting messageClass <:+ openedIn messageClass behind ∧
    ((gateway.receive frame).2 = .ok .unsolicited ↔
      ∀ id, (history.awaiting messageClass).head? = some id → id ∈ history.completed) ∧
    ((gateway.receive frame).2 = .ok .unsolicited →
      (gateway.tracker.receive frame).effects = [.tell (Event.ofFrame frame)] ∧
      (gateway.receive frame).1.tracker.inFlight.transactions =
        gateway.tracker.inFlight.transactions) ∧
    (∀ id, (history.awaiting messageClass).head? = some id → id ∉ history.completed →
      id ∈ gateway.tracker.inFlight.ids ∧
      ((gateway.receive frame).2 = .ok (.completed id) ∨
        (gateway.receive frame).2 = .ok (.acknowledged id)) ∧
      (gateway.receive frame).1.tracker.inFlight.owedTo messageClass =
        (history.awaiting messageClass).tail) ∧
    (openedIn messageClass behind = [] → (gateway.receive frame).2 = .ok .unsolicited) ∧
    ((∀ command : Command, command.frame.messageClass ≠ messageClass) →
      (gateway.receive frame).2 = .ok .unsolicited) := by
  obtain ⟨plain, rfl, whole⟩ := answers
  have run := conversation.tracked untouched
  have last : history.awaiting frame.messageClass <:+ openedIn frame.messageClass behind := by
    simpa [openedIn] using conversation.awaiting_suffix frame.messageClass
  have byFirst := run.takenByFirst plain
  have passedOn (nobody : history.awaiting frame.messageClass = []) :
      (gateway.tracker.receive frame).result = .ok .unsolicited := by
    refine (byFirst.lost fun id first => ?_).1
    rw [nobody] at first
    cases first
  rw [tracker_receive]
  change _ ∧ ((gateway.tracker.receive frame).result = _ ↔ _) ∧ _
  have iff : (gateway.tracker.receive frame).result = .ok .unsolicited ↔
      ∀ id, (history.awaiting frame.messageClass).head? = some id → id ∈ history.completed := by
    refine ⟨fun ignored id first => ?_, fun finished => (byFirst.lost finished).1⟩
    by_contra live
    obtain ⟨transaction, waiting, -, taken⟩ := byFirst.taken id first live
    rcases transaction.taking_of_whole whole with same | same <;>
      cases ignored.symm.trans (taken.trans same)
  refine ⟨last, iff, fun ignored => (byFirst.lost (iff.mp ignored)).2, ?_, ?_, ?_⟩
  · intro id first live
    obtain ⟨transaction, waiting, rfl, taken⟩ := byFirst.taken id first live
    refine ⟨mem_ids_iff.mpr ⟨transaction, waiting, rfl⟩, ?_, byFirst.spent⟩
    change (gateway.tracker.receive frame).result = _ ∨ (gateway.tracker.receive frame).result = _
    rw [taken]
    exact transaction.taking_of_whole whole
  · intro alone
    exact passedOn (List.suffix_nil.mp (alone ▸ last))
  · intro strange
    refine passedOn (List.eq_nil_iff_forall_not_mem.mpr fun id member => ?_)
    obtain ⟨command, same⟩ := History.command_of_mem_awaiting member
    exact strange command same

/-- The controller is asked for its nodes and then a node is set: the answer to the first goes past
the second. -/
theorem Conversation.untracked_answered_of_nodes :
    ∃ gateway history, oneListener.Untouched ∧
      Conversation oneListener history [⟨.initData, none⟩, ⟨.sendData, some ⟨1⟩⟩] gateway ∧
      Unanswered.AnsweredBy ⟨.initData, none⟩ (Frame.inbound .initData .response none [5]) ∧
      (gateway.receive (Frame.inbound .initData .response none [5])).2 = .ok .unsolicited := by
  have untouched : oneListener.Untouched := ⟨rfl, rfl, rfl⟩
  have conversation := ((@Conversation.start oneListener).untracked
    (Frame.request .initData .high none [])).submit (.set ⟨5⟩ (.basic 1)) ⟨0⟩
  have answers : Unanswered.AnsweredBy ⟨.initData, none⟩
      (Frame.inbound .initData .response none [5]) := ⟨by decide, rfl, by decide⟩
  refine ⟨_, _, untouched, conversation, answers, ?_⟩
  exact (conversation.untracked_answered untouched answers).2.2.2.2.1 (by decide)

/-- A frame to one node opens no transaction, and a command to another is written behind it: the
refusal of the first ends the second. -/
theorem untracked_answer_is_taken :
    ∃ gateway history, oneListener.Untouched ∧
      Conversation oneListener history [⟨.sendData, none⟩, ⟨.sendData, some ⟨1⟩⟩] gateway ∧
      Unanswered.AnsweredBy ⟨.sendData, none⟩ (Frame.inbound .sendData .response none [0]) ∧
      (gateway.receive (Frame.inbound .sendData .response none [0])).2 =
        .ok (.completed ⟨1⟩) ∧
      (gateway.receive (Frame.inbound .sendData .response none [0])).1.record.outcomes =
        [(⟨1⟩, .rejected)] := by
  have conversation := ((@Conversation.start oneListener).untracked
    (Frame.request .sendData .set (some ⟨7⟩) [7, 3, 0x20, 0x01, 1, 0x25])).submit
    (.set ⟨5⟩ (.basic 1)) ⟨0⟩
  exact ⟨_, _, ⟨rfl, rfl, rfl⟩, conversation, ⟨by decide, rfl, by decide⟩, by decide, by decide⟩

end Gateway

end ZWaveGateway
