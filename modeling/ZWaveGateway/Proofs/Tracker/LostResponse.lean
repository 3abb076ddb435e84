import ZWaveGateway.Proofs.Tracker.MalformedAnswer
import ZWaveGateway.Proofs.Tracker.ResponseOrder
import Mathlib.Data.List.Infix

/-!
# What becomes of a lost response

A transaction whose time is up gives up the response that is owed to it. A question that was
answered by its report has left by then, and what it is owed stays in the queue: if that response
was lost on the line, no sweep forgets it. The transactions concerned are those that were overtaken
(`ZWaveGateway.History.overtaken`): completed while they still stood in line for their response.

From then on the responses of the class are out of step with the requests, by as many places as
transactions were overtaken (`ZWaveGateway.Tracker.Run.lost_responses_stay`).
-/

namespace ZWaveGateway

namespace History

/-- The completed transactions that still stand in line for a response of a class. -/
def overtaken (messageClass : MessageClass) (history : History) : List TransactionId :=
  (history.awaiting messageClass).filter (· ∈ history.completed)

theorem gather_append {Entry : Type} (part : Occurrence → List Entry) (later earlier : History) :
    gather part (later ++ earlier) = gather part earlier ++ gather part later := by
  rw [gather, List.reverse_append, List.flatMap_append, gather, gather]

theorem exists_of_mem_completed {history : History} {id : TransactionId}
    (member : id ∈ history.completed) :
    ∃ frame receipt, .received frame receipt ∈ history ∧ receipt.result = .ok (.completed id) := by
  obtain ⟨occurrence, occurred, completes⟩ := List.mem_flatMap.mp member
  rw [List.mem_reverse] at occurred
  cases occurrence with
  | submitted command submission => cases completes
  | expired expiry => cases completes
  | received frame receipt =>
      refine ⟨frame, receipt, occurred, ?_⟩
      simp only [Occurrence.completed] at completes
      split at completes
      · next ended same =>
          rw [List.mem_singleton.mp completes]
          exact same
      · cases completes

end History

namespace Tracker

open InFlight

variable {tracker final : Tracker} {history later : History} {timeout : Duration}
  {messageClass : MessageClass} {id : TransactionId} {now : Instant} {expiry : Expiry}

/-! ## Who is overtaken -/

/-- A run was a run before its latest occurrences. -/
theorem Run.earlier (run : Run timeout (later ++ history) final) :
    ∃ tracker, Run timeout history tracker := by
  induction later generalizing final with
  | nil => exact ⟨final, run⟩
  | cons latest earlier before =>
      cases run with
      | submit run command now refuses => exact before run
      | receive run frame => exact before run
      | sweep run sweep => exact before run

/-- A plain response that completes a transaction is the one that was owed to it. -/
theorem unowed_of_completed (coherent : tracker.inFlight.Coherent tracker.lastId) {frame : Frame}
    (plain : isResponse frame = true)
    (completes : (tracker.receive frame).result = .ok (.completed id)) :
    (tracker.receive frame).tracker.Unowed id := by
  have outcome := received coherent frame
  generalize tracker.receive frame = receipt at outcome completes ⊢
  cases outcome with
  | passedOn useless => cases completes
  | acknowledged waiting addressed judged => cases completes
  | malformed waiting addressed judged => cases completes
  | faulted waiting addressed judged => cases completes
  | @completed transaction outcome waiting addressed judged =>
      cases completes
      refine ⟨coherent.known transaction waiting, fun owed member => ?_⟩
      change owed ∈ (tracker.inFlight.claim frame).2.owed at member
      rw [coherent.owed_claim_of_addresses plain addressed] at member
      exact bne_iff_ne.mp (List.mem_filter.mp member).2

/-- What is still owed to a completed transaction was overtaken by its report. -/
theorem Run.report_of_overtaken (run : Run timeout history tracker)
    (member : id ∈ history.overtaken messageClass) :
    ∃ frame receipt, .received frame receipt ∈ history ∧
      receipt.result = .ok (.completed id) ∧ isResponse frame = false := by
  obtain ⟨line, completed⟩ := List.mem_filter.mp member
  rw [← run.owedTo_eq_awaiting] at line
  obtain ⟨owed, queued, rfl⟩ := List.mem_map.mp line
  obtain ⟨frame, receipt, occurred, completes⟩ :=
    History.exists_of_mem_completed (of_decide_eq_true completed)
  refine ⟨frame, receipt, occurred, completes, Bool.eq_false_iff.mpr fun plain => ?_⟩
  -- A response that completed it would have been the one it was owed.
  obtain ⟨after, before, rfl⟩ := List.append_of_mem occurred
  obtain ⟨_, past⟩ := run.earlier
  cases past with
  | receive past frame =>
      have unowed := run.unowed (unowed_of_completed past.accounts.coherent plain completes)
      exact unowed.absent owed (List.mem_of_mem_filter queued) rfl

/-! ## What a sweep leaves -/

theorem expired_of_elapsed (coherent : tracker.inFlight.Coherent tracker.lastId)
    (sweep : Sweep tracker now expiry)
    (elapsed : ∀ transaction ∈ tracker.inFlight.transactions,
      transaction.isOverdue now tracker.timeout = true) :
    expiry.expired.Perm tracker.inFlight.ids ∧ expiry.tracker.inFlight.transactions = [] := by
  obtain ⟨all⟩ := expired coherent sweep
  constructor
  · rw [lapsing, List.filter_eq_self.mpr elapsed] at all
    exact all.map _
  · rw [transactions_spared, List.filter_eq_nil_iff]
    intro transaction waiting
    rw [elapsed transaction waiting]
    exact Bool.false_ne_true

/-- When the time of everything in flight is up, the line is left to those who were overtaken. -/
theorem Run.awaiting_sweep (run : Run timeout history tracker) (sweep : Sweep tracker now expiry)
    (elapsed : ∀ transaction ∈ tracker.inFlight.transactions,
      transaction.isOverdue now tracker.timeout = true) :
    History.awaiting messageClass (.expired expiry :: history) =
      history.overtaken messageClass := by
  rw [History.awaiting, History.overtaken]
  refine List.filter_congr fun id member => ?_
  rw [← run.owedTo_eq_awaiting] at member
  obtain ⟨owed, queued, rfl⟩ := List.mem_map.mp member
  have gone := (expired_of_elapsed run.accounts.coherent sweep elapsed).1
  rw [gone.contains_eq, List.contains_eq_mem, ← decide_not]
  refine decide_eq_decide.mpr ⟨fun gone => ?_, fun completed waits => ?_⟩
  · exact (run.owed_live owed (List.mem_of_mem_filter queued)).resolve_left gone
  · exact run.accounts.not_ended waits (History.mem_ended_of_mem_completed completed)

/-! ## What comes after -/

/-- Those who have ended and stand in front of a line are moved on by responses only. -/
theorem Run.drop_prefix_awaiting (run : Run timeout (later ++ history) final)
    {front : List TransactionId} (ended : ∀ id ∈ front, id ∈ history.ended)
    (first : front <+: history.awaiting messageClass) :
    front.drop (later.responses messageClass) <+: (later ++ history).awaiting messageClass := by
  induction later generalizing final with
  | nil => exact first
  | cons latest earlier before =>
      rw [History.responses_cons, List.cons_append]
      cases run with
      | submit run command now refuses =>
          exact (before run).trans (List.prefix_append _ _)
      | @receive _ tracker run frame =>
          simp only [History.awaiting, Occurrence.responds, Bool.and_eq_true, beq_iff_eq]
          split
          · rw [← List.tail_drop, ← List.drop_one, ← List.drop_one]
            exact (before run).drop 1
          · exact before run
      | @sweep _ tracker run now expiry sweep =>
          have kept : ∀ id ∈ front.drop (History.responses messageClass earlier),
              (!expiry.expired.contains id) = true := by
            intro id member
            have past : id ∈ History.ended (earlier ++ history) := by
              rw [History.ended, History.gather_append]
              exact List.mem_append_left _ (ended id (List.mem_of_mem_drop member))
            rw [Bool.not_eq_true', List.contains_eq_mem, decide_eq_false_iff_not]
            intro lapsed
            have twice := (List.nodup_append.mp (run.sweep sweep).accounts.parts_nodup).2.1
            rw [History.ended_cons] at twice
            exact (List.nodup_append.mp twice).2.2 id past id lapsed rfl
          exact List.filter_eq_self.mpr kept ▸ (before run).filter _

/-- **A response that was lost is forgotten only with the transaction that waits for it.** When the
time of everything in flight is up, a sweep leaves nothing in flight, and in every class exactly the
transactions that were overtaken stand in line for a response: they were completed by a frame that
is no plain response. The queue is empty exactly if nobody was overtaken.

Whatever happens afterwards, the next responses of the class are lost, one for each of them; and
while nothing times out and the controller responds to each request in turn, every response is taken
by the request that is as many places in front of its own. -/
theorem Run.lost_responses_stay (run : Run timeout history tracker)
    (sweep : Sweep tracker now expiry)
    (elapsed : ∀ transaction ∈ tracker.inFlight.transactions,
      transaction.isOverdue now tracker.timeout = true) :
    expiry.tracker.inFlight.entries = [] ∧
    (∀ messageClass, expiry.tracker.inFlight.owedTo messageClass =
      history.overtaken messageClass) ∧
    (expiry.tracker.inFlight.owed = [] ↔ ∀ messageClass, history.overtaken messageClass = []) ∧
    (∀ messageClass, ∀ id ∈ history.overtaken messageClass, ∃ frame receipt,
      .received frame receipt ∈ history ∧ receipt.result = .ok (.completed id) ∧
        isResponse frame = false) ∧
    ∀ messageClass later final,
      Run timeout (later ++ .expired expiry :: history) final →
      ∀ frame, isResponse frame = true → frame.messageClass = messageClass →
        (later.responses messageClass < (history.overtaken messageClass).length →
          (final.receive frame).result = .ok .unsolicited ∧
          (final.receive frame).effects = [.tell (Event.ofFrame frame)] ∧
          (final.receive frame).tracker.inFlight.transactions = final.inFlight.transactions) ∧
        (later.Orderly messageClass →
          TakenByFirst final frame
            ((history.overtaken messageClass ++ later.requested messageClass).drop
              (later.responses messageClass))
            (later ++ .expired expiry :: history).completed (final.receive frame)) := by
  have swept := run.sweep sweep
  have line (messageClass : MessageClass) :
      expiry.tracker.inFlight.owedTo messageClass = history.overtaken messageClass := by
    rw [swept.owedTo_eq_awaiting, run.awaiting_sweep sweep elapsed]
  refine ⟨?_, line, ?_, fun messageClass id member => run.report_of_overtaken member, ?_⟩
  · exact List.map_eq_nil_iff.mp (expired_of_elapsed run.accounts.coherent sweep elapsed).2
  · constructor
    · intro empty messageClass
      rw [← line, owedTo, empty]
      rfl
    · intro nobody
      refine List.eq_nil_iff_forall_not_mem.mpr fun owed queued => ?_
      have member : owed.id ∈ expiry.tracker.inFlight.owedTo owed.messageClass :=
        List.mem_map_of_mem (List.mem_filter.mpr ⟨queued, beq_self_eq_true _⟩)
      rw [line, nobody] at member
      cases member
  · rintro messageClass later final goesOn frame plain rfl
    have taken := goesOn.takenByFirst plain
    refine ⟨fun lost => ?_, fun orderly => ?_⟩
    · have completed : ∀ id ∈ history.overtaken frame.messageClass,
          id ∈ History.completed (.expired expiry :: history) := by
        intro id member
        rw [History.completed_cons]
        exact List.mem_append_left _ (of_decide_eq_true (List.mem_filter.mp member).2)
      have line : history.overtaken frame.messageClass <+:
          History.awaiting frame.messageClass (.expired expiry :: history) := by
        rw [run.awaiting_sweep sweep elapsed]
      obtain ⟨rest, split⟩ := goesOn.drop_prefix_awaiting
        (fun id member => History.mem_ended_of_mem_completed (completed id member)) line
      have somebody := mt List.drop_eq_nil_iff.mp (Nat.not_le.mpr lost)
      apply taken.lost
      intro id first
      rw [← split, List.head?_append_of_ne_nil _ somebody] at first
      rw [History.completed, History.gather_append]
      exact List.mem_append_left _
        (completed id (List.mem_of_mem_drop (List.mem_of_mem_head? first)))
    · rw [← run.awaiting_sweep sweep elapsed, ← History.awaiting_append_of_orderly orderly]
      exact taken

/-- A node was asked for its level and has reported it, and the response to the question is lost. -/
theorem Run.lost_responses_stay_of_report :
    ∃ history tracker, Run ⟨10⟩ history tracker ∧
      (∀ transaction ∈ tracker.inFlight.transactions,
        transaction.isOverdue ⟨10⟩ tracker.timeout = true) ∧
      tracker.inFlight.ids = [⟨2⟩] ∧ history.overtaken .sendData = [⟨1⟩] ∧
      (tracker.expire ⟨10⟩).tracker.inFlight.owedTo .sendData = [⟨1⟩] := by
  have run := (((@Run.fresh ⟨10⟩).submit (.query ⟨9⟩ .basic) ⟨0⟩ fun _ => none).receive
    (Frame.inbound .applicationCommand .request (some ⟨9⟩) [0, 9, 3, 0x20, 0x03, 99])).submit
    (.query ⟨5⟩ .version) ⟨0⟩ fun _ => none
  refine ⟨_, _, run, by decide, by decide, by decide, ?_⟩
  exact ((Run.lost_responses_stay run (sweep_expire _ _) (by decide)).2.1 .sendData).trans (by decide)

/-- A node is asked for its level and reports it; the response to the question is lost, and its time
goes by. Then the response to a later request is not taken by that request. -/
theorem lost_response_is_remembered :
    let asked := ((fresh ⟨10⟩).submit (.query ⟨9⟩ .basic) ⟨0⟩ fun _ => none).tracker
    let told := (asked.receive (Frame.inbound .applicationCommand .request (some ⟨9⟩)
      [0, 9, 3, 0x20, 0x03, 99])).tracker
    let swept := (told.expire ⟨10⟩).tracker
    let later := (swept.submit (.set ⟨5⟩ (.basic 1)) ⟨11⟩ fun _ => none).tracker
    (∃ history, Run ⟨10⟩ history later) ∧ swept.inFlight.entries = [] ∧
      swept.inFlight.owed ≠ [] ∧ later.inFlight.ids = [⟨2⟩] ∧
      (later.receive (Frame.inbound .sendData .response none [1])).result =
        .ok .unsolicited := by
  have run := ((((@Run.fresh ⟨10⟩).submit (.query ⟨9⟩ .basic) ⟨0⟩ fun _ => none).receive
    (Frame.inbound .applicationCommand .request (some ⟨9⟩) [0, 9, 3, 0x20, 0x03, 99])).sweep
    (sweep_expire _ ⟨10⟩)).submit (.set ⟨5⟩ (.basic 1)) ⟨11⟩ fun _ => none
  exact ⟨⟨_, run⟩, by decide, by decide, by decide, by decide⟩

end Tracker

end ZWaveGateway
