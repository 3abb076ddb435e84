import ZWaveGateway.Proofs.Tracker.ResponseOrder

/-!
# The invariant of the tracker

Keys are used again once they are free, and what is owed to a transaction can outlive it. So a key
in the queue of owed responses may by now belong to another transaction; the id beside it settles
whether the one it was written for still waits (`ZWaveGateway.InFlight.Coherent.isLive_iff`).

`ZWaveGateway.Tracker.Run.invariant` collects what holds in every state of a run, and which branches
of the operations it rules out.
-/

namespace ZWaveGateway

namespace InFlight

variable {inFlight : InFlight} {last : Nat}

/-- Whoever waits under the key of an owed response by now, it is live exactly if the transaction it
is owed to is in flight. -/
theorem Coherent.isLive_iff (coherent : inFlight.Coherent last) {owed : Owed}
    (queued : owed ∈ inFlight.owed) :
    inFlight.isLive owed.key owed.id = true ↔ owed.id ∈ inFlight.ids := by
  rw [isLive, Option.any_eq_true, mem_ids_iff]
  constructor
  · rintro ⟨transaction, found, same⟩
    exact ⟨transaction, (coherent.get?_eq_some_iff.mp found).1, eq_of_beq same⟩
  · rintro ⟨transaction, waiting, same⟩
    have agrees := (coherent.owedAgrees owed queued transaction waiting same).1
    exact ⟨transaction, coherent.get?_eq_some_iff.mpr ⟨waiting, agrees.symm⟩, beq_iff_eq.mpr same⟩

end InFlight

namespace Tracker

open InFlight

variable {tracker : Tracker} {history : History} {timeout : Duration}

/-- What holds in every state of a run. What is in flight is coherent, also while the transport has
not decided on a new transaction; an owed response is not live exactly if its transaction has ended.
The rest says what the operations need not expect: that the transaction a frame is for is not there,
that it has ended before, that it has no outcome when it is answered, or that one whose time is up
has ended before. -/
structure Invariant (history : History) (tracker : Tracker) : Prop where
  coherent : tracker.inFlight.Coherent tracker.lastId
  registered : ∀ command now ticket after, tracker.register command now = .ok (ticket, after) →
    after.inFlight.Coherent after.lastId
  live : ∀ owed ∈ tracker.inFlight.owed,
    tracker.inFlight.isLive owed.key owed.id = false ↔ owed.id ∈ history.ended
  present : ∀ frame key transaction,
    (tracker.inFlight.claim frame).1 = some (key, transaction) →
      (tracker.inFlight.claim frame).2.get? key = some transaction
  possible : ∀ frame key transaction error,
    (tracker.inFlight.claim frame).1 = some (key, transaction) →
      (transaction.receive frame).2 ≠ .error (.transition error)
  answered : ∀ frame key transaction,
    (tracker.inFlight.claim frame).1 = some (key, transaction) →
      (transaction.receive frame).2 = .ok .answered →
        ∃ outcome, (transaction.receive frame).1.outcome = some outcome
  lapses : ∀ now key transaction,
    (key, transaction) ∈ tracker.inFlight.overdue now tracker.timeout →
      ∃ ended, transaction.timeOut tracker.timeout = .ok ended

theorem coherent_of_register (coherent : tracker.inFlight.Coherent tracker.lastId)
    {command : Command} {now : Instant} {ticket : Ticket} {after : Tracker}
    (registered : tracker.register command now = .ok (ticket, after)) :
    after.inFlight.Coherent after.lastId := by
  cases free : tracker.inFlight.contains (Key.ofCommand command) with
  | true =>
      rw [register_of_taken free] at registered
      cases registered
  | false =>
      rw [register_of_free free] at registered
      cases registered
      exact coherent.add free

/-- What an owed response is owed to has ended, if it is not in flight. -/
theorem Run.isLive_eq_false_iff (run : Run timeout history tracker) {owed : Owed}
    (queued : owed ∈ tracker.inFlight.owed) :
    tracker.inFlight.isLive owed.key owed.id = false ↔ owed.id ∈ history.ended := by
  have accounts := run.accounts
  rw [← Bool.not_eq_true, accounts.coherent.isLive_iff queued]
  constructor
  · intro gone
    have completed := (run.owed_live owed queued).resolve_left gone
    exact History.mem_ended_of_mem_completed completed
  · intro ended waiting
    exact accounts.not_ended waiting ended

/-- What a frame can do to the transaction it is for does not include a second end, and its first
one comes with an outcome. -/
theorem receive_of_claim (coherent : tracker.inFlight.Coherent tracker.lastId) {frame : Frame}
    {key : Key} {transaction : Transaction}
    (claimed : (tracker.inFlight.claim frame).1 = some (key, transaction)) :
    (∀ error, (transaction.receive frame).2 ≠ .error (.transition error)) ∧
      ((transaction.receive frame).2 = .ok .answered →
        ∃ outcome, (transaction.receive frame).1.outcome = some outcome) := by
  obtain ⟨waiting, -, -⟩ := coherent.claim_eq_some_iff.mp claimed
  rw [Transaction.receive_of_pending (coherent.pending transaction waiting)]
  cases judged : transaction.command.judge frame with
  | error error =>
      refine ⟨fun impossible same => ?_, nofun⟩
      obtain rfl := Except.error.inj same
      exact transaction.command.judge_ne_transition frame impossible judged
  | ok verdict =>
      cases verdict with
      | settled outcome => exact ⟨nofun, fun _ => ⟨outcome, rfl⟩⟩
      | unrelated => exact ⟨nofun, nofun⟩
      | acknowledged => exact ⟨nofun, nofun⟩

theorem timeOut_of_overdue (coherent : tracker.inFlight.Coherent tracker.lastId) {now : Instant}
    {key : Key} {transaction : Transaction}
    (overdue : (key, transaction) ∈ tracker.inFlight.overdue now timeout) (after : Duration) :
    ∃ ended, transaction.timeOut after = .ok ended := by
  have waiting : transaction ∈ tracker.inFlight.transactions :=
    mem_transactions_iff.mpr ⟨key, List.mem_of_mem_filter overdue⟩
  exact ⟨_, Transaction.finish_of_pending (coherent.pending transaction waiting) _ _⟩

/-- **The invariant of the tracker** holds after every run. -/
theorem Run.invariant (run : Run timeout history tracker) : Invariant history tracker := by
  have coherent := run.accounts.coherent
  constructor
  · exact coherent
  · intro command now ticket after registered
    exact coherent_of_register coherent registered
  · intro owed queued
    exact run.isLive_eq_false_iff queued
  · intro frame key transaction claimed
    obtain ⟨waiting, named, -⟩ := coherent.claim_eq_some_iff.mp claimed
    rw [← transactions_claim tracker.inFlight frame] at waiting
    exact (coherent.claim frame).get?_eq_some_iff.mpr ⟨waiting, named⟩
  · intro frame key transaction error claimed
    exact (receive_of_claim coherent claimed).1 error
  · intro frame key transaction claimed
    exact (receive_of_claim coherent claimed).2
  · intro now key transaction overdue
    exact timeOut_of_overdue coherent overdue tracker.timeout

/-- A node reports before the controller has responded to the question, and is asked again: the
response is owed to the first question, under a key that the second has taken. -/
theorem Run.invariant_of_reused_key :
    ∃ history tracker, Run ⟨10⟩ history tracker ∧ ∃ owed ∈ tracker.inFlight.owed,
      tracker.inFlight.contains owed.key = true ∧ owed.id ∈ history.ended ∧
        tracker.inFlight.isLive owed.key owed.id = false := by
  have run := (((@Run.fresh ⟨10⟩).submit (.query ⟨9⟩ .basic) ⟨0⟩ fun _ => none).receive
    (Frame.inbound .applicationCommand .request (some ⟨9⟩) [0, 9, 3, 0x20, 0x03, 99])).submit
    (.query ⟨9⟩ .basic) ⟨1⟩ fun _ => none
  refine ⟨_, _, run, ⟨⟨1⟩, ⟨some ⟨9⟩, .applicationCommand⟩, .sendData⟩, by decide, by decide,
    by decide, ?_⟩
  exact ((Run.invariant run).live _ (by decide)).mpr (by decide)

end Tracker

end ZWaveGateway
