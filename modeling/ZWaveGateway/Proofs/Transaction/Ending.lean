import ZWaveGateway.Proofs.Tracker.Operations

/-!
# A transaction ends once

Three things are tried on a transaction: a frame is offered to it, it is completed with an outcome,
it is timed out. An attempt ends the transaction if that is pending and the attempt decides it
(`ZWaveGateway.Attempt.Decides`), and otherwise leaves it exactly as it was
(`ZWaveGateway.Transaction.attempted`): whether the frame cannot be read, is about something else or
only acknowledges a question, or whether the transaction has ended already.

So in any sequence of attempts at most one ends the transaction, and after it nothing changes any
more (`ZWaveGateway.Transaction.Reachable.ends_once`).
-/

namespace ZWaveGateway

/-- What can be tried on a transaction. -/
inductive Attempt where
  | offer (frame : Frame)
  | complete (outcome : Outcome)
  | timeOut (after : Duration)

/-- What an attempt decides about a transaction with a command. A frame decides it if it settles the
command; to complete it and to time it out decides it in any case. -/
inductive Attempt.Decides (command : Command) : Attempt → TransactionEvent → Outcome → Prop where
  | settled {frame : Frame} {outcome : Outcome}
      (judged : command.judge frame = .ok (.settled outcome)) :
      Decides command (.offer frame) .responseDecoded outcome
  | completed {outcome : Outcome} : Decides command (.complete outcome) .responseDecoded outcome
  | timedOut {after : Duration} : Decides command (.timeOut after) .expired (.timedOut after)

/-- What an attempt is answered with. -/
inductive Reply where
  | read (reading : Except ReadError Reading)
  | closed (result : Except TransitionError Unit)
  deriving DecidableEq

/-- The reply says that the attempt has ended the transaction: a frame was its answer, or completing
it or timing it out has succeeded. -/
def Reply.ends : Reply → Bool
  | .read (.ok .answered) => true
  | .closed (.ok ()) => true
  | _ => false

namespace Transaction

variable {transaction : Transaction}

/-- The transaction after an attempt to close it. An attempt that is refused gives no other, and the
one there was stays. -/
def close (transaction : Transaction) :
    Except TransitionError Transaction → Transaction × Reply
  | .ok ended => (ended, .closed (.ok ()))
  | .error error => (transaction, .closed (.error error))

/-- Try something on the transaction. -/
def attempt (transaction : Transaction) : Attempt → Transaction × Reply
  | .offer frame => ((transaction.receive frame).1, .read (transaction.receive frame).2)
  | .complete outcome => transaction.close (transaction.complete outcome)
  | .timeOut after => transaction.close (transaction.timeOut after)

/-- The transaction after one attempt upon the other. -/
def after (transaction : Transaction) (attempts : List Attempt) : Transaction :=
  attempts.foldl (fun reached next => (reached.attempt next).1) transaction

/-- What the attempts are answered with. -/
def replies (transaction : Transaction) : List Attempt → List Reply
  | [] => []
  | next :: later => (transaction.attempt next).2 :: replies (transaction.attempt next).1 later

/-- Every transaction there is: issued for a command, and then whatever has been tried on it. -/
inductive Reachable : Transaction → Prop where
  | issue (id : TransactionId) (command : Command) (issuedAt : Instant) :
      Reachable (issue id command issuedAt)
  | attempt {transaction : Transaction} (reachable : Reachable transaction) (next : Attempt) :
      Reachable (transaction.attempt next).1

/-- The later transaction is the first one, at whatever point of its life: it has its id and its
key, its command and the instant when that was issued. -/
structure Continues (first later : Transaction) : Prop where
  id : later.id = first.id
  key : later.key = first.key
  command : later.command = first.command
  issuedAt : later.issuedAt = first.issuedAt

/-- What becomes of a transaction, whatever is tried on it.

It has no outcome exactly while it is pending. At most one attempt ends it, and that is the one
whose reply says so: it finds the transaction pending, and leaves it with the state and the outcome
that it decides. Every other attempt leaves the transaction exactly as it was, and so does
everything that comes after it has ended. It never becomes another transaction. -/
structure EndsOnce (transaction : Transaction) : Prop where
  undecided : ∀ attempts,
    (transaction.after attempts).outcome = none ↔ (transaction.after attempts).state = .pending
  once : ∀ attempts, (transaction.replies attempts).countP Reply.ends =
    if transaction.state = .pending ∧ (transaction.after attempts).state ≠ .pending then 1 else 0
  ends : ∀ attempts next, ((transaction.after attempts).attempt next).2.ends = true →
    (transaction.after attempts).state = .pending ∧
      ∃ event outcome, next.Decides transaction.command event outcome ∧
        transaction.after (attempts ++ [next]) =
          { transaction.after attempts with state := event.final, outcome := some outcome }
  leaves : ∀ attempts next, ((transaction.after attempts).attempt next).2.ends = false →
    transaction.after (attempts ++ [next]) = transaction.after attempts
  final : ∀ attempts later, (transaction.after attempts).state ≠ .pending →
    transaction.after (attempts ++ later) = transaction.after attempts
  continues : ∀ attempts, transaction.Continues (transaction.after attempts)

/-! ## One attempt -/

/-- What an attempt comes to: it ends a pending transaction that it decides, or leaves the
transaction as it was. -/
inductive Attempted (transaction : Transaction) (next : Attempt) : Transaction × Reply → Prop where
  | ended {event : TransactionEvent} {outcome : Outcome} {reply : Reply}
      (pending : transaction.state = .pending)
      (decides : next.Decides transaction.command event outcome) (tells : reply.ends = true) :
      Attempted transaction next
        ({ transaction with state := event.final, outcome := some outcome }, reply)
  | left {reply : Reply}
      (idle : transaction.state = .pending →
        ∀ event outcome, ¬next.Decides transaction.command event outcome)
      (tells : reply.ends = false) :
      Attempted transaction next (transaction, reply)

theorem attempted_offer (transaction : Transaction) (frame : Frame) :
    Attempted transaction (.offer frame) (transaction.attempt (.offer frame)) := by
  have left {reading : Except ReadError Reading}
      (received : transaction.receive frame = (transaction, reading))
      (silent : ∀ outcome, transaction.command.judge frame ≠ .ok (.settled outcome))
      (tells : (Reply.read reading).ends = false) :
      Attempted transaction (.offer frame) (transaction.attempt (.offer frame)) := by
    rw [attempt, received]
    refine .left (fun _ event outcome decides => ?_) tells
    cases decides with
    | settled judged => exact silent outcome judged
  cases judged : transaction.command.judge frame with
  | error error => exact left (by rw [receive, judged]) (fun _ => judged ▸ nofun) rfl
  | ok verdict =>
      cases verdict with
      | unrelated => exact left (by rw [receive, judged]) (fun _ => judged ▸ nofun) rfl
      | acknowledged => exact left (by rw [receive, judged]) (fun _ => judged ▸ nofun) rfl
      | settled outcome =>
          by_cases pending : transaction.state = .pending
          · rw [attempt, receive, judged]
            simp only [complete, finish_of_pending pending]
            exact .ended pending (.settled judged) rfl
          · rw [attempt, receive, judged]
            simp only [complete, finish_of_ended pending]
            exact .left (fun waits => (pending waits).elim) rfl

theorem attempted_close {next : Attempt} {event : TransactionEvent} {outcome : Outcome}
    (decides : next.Decides transaction.command event outcome) :
    Attempted transaction next (transaction.close (transaction.finish event outcome)) := by
  by_cases pending : transaction.state = .pending
  · rw [finish_of_pending pending]
    exact .ended pending decides rfl
  · rw [finish_of_ended pending]
    exact .left (fun waits => (pending waits).elim) rfl

theorem attempted (transaction : Transaction) (next : Attempt) :
    Attempted transaction next (transaction.attempt next) := by
  cases next with
  | offer frame => exact transaction.attempted_offer frame
  | complete outcome => exact attempted_close .completed
  | timeOut after => exact attempted_close .timedOut

/-! ## One attempt upon the other -/

theorem after_cons (transaction : Transaction) (next : Attempt) (later : List Attempt) :
    transaction.after (next :: later) = (transaction.attempt next).1.after later := rfl

theorem after_append (transaction : Transaction) (attempts later : List Attempt) :
    transaction.after (attempts ++ later) = (transaction.after attempts).after later :=
  List.foldl_append

theorem after_concat (transaction : Transaction) (attempts : List Attempt) (next : Attempt) :
    transaction.after (attempts ++ [next]) = ((transaction.after attempts).attempt next).1 :=
  after_append ..

theorem attempt_of_ended (ended : transaction.state ≠ .pending) (next : Attempt) :
    (transaction.attempt next).1 = transaction := by
  have came := transaction.attempted next
  generalize transaction.attempt next = result at came ⊢
  cases came with
  | ended pending decides tells => exact (ended pending).elim
  | left idle tells => rfl

/-- Nothing changes a transaction that has ended. -/
theorem after_of_ended (ended : transaction.state ≠ .pending) (attempts : List Attempt) :
    transaction.after attempts = transaction := by
  induction attempts with
  | nil => rfl
  | cons next later ih => rw [after_cons, attempt_of_ended ended, ih]

theorem Reachable.undecided (reachable : Reachable transaction) :
    transaction.outcome = none ↔ transaction.state = .pending := by
  induction reachable with
  | issue id command issuedAt => exact iff_of_true rfl rfl
  | @attempt transaction reachable next ih =>
      have came := transaction.attempted next
      generalize transaction.attempt next = result at came ⊢
      cases came with
      | @ended event outcome reply pending decides tells =>
          exact iff_of_false (Option.some_ne_none outcome)
            (TransactionState.isTerminal_iff.mp (TransactionState.final_isTerminal event))
      | left idle tells => exact ih

theorem Reachable.after (reachable : Reachable transaction) (attempts : List Attempt) :
    Reachable (transaction.after attempts) := by
  induction attempts generalizing transaction with
  | nil => exact reachable
  | cons next later ih => exact ih (reachable.attempt next)

theorem Continues.trans {first second third : Transaction} (earlier : first.Continues second)
    (later : second.Continues third) : first.Continues third :=
  ⟨later.id.trans earlier.id, later.key.trans earlier.key, later.command.trans earlier.command,
    later.issuedAt.trans earlier.issuedAt⟩

theorem continues_attempt (transaction : Transaction) (next : Attempt) :
    transaction.Continues (transaction.attempt next).1 := by
  have came := transaction.attempted next
  generalize transaction.attempt next = result at came ⊢
  cases came with
  | ended pending decides tells => exact ⟨rfl, rfl, rfl, rfl⟩
  | left idle tells => exact ⟨rfl, rfl, rfl, rfl⟩

theorem continues_after (transaction : Transaction) (attempts : List Attempt) :
    transaction.Continues (transaction.after attempts) := by
  induction attempts generalizing transaction with
  | nil => exact ⟨rfl, rfl, rfl, rfl⟩
  | cons next later ih => exact (transaction.continues_attempt next).trans (ih _)

/-- The replies that tell of an end make up for the difference between a pending transaction and one
that has ended. -/
theorem countP_replies (transaction : Transaction) (attempts : List Attempt) :
    transaction.state.isTerminal.toNat + (transaction.replies attempts).countP Reply.ends =
      (transaction.after attempts).state.isTerminal.toNat := by
  induction attempts generalizing transaction with
  | nil => rfl
  | cons next later ih =>
      have rest := ih (transaction.attempt next).1
      rw [replies, after_cons, ← rest, List.countP_cons]
      have came := transaction.attempted next
      generalize transaction.attempt next = result at came ⊢
      cases came with
      | @ended event outcome reply pending decides tells =>
          have waits : transaction.state.isTerminal = false := pending ▸ rfl
          have terminal := TransactionState.final_isTerminal event
          simp only [waits, terminal, tells, if_true, Bool.toNat_false, Bool.toNat_true]
          omega
      | left idle tells =>
          simp only [tells, Bool.false_eq_true, if_false]
          omega

theorem toNat_isTerminal (state : TransactionState) :
    state.isTerminal.toNat = if state = .pending then 0 else 1 := by
  cases state <;> rfl

/-- **A transaction ends once, and what fails leaves it alone.** Whatever frames are offered to a
transaction, and whenever it is completed or timed out, at most one of the attempts ends it, and
that one gives it its outcome. All others leave it exactly as it was, those that come after the end
among them. -/
theorem Reachable.ends_once (reachable : Reachable transaction) : EndsOnce transaction where
  undecided attempts := (reachable.after attempts).undecided
  once attempts := by
    have balance := transaction.countP_replies attempts
    rw [toNat_isTerminal, toNat_isTerminal] at balance
    by_cases pending : transaction.state = .pending
    · by_cases still : (transaction.after attempts).state = .pending
      · rw [if_pos pending, if_pos still] at balance
        rw [if_neg (fun ended => ended.2 still)]
        omega
      · rw [if_pos pending, if_neg still] at balance
        rw [if_pos ⟨pending, still⟩]
        omega
    · rw [after_of_ended pending, if_neg pending] at balance
      rw [if_neg (fun ended => pending ended.1)]
      omega
  ends attempts next tells := by
    rw [after_concat, ← (transaction.continues_after attempts).command]
    have came := (transaction.after attempts).attempted next
    generalize (transaction.after attempts).attempt next = result at came tells ⊢
    cases came with
    | ended pending decides _ => exact ⟨pending, _, _, decides, rfl⟩
    | left idle silent => cases silent.symm.trans tells
  leaves attempts next silent := by
    rw [after_concat]
    have came := (transaction.after attempts).attempted next
    generalize (transaction.after attempts).attempt next = result at came silent ⊢
    cases came with
    | ended pending decides tells => cases silent.symm.trans tells
    | left idle _ => rfl
  final attempts later ended := by rw [after_append, after_of_ended ended]
  continues := transaction.continues_after

/-- A question is acknowledged, cannot be answered by a frame that is too short, hears of something
else and is answered; the same frames come again, and it is timed out and rejected in vain. -/
theorem ends_once_of_question :
    let asked := issue ⟨1⟩ (.query ⟨9⟩ .basic) ⟨0⟩
    let taken := Attempt.offer (.inbound .sendData .response none [1])
    let told (payload : List UInt8) :=
      Attempt.offer (.inbound .applicationCommand .request (some ⟨9⟩) payload)
    let attempts := [taken, told [0, 9, 3, 0x20], told [0, 9, 3, 0x80, 3, 0x50],
      told [0, 9, 3, 0x20, 3, 0x63], told [0, 9, 3, 0x20, 3, 0], taken, .timeOut ⟨5⟩,
      .complete .rejected]
    let late (event : TransactionEvent) := TransitionError.mk .completed event
    EndsOnce asked ∧
      asked.replies attempts =
        [.read (.ok .acknowledged),
          .read (.error (.malformed (.tooShort .applicationCommand 5 4))),
          .read (.ok .notAnAnswer), .read (.ok .answered),
          .read (.error (.transition (late .responseDecoded))), .read (.ok .acknowledged),
          .closed (.error (late .expired)), .closed (.error (late .responseDecoded))] ∧
      (asked.after attempts).outcome = some (.answered (.level 0x63)) := by
  intro asked taken told attempts late
  exact ⟨Reachable.ends_once (.issue ⟨1⟩ (.query ⟨9⟩ .basic) ⟨0⟩), by decide, by decide⟩

end Transaction

end ZWaveGateway
