import ZWaveGateway.Transaction.Judgement

/-!
# Transactions

A transaction is one command on its way: its id, the instant it was issued, where it stands, and
its outcome once it has one. Frames are offered to it; it ends at most once, and a frame that does
not end it leaves it as it was.
-/

namespace ZWaveGateway

/-- One command on its way. -/
structure Transaction where
  id : TransactionId
  command : Command
  issuedAt : Instant
  state : TransactionState
  outcome : Option Outcome
  deriving DecidableEq

/-- What a transaction made of a frame. -/
inductive Reading where
  | answered
  | notAnAnswer
  | acknowledged
  deriving DecidableEq, Repr

namespace Transaction

/-- A transaction that was just issued. -/
def issue (id : TransactionId) (command : Command) (issuedAt : Instant) : Transaction :=
  ⟨id, command, issuedAt, .pending, none⟩

/-- The key of the transaction's command. -/
def key (transaction : Transaction) : Key :=
  Key.ofCommand transaction.command

/-- The transaction has waited at least for the timeout. -/
def isOverdue (transaction : Transaction) (now : Instant) (timeout : Duration) : Bool :=
  timeout.nanoseconds ≤ (now.since transaction.issuedAt).nanoseconds

theorem isOverdue_iff {transaction : Transaction} {now : Instant} {timeout : Duration} :
    transaction.isOverdue now timeout = true ↔
      timeout.nanoseconds ≤ (now.nanoseconds - transaction.issuedAt.nanoseconds).toNat :=
  decide_eq_true_iff

/-- Who is overdue at an instant is overdue at every later one. -/
theorem isOverdue_of_le {transaction : Transaction} {first now : Instant} {timeout : Duration}
    (order : first.nanoseconds ≤ now.nanoseconds)
    (overdue : transaction.isOverdue first timeout = true) :
    transaction.isOverdue now timeout = true := by
  rw [isOverdue_iff] at overdue ⊢
  omega

/-- End the transaction by an event, with an outcome. -/
def finish (transaction : Transaction) (event : TransactionEvent) (outcome : Outcome) :
    Except TransitionError Transaction :=
  (transaction.state.step event).map fun state =>
    { transaction with state, outcome := some outcome }

theorem finish_of_pending {transaction : Transaction} (pending : transaction.state = .pending)
    (event : TransactionEvent) (outcome : Outcome) :
    transaction.finish event outcome =
      .ok { transaction with state := event.final, outcome := some outcome } := by
  rw [finish, pending, TransactionState.step_pending]
  rfl

theorem finish_of_ended {transaction : Transaction} (ended : transaction.state ≠ .pending)
    (event : TransactionEvent) (outcome : Outcome) :
    transaction.finish event outcome = .error ⟨transaction.state, event⟩ := by
  rw [finish, TransactionState.step_eq_error_iff.mpr (TransactionState.isTerminal_iff.mpr ended)]
  rfl

/-- End the transaction with a decoded outcome. -/
def complete (transaction : Transaction) (outcome : Outcome) :
    Except TransitionError Transaction :=
  transaction.finish .responseDecoded outcome

/-- End the transaction for want of an answer. -/
def timeOut (transaction : Transaction) (after : Duration) : Except TransitionError Transaction :=
  transaction.finish .expired (.timedOut after)

/-- Offer a frame to the transaction. -/
def receive (transaction : Transaction) (frame : Frame) :
    Transaction × Except ReadError Reading :=
  match transaction.command.judge frame with
  | .error error => (transaction, .error error)
  | .ok .unrelated => (transaction, .ok .notAnAnswer)
  | .ok .acknowledged => (transaction, .ok .acknowledged)
  | .ok (.settled outcome) =>
      match transaction.complete outcome with
      | .error error => (transaction, .error (.transition error))
      | .ok ended => (ended, .ok .answered)

end Transaction

end ZWaveGateway
