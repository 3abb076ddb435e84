/-!
# Lifecycle of a transaction

A transaction is pending until its answer is decoded or its time is up. Both end states are final.
-/

namespace ZWaveGateway

/-- Where a transaction stands. -/
inductive TransactionState where
  | pending
  | completed
  | timedOut
  deriving DecidableEq, Repr

/-- What can happen to a transaction. -/
inductive TransactionEvent where
  | responseDecoded
  | expired
  deriving DecidableEq, Repr

/-- Something happened to a transaction that had already ended. -/
structure TransitionError where
  source : TransactionState
  event : TransactionEvent
  deriving DecidableEq, Repr

/-- The name a state is printed with. -/
def TransactionState.name : TransactionState → String
  | .pending => "Pending"
  | .completed => "Completed"
  | .timedOut => "TimedOut"

/-- The name an event is printed with. -/
def TransactionEvent.name : TransactionEvent → String
  | .responseDecoded => "ResponseDecoded"
  | .expired => "Expired"

/-- The state that an event leads to. -/
def TransactionEvent.final : TransactionEvent → TransactionState
  | .responseDecoded => .completed
  | .expired => .timedOut

/-- The error in words. -/
def TransitionError.message (error : TransitionError) : String :=
  "invalid transaction transition from " ++ error.source.name ++ " on " ++ error.event.name

namespace TransactionState

/-- Nothing can happen any more. -/
def isTerminal : TransactionState → Bool
  | .pending => false
  | _ => true

/-- The state after an event, which only a pending transaction can take. -/
def step : TransactionState → TransactionEvent → Except TransitionError TransactionState
  | .pending, .responseDecoded => .ok .completed
  | .pending, .expired => .ok .timedOut
  | source, event => .error ⟨source, event⟩

theorem isTerminal_iff {state : TransactionState} :
    state.isTerminal = true ↔ state ≠ .pending := by
  cases state <;> simp [isTerminal]

theorem step_pending (event : TransactionEvent) : step .pending event = .ok event.final := by
  cases event <;> rfl

/-- A state takes an event exactly when it is not terminal. -/
theorem step_eq_error_iff {state : TransactionState} {event : TransactionEvent} :
    state.step event = .error ⟨state, event⟩ ↔ state.isTerminal = true := by
  cases state <;> cases event <;> simp [step, isTerminal]

theorem final_isTerminal (event : TransactionEvent) : event.final.isTerminal = true := by
  cases event <;> rfl

end TransactionState

end ZWaveGateway
