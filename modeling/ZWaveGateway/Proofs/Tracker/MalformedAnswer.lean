import ZWaveGateway.Gateway.Operation
import ZWaveGateway.Proofs.Tracker.History

/-!
# What a malformed answer costs

A frame that is for a transaction in flight, but too short to be read, ends nothing: the transaction
stays in flight, no event is told and no handle is settled. A frame that bears the transaction's own
key leaves the tracker exactly as it was.

A plain response does not. It is taken off the queue of owed responses before it is read, so the
transaction stays in flight without a response that could still come for it: whatever happens
afterwards, no plain response completes or acknowledges it
(`ZWaveGateway.Tracker.Run.malformed_spends_response`).
-/

namespace ZWaveGateway.Tracker

open InFlight

variable {tracker : Tracker} {history : History} {timeout : Duration} {id : TransactionId}

/-- The id was given out, and no response is owed to it. -/
structure Unowed (tracker : Tracker) (id : TransactionId) : Prop where
  given : id.number ≤ tracker.lastId
  absent : ∀ owed ∈ tracker.inFlight.owed, owed.id ≠ id

/-! ## What is not owed stays so -/

theorem Unowed.submit (unowed : tracker.Unowed id)
    (coherent : tracker.inFlight.Coherent tracker.lastId) (command : Command) (now : Instant)
    (refuses : Frame → Option String) : (tracker.submit command now refuses).tracker.Unowed id := by
  have outcome := submitted coherent command now refuses
  generalize tracker.submit command now refuses = submission at outcome ⊢
  cases outcome with
  | duplicate taken => exact unowed
  | refused free refusal => exact ⟨Nat.le_succ_of_le unowed.given, unowed.absent⟩
  | accepted free taken =>
      refine ⟨Nat.le_succ_of_le unowed.given, fun owed member => ?_⟩
      rcases List.mem_append.mp member with before | added
      · exact unowed.absent owed before
      · rw [List.mem_singleton.mp added]
        rintro rfl
        exact Nat.not_succ_le_self _ unowed.given

theorem Unowed.receive (unowed : tracker.Unowed id)
    (coherent : tracker.inFlight.Coherent tracker.lastId) (frame : Frame) :
    (tracker.receive frame).tracker.Unowed id := by
  have outcome := received coherent frame
  have owed := outcome.owed_eq
  constructor
  · generalize tracker.receive frame = receipt at outcome ⊢
    cases outcome <;> exact unowed.given
  · intro one member
    rw [owed] at member
    exact unowed.absent one ((owed_claim_sublist _ _).subset member)

theorem Unowed.sweep (unowed : tracker.Unowed id)
    (coherent : tracker.inFlight.Coherent tracker.lastId) {now : Instant} {expiry : Expiry}
    (sweep : Sweep tracker now expiry) : expiry.tracker.Unowed id := by
  obtain ⟨-⟩ := expired coherent sweep
  exact ⟨unowed.given, fun owed member => unowed.absent owed (List.mem_of_mem_filter member)⟩

/-- What is not owed when a frame has been received is not owed at any later point of the run. -/
theorem Run.unowed {frame : Frame} {receipt : Receipt} {later : History} {final : Tracker}
    (run : Run timeout (later ++ .received frame receipt :: history) final)
    (unowed : receipt.tracker.Unowed id) : final.Unowed id := by
  induction later generalizing final with
  | nil =>
      cases run
      exact unowed
  | cons latest earlier kept =>
      cases run with
      | submit run command now refuses =>
          exact (kept run).submit run.accounts.coherent command now refuses
      | receive run frame => exact (kept run).receive run.accounts.coherent frame
      | sweep run sweep => exact (kept run).sweep run.accounts.coherent sweep

/-- A plain response does nothing for a transaction that is owed none. -/
theorem Unowed.not_answered (unowed : tracker.Unowed id)
    (coherent : tracker.inFlight.Coherent tracker.lastId) {response : Frame}
    (plain : isResponse response = true) :
    (tracker.receive response).result ≠ .ok (.completed id) ∧
      (tracker.receive response).result ≠ .ok (.acknowledged id) := by
  have other {transaction : Transaction}
      (addressed : tracker.inFlight.Addresses response transaction) : transaction.id ≠ id := by
    rw [Addresses, if_pos plain] at addressed
    obtain ⟨oldest, found, same⟩ := Option.map_eq_some_iff.mp addressed
    exact same ▸ unowed.absent oldest (List.mem_of_find?_eq_some found)
  have outcome := received coherent response
  generalize tracker.receive response = receipt at outcome ⊢
  cases outcome with
  | passedOn useless => simp
  | malformed waiting addressed judged => simp
  | faulted waiting addressed judged => simp
  | completed waiting addressed judged => simpa using other addressed
  | acknowledged waiting addressed judged => simpa using other addressed

/-! ## The malformed answer -/

/-- The line that tells of a malformed answer. -/
def malformedLine (key : Key) (error : FrameError) : LogLine :=
  ⟨.warn, "Malformed answer for " ++ key.text ++ ": " ++ error.message⟩

private theorem receive_of_malformed (coherent : tracker.inFlight.Coherent tracker.lastId)
    {frame : Frame} {error : FrameError}
    (malformed : (tracker.receive frame).result = .error (.malformed error)) :
    ∃ transaction ∈ tracker.inFlight.transactions,
      tracker.inFlight.Addresses frame transaction ∧
      transaction.command.judge frame = .error (.malformed error) ∧
      tracker.receive frame =
        ⟨{ tracker with inFlight := (tracker.inFlight.claim frame).2 },
          [.log (malformedLine transaction.key error)], .error (.malformed error)⟩ := by
  have outcome := received coherent frame
  generalize tracker.receive frame = receipt at outcome malformed ⊢
  cases outcome with
  | malformed waiting addressed judged =>
      cases malformed
      exact ⟨_, waiting, addressed, judged, rfl⟩
  | passedOn useless => cases malformed
  | completed waiting addressed judged => cases malformed
  | acknowledged waiting addressed judged => cases malformed
  | faulted waiting addressed judged => cases malformed

/-- **A malformed plain response is lost to its transaction.** After every run, a frame that is
malformed is for a transaction in flight, which stays in flight; one line is written to the log, and
nothing else is seen. If the frame bears the transaction's key, the tracker is as before. If it is a
plain response, the one response owed to the transaction is owed no more, all else is as before,
and at no later point of the run does a plain response complete or acknowledge the transaction. -/
theorem Run.malformed_spends_response (run : Run timeout history tracker) {frame : Frame}
    {error : FrameError} (malformed : (tracker.receive frame).result = .error (.malformed error)) :
    ∃ transaction ∈ tracker.inFlight.transactions,
      tracker.inFlight.Addresses frame transaction ∧
      transaction.command.judge frame = .error (.malformed error) ∧
      (tracker.receive frame).effects = [.log (malformedLine transaction.key error)] ∧
      (∀ gateway : Gateway, gateway.tracker = tracker →
        (gateway.receive frame).1 =
          { gateway with tracker := (tracker.receive frame).tracker }.write
            [malformedLine transaction.key error]) ∧
      (isResponse frame = false → (tracker.receive frame).tracker = tracker) ∧
      (isResponse frame = true →
        (∃ owed ∈ tracker.inFlight.owed, owed.id = transaction.id) ∧
        (tracker.receive frame).tracker =
          { tracker with
            inFlight.owed := tracker.inFlight.owed.filter (·.id != transaction.id) } ∧
        ∀ later final,
          Run timeout (later ++ .received frame (tracker.receive frame) :: history) final →
            final.Unowed transaction.id ∧
            ∀ response, isResponse response = true →
              (final.receive response).result ≠ .ok (.completed transaction.id) ∧
              (final.receive response).result ≠ .ok (.acknowledged transaction.id)) := by
  have coherent := run.accounts.coherent
  obtain ⟨transaction, waiting, addressed, judged, came⟩ :=
    receive_of_malformed coherent malformed
  refine ⟨transaction, waiting, addressed, judged, by rw [came], ?_, ?_, fun plain => ⟨?_, ?_⟩⟩
  · rintro gateway rfl
    rw [Gateway.receive, came]
    rfl
  · intro keyed
    rw [came, claim_of_not_response keyed]
  · rw [Addresses, if_pos plain] at addressed
    obtain ⟨oldest, found, same⟩ := Option.map_eq_some_iff.mp addressed
    exact ⟨oldest, List.mem_of_find?_eq_some found, same⟩
  · have spent := coherent.owed_claim_of_addresses plain addressed
    refine ⟨?_, fun later final goesOn => ?_⟩
    · rw [came]
      exact congrArg (fun inFlight => { tracker with inFlight })
        (congrArg₂ InFlight.mk (entries_claim tracker.inFlight frame) spent)
    · have unowed : final.Unowed transaction.id := by
        refine goesOn.unowed ⟨?_, fun owed member => ?_⟩
        · rw [came]
          exact coherent.known transaction waiting
        · rw [came, spent] at member
          exact bne_iff_ne.mp (List.mem_filter.mp member).2
      exact ⟨unowed, fun response plain =>
        unowed.not_answered goesOn.accounts.coherent plain⟩

/-- The controller was asked for its version, and answers with two bytes: the response is spent. -/
theorem Run.malformed_spends_response_on_version :
    ∃ history tracker, Run ⟨10⟩ history tracker ∧ tracker.inFlight.owed.length = 1 ∧
      (tracker.receive (Frame.inbound .getVersion .response none [0x5A, 0x2D])).result =
        .error (.malformed (.tooShort .getVersion 13 2)) ∧
      ∃ transaction ∈ tracker.inFlight.transactions,
        (tracker.receive (Frame.inbound .getVersion .response none [0x5A, 0x2D])).tracker.Unowed
          transaction.id := by
  have run := (@Run.fresh ⟨10⟩).submit .controllerVersion ⟨0⟩ fun _ => none
  have malformed :
      (((Tracker.fresh ⟨10⟩).submit .controllerVersion ⟨0⟩ fun _ => none).tracker.receive
        (Frame.inbound .getVersion .response none [0x5A, 0x2D])).result =
          .error (.malformed (.tooShort .getVersion 13 2)) := by
    decide
  obtain ⟨transaction, waiting, -, -, -, -, -, lost⟩ := run.malformed_spends_response malformed
  exact ⟨_, _, run, rfl, malformed, transaction, waiting,
    ((lost rfl).2.2 [] _ (run.receive _)).1⟩

/-- A malformed version response makes the well-formed one after it unsolicited, which would have
completed the transaction. -/
theorem malformed_response_is_lost :
    ∃ history tracker malformed answer, Run ⟨10⟩ history tracker ∧
      Frame.ofSerial [0x01, 0x15, 0x5A, 0x2D] = .ok malformed ∧
      Frame.ofSerial [0x01, 0x15, 0x5A, 0x2D, 0x57, 0x61, 0x76, 0x65, 0x20, 0x32, 0x2E, 0x37,
        0x38, 0x00, 0x01] = .ok answer ∧
      (tracker.receive malformed).result = .error (.malformed (.tooShort .getVersion 13 2)) ∧
      (tracker.receive malformed).tracker.inFlight.owed ≠ tracker.inFlight.owed ∧
      (tracker.receive answer).result = .ok (.completed ⟨1⟩) ∧
      ((tracker.receive malformed).tracker.receive answer).result = .ok .unsolicited := by
  have run := (@Run.fresh ⟨10⟩).submit .controllerVersion ⟨0⟩ fun _ => none
  exact ⟨_, _, _, _, run, rfl, rfl, by decide, by decide, by decide, by decide⟩

end ZWaveGateway.Tracker
