import ZWaveGateway.Proofs.Tracker.Coherence
import ZWaveGateway.Proofs.Transaction.Judgement
import ZWaveGateway.Tracker.Basic

/-!
# What the tracker's operations come to

On a coherent state each operation has few outcomes, and this module lists them: for a submission
`ZWaveGateway.Tracker.Submitted`, for an incoming frame `ZWaveGateway.Tracker.Received`, for a sweep
`ZWaveGateway.Tracker.Expired`. The branches of the operations that wait for a transaction which has
already ended are not among them: what is in flight is pending. Everything else about runs of a
tracker is proved from these lists, without opening the operations again.
-/

namespace ZWaveGateway

namespace Transaction

variable {transaction : Transaction} {frame : Frame}

/-- What a transaction in flight makes of a frame is what the frame says to its command. -/
theorem receive_of_pending (pending : transaction.state = .pending) (frame : Frame) :
    transaction.receive frame =
      match transaction.command.judge frame with
      | .error error => (transaction, .error error)
      | .ok .unrelated => (transaction, .ok .notAnAnswer)
      | .ok .acknowledged => (transaction, .ok .acknowledged)
      | .ok (.settled outcome) =>
          ({ transaction with state := .completed, outcome := some outcome }, .ok .answered) := by
  unfold receive
  cases transaction.command.judge frame with
  | error error => rfl
  | ok verdict =>
      cases verdict with
      | unrelated => rfl
      | acknowledged => rfl
      | settled outcome =>
          simp only [complete, finish_of_pending pending, TransactionEvent.final]

end Transaction

/-- A frame that answers nothing is never told as the end of a transaction or the failure of a
node. -/
theorem Event.ofFrame_cases {P : Event → Prop} (ready : P .networkReady)
    (report : ∀ node commandClass command data, P (.report node commandClass command data))
    (update : ∀ node status, P (.nodeUpdate node status)) (unhandled : ∀ frame, P (.unhandled frame))
    (frame : Frame) : P (Event.ofFrame frame) := by
  unfold Event.ofFrame
  split
  · unfold Event.reportOf?
    split
    · split
      · exact report _ _ _ _
      · exact unhandled frame
    · exact unhandled frame
  · exact ready
  · split
    · exact update _ _
    · exact unhandled frame
  · exact unhandled frame

theorem Event.ended?_ofFrame (frame : Frame) : (Event.ofFrame frame).ended? = none := by
  apply Event.ofFrame_cases (P := fun event => event.ended? = none)
  all_goals intros; rfl

namespace Tracker

open InFlight

variable {tracker : Tracker}

/-! ## Submissions -/

/-- What submitting a command can come to: its key is taken and nothing happens; or the transport
refuses the frame, and only the id is used up; or the transaction is in flight. -/
inductive Submitted (tracker : Tracker) (command : Command) (now : Instant)
    (refuses : Frame → Option String) : Submission → Prop where
  | duplicate (taken : tracker.inFlight.contains (Key.ofCommand command) = true) :
      Submitted tracker command now refuses
        ⟨tracker, [], none, .error (.duplicateInFlight (Key.ofCommand command))⟩
  | refused {words : String}
      (free : tracker.inFlight.contains (Key.ofCommand command) = false)
      (refusal : refuses command.frame = some words) :
      Submitted tracker command now refuses
        ⟨{ tracker with lastId := tracker.lastId + 1 },
          [.log (refusalLine ⟨tracker.lastId + 1⟩ words)], some command.frame,
          .error (.transport words)⟩
  | accepted (free : tracker.inFlight.contains (Key.ofCommand command) = false)
      (taken : refuses command.frame = none) :
      Submitted tracker command now refuses
        ⟨{ tracker with
            lastId := tracker.lastId + 1
            inFlight := tracker.inFlight.add
              (Transaction.issue ⟨tracker.lastId + 1⟩ command now) },
          [], some command.frame, .ok ⟨⟨tracker.lastId + 1⟩, Key.ofCommand command⟩⟩

theorem register_of_taken {command : Command}
    (taken : tracker.inFlight.contains (Key.ofCommand command) = true) (now : Instant) :
    tracker.register command now = .error (.duplicateInFlight (Key.ofCommand command)) :=
  if_pos taken

theorem register_of_free {command : Command}
    (free : tracker.inFlight.contains (Key.ofCommand command) = false) (now : Instant) :
    tracker.register command now =
      .ok (⟨⟨tracker.lastId + 1⟩, Key.ofCommand command⟩,
        { tracker with
          lastId := tracker.lastId + 1
          inFlight := tracker.inFlight.add
            (Transaction.issue ⟨tracker.lastId + 1⟩ command now) }) :=
  if_neg (Bool.not_eq_true _ ▸ free)

theorem submitted (coherent : tracker.inFlight.Coherent tracker.lastId) (command : Command)
    (now : Instant) (refuses : Frame → Option String) :
    Submitted tracker command now refuses (tracker.submit command now refuses) := by
  unfold submit
  cases free : tracker.inFlight.contains (Key.ofCommand command) with
  | true =>
      rw [register_of_taken free]
      exact .duplicate free
  | false =>
      rw [register_of_free free]
      cases refusal : refuses command.frame with
      | none =>
          exact .accepted free refusal
      | some words =>
          simp only [rollBack, coherent.discard_add free]
          exact .refused free refusal

theorem Submitted.timeout_eq {command : Command} {now : Instant}
    {refuses : Frame → Option String} {submission : Submission}
    (outcome : Submitted tracker command now refuses submission) :
    submission.tracker.timeout = tracker.timeout := by
  cases outcome <;> rfl

/-! ## Incoming frames -/

/-- What receiving a frame can come to. Either no transaction in flight has a use for it and it is
passed on; or the transaction it is for ends by it, or takes note of it, or cannot read it. -/
inductive Received (tracker : Tracker) (frame : Frame) : Receipt → Prop where
  | passedOn
      (useless : ∀ transaction ∈ tracker.inFlight.transactions,
        tracker.inFlight.Addresses frame transaction →
          transaction.command.judge frame = .ok .unrelated) :
      Received tracker frame
        ⟨{ tracker with inFlight := (tracker.inFlight.claim frame).2 },
          [.tell (Event.ofFrame frame)], .ok .unsolicited⟩
  | completed {transaction : Transaction} {outcome : Outcome}
      (waiting : transaction ∈ tracker.inFlight.transactions)
      (addressed : tracker.inFlight.Addresses frame transaction)
      (judged : transaction.command.judge frame = .ok (.settled outcome)) :
      Received tracker frame
        ⟨{ tracker with
            inFlight := (tracker.inFlight.claim frame).2.remove transaction.key
            controllerInfo := learn tracker.controllerInfo outcome },
          completion transaction outcome, .ok (.completed transaction.id)⟩
  | acknowledged {transaction : Transaction}
      (waiting : transaction ∈ tracker.inFlight.transactions)
      (addressed : tracker.inFlight.Addresses frame transaction)
      (judged : transaction.command.judge frame = .ok .acknowledged) :
      Received tracker frame
        ⟨{ tracker with inFlight := (tracker.inFlight.claim frame).2 }, [],
          .ok (.acknowledged transaction.id)⟩
  | malformed {transaction : Transaction} {error : FrameError}
      (waiting : transaction ∈ tracker.inFlight.transactions)
      (addressed : tracker.inFlight.Addresses frame transaction)
      (judged : transaction.command.judge frame = .error (.malformed error)) :
      Received tracker frame
        ⟨{ tracker with inFlight := (tracker.inFlight.claim frame).2 },
          [.log ⟨.warn, "Malformed answer for " ++ transaction.key.text ++ ": " ++
            error.message⟩],
          .error (.malformed error)⟩
  | faulted {transaction : Transaction}
      (waiting : transaction ∈ tracker.inFlight.transactions)
      (addressed : tracker.inFlight.Addresses frame transaction)
      (judged : transaction.command.judge frame = .error .fault) :
      Received tracker frame
        ⟨{ tracker with inFlight := (tracker.inFlight.claim frame).2 }, [], .error .fault⟩

theorem received (coherent : tracker.inFlight.Coherent tracker.lastId) (frame : Frame) :
    Received tracker frame (tracker.receive frame) := by
  unfold receive
  cases claimed : tracker.inFlight.claim frame with
  | mk claimant rest =>
      have restEq : rest = (tracker.inFlight.claim frame).2 := by rw [claimed]
      cases claimant with
      | none =>
          subst restEq
          refine .passedOn fun transaction waiting addressed => ?_
          have found := coherent.claim_eq_some_iff.mpr ⟨waiting, rfl, addressed⟩
          rw [claimed] at found
          cases found
      | some claimant =>
          obtain ⟨key, transaction⟩ := claimant
          have found : (tracker.inFlight.claim frame).1 = some (key, transaction) := by
            rw [claimed]
          obtain ⟨waiting, rfl, addressed⟩ := coherent.claim_eq_some_iff.mp found
          subst restEq
          simp only [Transaction.receive_of_pending (coherent.pending transaction waiting) frame]
          cases judged : transaction.command.judge frame with
          | error error =>
              cases error with
              | malformed error => exact .malformed waiting addressed judged
              | transition error =>
                  exact (transaction.command.judge_ne_transition frame error judged).elim
              | fault => exact .faulted waiting addressed judged
          | ok verdict =>
              cases verdict with
              | settled outcome => exact .completed waiting addressed judged
              | unrelated =>
                  refine .passedOn fun other waits meant => ?_
                  rw [coherent.eq_of_addresses waits waiting meant addressed]
                  exact judged
              | acknowledged => exact .acknowledged waiting addressed judged

theorem Received.timeout_eq {frame : Frame} {receipt : Receipt}
    (outcome : Received tracker frame receipt) : receipt.tracker.timeout = tracker.timeout := by
  cases outcome <;> rfl

theorem Received.owed_eq {frame : Frame} {receipt : Receipt}
    (outcome : Received tracker frame receipt) :
    receipt.tracker.inFlight.owed = (tracker.inFlight.claim frame).2.owed := by
  cases outcome <;> rfl

/-- A transaction stays in flight unless the frame completes it. -/
theorem Received.survives {frame : Frame} {receipt : Receipt}
    (outcome : Received tracker frame receipt) (coherent : tracker.inFlight.Coherent tracker.lastId)
    {transaction : Transaction} (waiting : transaction ∈ tracker.inFlight.transactions)
    (other : receipt.result ≠ .ok (.completed transaction.id)) :
    transaction ∈ receipt.tracker.inFlight.transactions := by
  rw [← transactions_claim tracker.inFlight frame] at waiting
  cases outcome with
  | passedOn useless => exact waiting
  | acknowledged waits addressed judged => exact waiting
  | malformed waits addressed judged => exact waiting
  | faulted waits addressed judged => exact waiting
  | @completed ended outcome waits addressed judged =>
      rw [← transactions_claim tracker.inFlight frame] at waits
      rw [(coherent.claim frame).transactions_remove waits]
      refine List.mem_filter.mpr ⟨waiting, bne_iff_ne.mpr fun same => other ?_⟩
      rw [same]

/-! ## Sweeps -/

/-- What follows when the time of a pending transaction is up. -/
def silence (timeout : Duration) (transaction : Transaction) : List Effect :=
  [.settle transaction.id (.timedOut timeout),
    .log ⟨.warn, "Transaction " ++ transaction.id.text ++ " for " ++ transaction.key.text ++
      " timed out after " ++ timeout.text⟩,
    .tell (.timedOut transaction.id transaction.key)]

/-- The transactions in flight whose time is up at an instant. -/
def lapsing (tracker : Tracker) (now : Instant) : List Transaction :=
  tracker.inFlight.transactions.filter (·.isOverdue now tracker.timeout)

/-- What is left in flight when the time is up for all that are overdue at an instant. -/
def spared (tracker : Tracker) (now : Instant) : InFlight where
  entries := tracker.inFlight.entries.filter (!·.2.isOverdue now tracker.timeout)
  owed := tracker.inFlight.owed.filter fun owed =>
    !((tracker.lapsing now).map (·.id)).contains owed.id

theorem transactions_spared (tracker : Tracker) (now : Instant) :
    (tracker.spared now).transactions =
      tracker.inFlight.transactions.filter (!·.isOverdue now tracker.timeout) := by
  simp only [transactions, spared, List.filter_map, Function.comp_def]

theorem mem_ids_spared {now : Instant} {id : TransactionId}
    (waits : id ∈ tracker.inFlight.ids) (other : id ∉ (tracker.lapsing now).map (·.id)) :
    id ∈ (tracker.spared now).ids := by
  obtain ⟨transaction, listed, rfl⟩ := mem_ids_iff.mp waits
  refine mem_ids_iff.mpr ⟨transaction, ?_, rfl⟩
  rw [transactions_spared]
  refine List.mem_filter.mpr ⟨listed, Bool.not_eq_true' .. ▸ Bool.eq_false_iff.mpr ?_⟩
  intro overdue
  exact other (List.mem_map.mpr ⟨transaction, List.mem_filter.mpr ⟨listed, overdue⟩, rfl⟩)

theorem map_overdue (tracker : Tracker) (now : Instant) :
    (tracker.inFlight.overdue now tracker.timeout).map (·.2) = tracker.lapsing now := by
  rw [lapsing, transactions, List.filter_map]
  rfl

/-- In whatever order the overdue transactions are found, the same is left without them. -/
theorem without_of_perm {now : Instant} {found : List (Key × Transaction)}
    (all : found.Perm (tracker.inFlight.overdue now tracker.timeout)) :
    tracker.inFlight.without found = tracker.spared now := by
  refine congrArg₂ InFlight.mk (List.filter_congr fun entry member => ?_)
    (List.filter_congr fun owed _ => ?_)
  · rw [all.contains_eq, List.contains_eq_mem]
    refine congrArg (!·) (Bool.eq_iff_iff.mpr ?_)
    rw [decide_eq_true_iff, overdue, List.mem_filter, and_iff_right member]
  · rw [(all.map _).contains_eq, ← map_overdue, List.map_map]
    rfl

theorem lapse_of_pending {transaction : Transaction} (pending : transaction.state = .pending)
    (timeout : Duration) :
    lapse timeout transaction = (silence timeout transaction, some transaction.id) := by
  simp only [lapse, Transaction.timeOut, Transaction.finish_of_pending pending, silence,
    Option.map_some, Option.toList_some, Transaction.key, List.singleton_append]

theorem lapseAll_of_pending {found : List (Key × Transaction)}
    (pending : ∀ entry ∈ found, entry.2.state = .pending) :
    tracker.lapseAll found =
      ⟨{ tracker with inFlight := tracker.inFlight.without found },
        (found.map (·.2)).flatMap (silence tracker.timeout), (found.map (·.2)).map (·.id)⟩ := by
  have lapses : (found.map fun entry => lapse tracker.timeout entry.2) =
      (found.map (·.2)).map fun transaction =>
        (silence tracker.timeout transaction, some transaction.id) := by
    rw [List.map_map]
    exact List.map_congr_left fun entry member => lapse_of_pending (pending entry member) _
  rw [lapseAll, lapses]
  refine congrArg₂ (Expiry.mk _) (List.flatMap_map ..) ?_
  rw [List.filterMap_map]
  exact congrFun List.filterMap_eq_map _

/-- What a sweep can come to: exactly the transactions whose time is up end, each in the same way,
in some order. -/
inductive Expired (tracker : Tracker) (now : Instant) : Expiry → Prop where
  | ended {ended : List Transaction} (all : ended.Perm (tracker.lapsing now)) :
      Expired tracker now
        ⟨{ tracker with inFlight := tracker.spared now },
          ended.flatMap (silence tracker.timeout), ended.map (·.id)⟩

theorem expired (coherent : tracker.inFlight.Coherent tracker.lastId) {now : Instant}
    {expiry : Expiry} (sweep : Sweep tracker now expiry) : Expired tracker now expiry := by
  cases sweep with
  | @found found all =>
      have pending : ∀ entry ∈ found, entry.2.state = .pending := by
        intro entry member
        have listed := List.mem_of_mem_filter (all.subset member)
        exact coherent.pending entry.2 (List.mem_map_of_mem listed)
      rw [lapseAll_of_pending pending, without_of_perm all]
      exact .ended (map_overdue tracker now ▸ all.map _)

theorem Expired.timeout_eq {now : Instant} {expiry : Expiry}
    (outcome : Expired tracker now expiry) : expiry.tracker.timeout = tracker.timeout := by
  cases outcome
  rfl

end Tracker

end ZWaveGateway
