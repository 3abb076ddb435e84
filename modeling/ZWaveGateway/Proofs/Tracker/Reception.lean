import ZWaveGateway.Proofs.Tracker.AnswerKind
import ZWaveGateway.Proofs.Tracker.Endings

/-!
# Every incoming frame is accounted for

A frame ends one transaction, or acknowledges one, or is passed on, or cannot be read; each of these
tells its own events and no more, and leaves everything else in flight as it was
(`ZWaveGateway.Tracker.Accounted`).

Over a run, a node is told to have failed exactly when the controller was asked about it and has
answered so: `ZWaveGateway.History.failures` lists these answers, each under the id of the question,
and the events follow that list.
-/

namespace ZWaveGateway

/-- The node that the end of a command shows to have failed: the controller was asked whether it
has, and says so. -/
def Command.failedNode? : Command → Outcome → Option NodeId
  | .isFailedNode node, .answered (.nodeFailed true) => some node
  | _, _ => none

namespace Event

/-- The node that an event says has failed. -/
def failedNode? : Event → Option NodeId
  | .nodeFailed node => some node
  | _ => none

/-- The transaction that an event says was answered that a node has failed, and the node. -/
def failure? : Event → Option (TransactionId × NodeId)
  | .completed id ⟨some node, _⟩ (.answered (.nodeFailed true)) => some (id, node)
  | _ => none

/-- An event that tells of a failure tells of the end of a transaction. -/
theorem completed_of_failure? {event : Event} {failure : TransactionId × NodeId}
    (failed : event.failure? = some failure) :
    ∃ key, key.node = some failure.2 ∧
      event = .completed failure.1 key (.answered (.nodeFailed true)) := by
  unfold failure? at failed
  split at failed
  · cases failed
    exact ⟨_, rfl, rfl⟩
  · cases failed

end Event

namespace Effect

/-- The event that an effect tells, if it tells one. -/
def event? : Effect → Option Event
  | .tell event => some event
  | _ => none

/-- The events that effects tell, in order. -/
def events (effects : List Effect) : List Event :=
  effects.filterMap event?

theorem endings_eq (timeout : Duration) (effects : List Effect) :
    endings timeout effects = (events effects).filterMap (Event.ending? timeout) := by
  rw [endings, events, List.filterMap_filterMap]
  congr 1
  funext effect
  cases effect <;> rfl

end Effect

namespace History

/-- The events that a history tells, in order. -/
def events (history : History) : List Event :=
  history.gather fun occurrence => Effect.events occurrence.effects

/-- The questions that were answered that a node has failed, each with its node, in the order of the
answers. -/
def failures (history : History) : List (TransactionId × NodeId) :=
  history.events.filterMap Event.failure?

@[simp]
theorem events_cons (latest : Occurrence) (earlier : History) :
    events (latest :: earlier) = earlier.events ++ Effect.events latest.effects :=
  gather_cons ..

theorem endings_eq_events (timeout : Duration) (history : History) :
    history.endings timeout = history.events.filterMap (Event.ending? timeout) := by
  rw [endings, events, gather, gather, List.filterMap_flatMap]
  congr 1
  funext occurrence
  exact Effect.endings_eq timeout occurrence.effects

end History

namespace Tracker

open InFlight

variable {tracker : Tracker} {history : History} {timeout : Duration} {frame : Frame}

/-! ## One frame -/

/-- What comes of a frame: the transaction it ends leaves, and its end is told, with the failed node
if it shows one; or everything in flight stays, and no event is told but that of a frame which is
passed on. -/
inductive Handled (tracker : Tracker) (frame : Frame) (receipt : Receipt) : Prop where
  | completed (transaction : Transaction) (outcome : Outcome)
      (result : receipt.result = .ok (.completed transaction.id))
      (waiting : transaction ∈ tracker.inFlight.transactions)
      (judged : transaction.command.judge frame = .ok (.settled outcome))
      (removed : receipt.tracker.inFlight.entries =
        tracker.inFlight.entries.filter (·.2.id != transaction.id))
      (told : Effect.events receipt.effects =
        .completed transaction.id transaction.key outcome ::
          ((transaction.command.failedNode? outcome).map Event.nodeFailed).toList)
  | acknowledged (transaction : Transaction)
      (result : receipt.result = .ok (.acknowledged transaction.id))
      (waiting : transaction ∈ tracker.inFlight.transactions)
      (judged : transaction.command.judge frame = .ok .acknowledged)
      (kept : receipt.tracker.inFlight.entries = tracker.inFlight.entries)
      (told : Effect.events receipt.effects = [])
  | unsolicited (result : receipt.result = .ok .unsolicited)
      (kept : receipt.tracker.inFlight.entries = tracker.inFlight.entries)
      (told : Effect.events receipt.effects = [Event.ofFrame frame])
  | malformed (error : FrameError) (result : receipt.result = .error (.malformed error))
      (kept : receipt.tracker.inFlight.entries = tracker.inFlight.entries)
      (told : Effect.events receipt.effects = [])

/-- A frame is handled in one of four ways. It concerns no transaction but the one in flight under
its own key, if it names a node; and it takes the oldest owed response of its class off the queue,
if it is a plain response. -/
structure Accounted (tracker : Tracker) (frame : Frame) (receipt : Receipt) : Prop where
  handled : Handled tracker frame receipt
  keyed : ∀ node, frame.node = some node → ∀ transaction ∈ tracker.inFlight.transactions,
    receipt.result = .ok (.completed transaction.id) ∨
        receipt.result = .ok (.acknowledged transaction.id) →
      transaction.key = ⟨some node, frame.messageClass⟩
  owed : receipt.tracker.inFlight.owed =
    if isResponse frame then
      tracker.inFlight.owed.eraseP (·.messageClass == frame.messageClass)
    else tracker.inFlight.owed

/-- The end of a transaction tells of a failed node exactly when its command asked about it. -/
private theorem events_completion {transaction : Transaction} {outcome : Outcome}
    (answered : transaction.command.Answered frame outcome) :
    Effect.events (completion transaction outcome) =
      .completed transaction.id transaction.key outcome ::
        ((transaction.command.failedNode? outcome).map Event.nodeFailed).toList := by
  obtain ⟨id, command, issuedAt, state, current⟩ := transaction
  cases answered with
  | nodeFailed node failed kind => cases failed <;> rfl
  | _ => rfl

theorem handled (coherent : tracker.inFlight.Coherent tracker.lastId)
    (sound : (tracker.receive frame).result ≠ .error .fault) :
    Handled tracker frame (tracker.receive frame) := by
  have claimed := coherent.claim frame
  have came := received coherent frame
  generalize tracker.receive frame = receipt at came sound ⊢
  cases came with
  | passedOn useless => exact .unsolicited rfl (entries_claim _ _) rfl
  | acknowledged waiting addressed judged =>
      exact .acknowledged _ rfl waiting judged (entries_claim _ _) rfl
  | malformed waiting addressed judged => exact .malformed _ rfl (entries_claim _ _) rfl
  | faulted waiting addressed judged => exact (sound rfl).elim
  | @completed transaction outcome waiting addressed judged =>
      refine .completed transaction outcome rfl waiting judged ?_ ?_
      · rw [← transactions_claim tracker.inFlight frame] at waiting
        rw [claimed.entries_remove waiting, entries_claim]
      · exact events_completion (answered_of_addresses coherent waiting addressed judged)

/-- Whatever a frame ends or acknowledges, the frame is for it. -/
theorem Received.addressee {receipt : Receipt} (came : Received tracker frame receipt)
    {id : TransactionId} (concerned : receipt.result = .ok (.completed id) ∨
      receipt.result = .ok (.acknowledged id)) :
    ∃ transaction ∈ tracker.inFlight.transactions,
      tracker.inFlight.Addresses frame transaction ∧ transaction.id = id := by
  cases came with
  | completed waits addressed judged =>
      rcases concerned with equal | equal <;> cases equal
      exact ⟨_, waits, addressed, rfl⟩
  | acknowledged waits addressed judged =>
      rcases concerned with equal | equal <;> cases equal
      exact ⟨_, waits, addressed, rfl⟩
  | _ => rcases concerned with equal | equal <;> cases equal

/-- A frame that names a node is for the transaction under its own key. -/
theorem key_of_addresses (coherent : tracker.inFlight.Coherent tracker.lastId) {node : NodeId}
    (named : frame.node = some node) {transaction : Transaction}
    (waiting : transaction ∈ tracker.inFlight.transactions)
    (addressed : tracker.inFlight.Addresses frame transaction) :
    transaction.key = ⟨some node, frame.messageClass⟩ := by
  rcases coherent.addresses_cases waiting addressed with ⟨plain, -⟩ | ⟨-, same⟩
  · rw [isResponse, named] at plain
    cases plain
  · exact same.symm.trans (congrArg (Key.mk · frame.messageClass) named)

theorem accounted (coherent : tracker.inFlight.Coherent tracker.lastId)
    (sound : (tracker.receive frame).result ≠ .error .fault) :
    Accounted tracker frame (tracker.receive frame) := by
  refine ⟨handled coherent sound, ?_, ?_⟩
  · intro node named transaction waiting concerned
    obtain ⟨addressee, waits, addressed, same⟩ := (received coherent frame).addressee concerned
    rw [← coherent.eq_of_id_eq waits waiting same]
    exact key_of_addresses coherent named waits addressed
  · rw [(received coherent frame).owed_eq, owed_claim]

/-- Those whose time is up are told of, and nothing else is. -/
theorem events_silence (timeout : Duration) (ended : List Transaction) :
    Effect.events (ended.flatMap (silence timeout)) =
      ended.map fun transaction => .timedOut transaction.id transaction.key := by
  rw [Effect.events, List.filterMap_flatMap, List.map_eq_flatMap]
  rfl

/-! ## Failed nodes over a run -/

/-- Events tell of the same failed nodes twice over, as ends of questions and as news of nodes, and
the questions were in flight. -/
private structure Paired (tracker : Tracker) (events : List Event) : Prop where
  followed : events.filterMap Event.failedNode? = (events.filterMap Event.failure?).map (·.2)
  asked : ∀ failure ∈ events.filterMap Event.failure?,
    ∃ transaction ∈ tracker.inFlight.transactions,
      transaction.id = failure.1 ∧ transaction.command = .isFailedNode failure.2

private theorem Paired.of_silent {events : List Event}
    (silent : ∀ event ∈ events, event.failedNode? = none ∧ event.failure? = none) :
    Paired tracker events := by
  have noNode := List.filterMap_eq_nil_iff.mpr fun event member => (silent event member).1
  have noFailure := List.filterMap_eq_nil_iff.mpr fun event member => (silent event member).2
  constructor
  · rw [noNode, noFailure, List.map_nil]
  · rw [noFailure]
    exact fun _ member => nomatch member

private theorem paired_completion {transaction : Transaction} {outcome : Outcome}
    (waiting : transaction ∈ tracker.inFlight.transactions)
    (answered : transaction.command.Answered frame outcome) :
    Paired tracker (Effect.events (completion transaction outcome)) := by
  rw [events_completion answered]
  obtain ⟨id, command, issuedAt, state, current⟩ := transaction
  cases answered with
  | nodeFailed node failed kind =>
      cases failed with
      | false => exact .of_silent (List.forall_mem_singleton.mpr ⟨rfl, rfl⟩)
      | true =>
          refine ⟨rfl, fun failure member => ?_⟩
          obtain rfl := List.mem_singleton.mp member
          exact ⟨_, waiting, rfl, rfl⟩
  | _ => exact .of_silent (List.forall_mem_singleton.mpr ⟨rfl, rfl⟩)

private theorem paired_submit (coherent : tracker.inFlight.Coherent tracker.lastId)
    (command : Command) (now : Instant) (refuses : Frame → Option String) :
    Paired tracker (Effect.events (tracker.submit command now refuses).effects) := by
  have came := submitted coherent command now refuses
  generalize tracker.submit command now refuses = submission at came
  apply Paired.of_silent
  cases came <;> exact fun _ member => nomatch member

private theorem paired_receive (coherent : tracker.inFlight.Coherent tracker.lastId)
    (frame : Frame) : Paired tracker (Effect.events (tracker.receive frame).effects) := by
  have came := received coherent frame
  generalize tracker.receive frame = receipt at came
  cases came with
  | passedOn useless =>
      apply Paired.of_silent
      intro event member
      obtain rfl := List.mem_singleton.mp member
      apply Event.ofFrame_cases (P := fun event => event.failedNode? = none ∧ event.failure? = none)
      all_goals intros; exact ⟨rfl, rfl⟩
  | completed waiting addressed judged =>
      exact paired_completion waiting (answered_of_addresses coherent waiting addressed judged)
  | _ => exact .of_silent fun _ member => nomatch member

private theorem paired_sweep (coherent : tracker.inFlight.Coherent tracker.lastId)
    {now : Instant} {expiry : Expiry} (sweep : Sweep tracker now expiry) :
    Paired tracker (Effect.events expiry.effects) := by
  obtain @⟨ended, all⟩ := expired coherent sweep
  apply Paired.of_silent
  intro event member
  rw [events_silence] at member
  obtain ⟨transaction, -, rfl⟩ := List.mem_map.mp member
  exact ⟨rfl, rfl⟩

/-- What a history tells of failed nodes follows the answers that said so, and each of these is the
answer to a question that was accepted. -/
private structure Traced (history : History) : Prop where
  followed : history.events.filterMap Event.failedNode? = history.failures.map (·.2)
  asked : ∀ failure ∈ history.failures, (failure.1, .isFailedNode failure.2) ∈ history.accepted

private theorem Traced.step (traced : Traced history) (accounts : Accounts history tracker)
    {occurrence : Occurrence} (paired : Paired tracker (Effect.events occurrence.effects)) :
    Traced (occurrence :: history) := by
  have split : History.failures (occurrence :: history) =
      history.failures ++ (Effect.events occurrence.effects).filterMap Event.failure? := by
    rw [History.failures, History.events_cons, List.filterMap_append, ← History.failures]
  constructor
  · rw [split, History.events_cons, List.filterMap_append, List.map_append, traced.followed,
      paired.followed]
  · intro failure member
    rw [History.accepted_cons]
    apply List.mem_append_left
    rw [split] at member
    rcases List.mem_append.mp member with before | latest
    · exact traced.asked failure before
    · obtain ⟨transaction, waiting, same, question⟩ := paired.asked failure latest
      rw [← same, ← question]
      exact accounts.waiting transaction waiting

private theorem Run.traced (run : Run timeout history tracker) : Traced history := by
  induction run with
  | fresh => exact ⟨rfl, fun _ member => nomatch member⟩
  | submit run command now refuses before =>
      exact before.step run.accounts (paired_submit run.accounts.coherent command now refuses)
  | receive run frame before =>
      exact before.step run.accounts (paired_receive run.accounts.coherent frame)
  | sweep run sweep before =>
      exact before.step run.accounts (paired_sweep run.accounts.coherent sweep)

/-- No question is answered twice that a node has failed: that would end it twice. -/
private theorem Run.failures_nodup (run : Run timeout history tracker) :
    (history.failures.map (·.1)).Nodup := by
  have ends := run.endings_nodup
  rw [History.endings_eq_events, List.Nodup, List.pairwise_map, List.pairwise_filterMap] at ends
  rw [History.failures, List.Nodup, List.pairwise_map, List.pairwise_filterMap]
  refine ends.imp fun apart one first other second => ?_
  obtain ⟨key, -, rfl⟩ := Event.completed_of_failure? first
  obtain ⟨otherKey, -, rfl⟩ := Event.completed_of_failure? second
  exact apart _ rfl _ rfl

private theorem Run.mem_failures_iff (run : Run timeout history tracker) {id : TransactionId}
    {node : NodeId} :
    (id, node) ∈ history.failures ↔ (id, .isFailedNode node) ∈ history.accepted ∧
      ∃ key, .completed id key (.answered (.nodeFailed true)) ∈ history.events := by
  constructor
  · intro failed
    obtain ⟨event, told, failure⟩ := List.mem_filterMap.mp failed
    obtain ⟨key, -, rfl⟩ := Event.completed_of_failure? failure
    exact ⟨run.traced.asked _ failed, key, told⟩
  · rintro ⟨accepted, key, told⟩
    have ending : ⟨id, key, .answered (.nodeFailed true)⟩ ∈ history.endings timeout := by
      rw [History.endings_eq_events]
      exact List.mem_filterMap.mpr ⟨_, told, rfl⟩
    obtain ⟨command, again, same⟩ := run.concluded.keyed _ ending
    obtain rfl := run.accounts.command_unique again accepted
    obtain rfl : key = Key.ofCommand (.isFailedNode node) := same
    exact List.mem_filterMap.mpr ⟨_, told, rfl⟩

/-- **Every incoming frame is accounted for**, after every run, unless reading it breaks off. Over
the run, the events of failed nodes are the answers to questions that said so, in order: each such
question was accepted for the node, and none is listed twice. -/
theorem Run.frames_accounted (run : Run timeout history tracker) :
    (∀ frame, (tracker.receive frame).result ≠ .error .fault →
      Accounted tracker frame (tracker.receive frame)) ∧
    history.events.filterMap Event.failedNode? = history.failures.map (·.2) ∧
    (history.failures.map (·.1)).Nodup ∧
    ∀ id node, (id, node) ∈ history.failures ↔ (id, .isFailedNode node) ∈ history.accepted ∧
      ∃ key, .completed id key (.answered (.nodeFailed true)) ∈ history.events := by
  refine ⟨fun frame sound => accounted run.accounts.coherent sound, run.traced.followed,
    run.failures_nodup, fun id node => run.mem_failures_iff⟩

/-- The controller is asked about two nodes, and says that the first has failed. -/
theorem Run.frames_accounted_of_failed_node :
    ∃ history tracker frame, Run ⟨10⟩ history tracker ∧
      (tracker.receive frame).result = .ok (.completed ⟨1⟩) ∧
      Accounted tracker frame (tracker.receive frame) := by
  have run := ((@Run.fresh ⟨10⟩).submit (.isFailedNode ⟨5⟩) ⟨0⟩ fun _ => none).submit
    (.isFailedNode ⟨9⟩) ⟨1⟩ fun _ => none
  refine ⟨_, _, Frame.inbound .isFailedNode .response none [1], run, by decide, ?_⟩
  exact (Run.frames_accounted run).1 _ (by decide)

end Tracker

end ZWaveGateway
