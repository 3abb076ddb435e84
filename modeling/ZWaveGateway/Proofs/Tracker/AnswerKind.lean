import ZWaveGateway.Proofs.Tracker.History

/-!
# Outcomes fit their commands

What a frame says is decided by the class of the frame, not by the command that waits. That an
outcome still fits the command it is delivered to rests on the matching alone: a frame is for a
transaction only if it bears the key of its command, or is a plain response in the class that its
request was sent in (`ZWaveGateway.InFlight.Coherent.addresses_cases`). Either leaves only the
verdicts that the command asks for.

`ZWaveGateway.Command.Answered` lists the outcomes that fit, each with what the frame must have for
it; `ZWaveGateway.Tracker.Run.outcomes_fit` says that no run delivers another one.
-/

namespace ZWaveGateway

/-- The frame comes from a node and reports to a question: it carries the command class and the
report command of the question, and behind them the data of the report. -/
def QueryTarget.ReportedBy (target : QueryTarget) (node : NodeId) (frame : Frame)
    (data : List UInt8) : Prop :=
  frame.node = some node ∧ frame.messageClass = .applicationCommand ∧
    ∃ (status source count : UInt8) (rest : List UInt8), frame.payload =
      status :: source :: count :: target.commandClass.code :: target.commands.2 :: rest ∧
      data = rest.take (count.toNat - 2)

namespace Command

/-- The outcomes that fit a command, with the frame they are read from. A level and the version of a
node are read from a report of the node that was asked, to the question that was asked. -/
inductive Answered : Command → Frame → Outcome → Prop where
  | controllerVersion {frame : Frame} (kind : frame.messageClass = .getVersion) :
      Answered .controllerVersion frame
        (.answered (.controllerVersion (readControllerInfo frame.payload)))
  | nodeFailed {frame : Frame} (node : NodeId) (failed : Bool)
      (kind : frame.messageClass = .isFailedNode) :
      Answered (.isFailedNode node) frame (.answered (.nodeFailed failed))
  | level {frame : Frame} {node : NodeId} {target : QueryTarget} {level : UInt8}
      {more : List UInt8} (valued : target ≠ .version)
      (reported : target.ReportedBy node frame (level :: more)) :
      Answered (.query node target) frame (.answered (.level level))
  | nodeVersion {frame : Frame} {node : NodeId}
      {library protocol subprotocol application subapplication : UInt8} {more : List UInt8}
      (reported : QueryTarget.version.ReportedBy node frame
        (library :: protocol :: subprotocol :: application :: subapplication :: more)) :
      Answered (.query node .version) frame
        (.answered (.nodeVersion (Library.ofCode library) (protocol, subprotocol)
          (application, subapplication)))
  | transmitted {frame : Frame} (node : NodeId) (action : SetAction)
      (kind : frame.messageClass = .sendData) :
      Answered (.set node action) frame (.answered .transmitted)
  | questionRejected {frame : Frame} (node : NodeId) (target : QueryTarget)
      (kind : frame.messageClass = .sendData) :
      Answered (.query node target) frame .rejected
  | settingRejected {frame : Frame} (node : NodeId) (action : SetAction)
      (kind : frame.messageClass = .sendData) :
      Answered (.set node action) frame .rejected

variable {command : Command} {frame : Frame}

/-- A report that is read has the answer that its question asks for. -/
private theorem answered_of_read {node : NodeId} {target : QueryTarget} {data : List UInt8}
    {answer : Answer} (reported : target.ReportedBy node frame data)
    (read : target.readReport? data = some answer) :
    (Command.query node target).Answered frame (.answered answer) := by
  have level (valued : target ≠ .version)
      (read : data.head?.map Answer.level = some answer) :
      (Command.query node target).Answered frame (.answered answer) := by
    obtain ⟨level, first, rfl⟩ := Option.map_eq_some_iff.mp read
    obtain ⟨more, rfl⟩ := List.head?_eq_some_iff.mp first
    exact .level valued reported
  cases target with
  | version =>
      match data, read with
      | library :: protocol :: subprotocol :: application :: subapplication :: more, read =>
          obtain rfl := Option.some.inj read
          exact .nodeVersion reported
  | basic => cases data <;> exact level (by decide) read
  | binarySwitch => cases data <;> exact level (by decide) read
  | multilevelSwitch => cases data <;> exact level (by decide) read

/-- What a frame settles a command with fits the command, if the frame is a plain response in the
class that the request was sent in, or bears the command's key. -/
theorem answered_of_settled {outcome : Outcome}
    (meant : frame.messageClass = command.frame.messageClass ∨
      Key.ofFrame frame = Key.ofCommand command)
    (settled : command.judge frame = .ok (.settled outcome)) :
    command.Answered frame outcome := by
  have listed := command.judged frame
  rw [settled] at listed
  have kinds : frame.messageClass = command.frame.messageClass ∨
      frame.messageClass = command.answerClass :=
    meant.imp_right fun same => congrArg Key.messageClass same
  cases listed with
  | version kind long =>
      rw [kind] at kinds
      cases command with
      | controllerVersion => exact .controllerVersion kind
      | isFailedNode node => rcases kinds with same | same <;> cases same
      | query node target => rcases kinds with same | same <;> cases same
      | set node action => rcases kinds with same | same <;> cases same
  | failure kind payload =>
      rw [kind] at kinds
      cases command with
      | isFailedNode node => exact .nodeFailed node _ kind
      | controllerVersion => rcases kinds with same | same <;> cases same
      | query node target => rcases kinds with same | same <;> cases same
      | set node action => rcases kinds with same | same <;> cases same
  | rejected kind payload =>
      rw [kind] at kinds
      cases command with
      | query node target => exact .questionRejected node target kind
      | set node action => exact .settingRejected node action kind
      | controllerVersion => rcases kinds with same | same <;> cases same
      | isFailedNode node => rcases kinds with same | same <;> cases same
  | transmitted kind payload taken statement =>
      rw [kind] at kinds
      cases command with
      | set node action => exact .transmitted node action kind
      | query node target => cases statement
      | controllerVersion => rcases kinds with same | same <;> cases same
      | isFailedNode node => rcases kinds with same | same <;> cases same
  | @report node target _ kind question reported =>
      subst question
      have named : frame.node = some node := by
        rcases meant with same | same
        · rw [kind] at same
          cases same
        · exact congrArg Key.node same
      cases reported with
      | answer payload counted whole read =>
          exact answered_of_read ⟨named, kind, _, _, _, _, payload, rfl⟩ read

end Command

/-- The effect tells somebody how a transaction has ended: whoever holds its handle, or those who
listen to events. -/
inductive Effect.Delivers (id : TransactionId) (outcome : Outcome) : Effect → Prop where
  | handle : Delivers id outcome (.settle id outcome)
  | event (key : Key) : Delivers id outcome (.tell (.completed id key outcome))

/-- An outcome that an occurrence delivers fits a command: a frame that came in answers the command
with it, or the time was up. -/
def Occurrence.Fits (timeout : Duration) (command : Command) (outcome : Outcome) :
    Occurrence → Prop
  | .submitted _ _ => False
  | .received frame _ => command.Answered frame outcome
  | .expired _ => outcome = .timedOut timeout

namespace Tracker

open InFlight

variable {tracker : Tracker} {history : History} {timeout : Duration} {id : TransactionId}
  {outcome : Outcome}

/-- The end of a transaction delivers its own outcome, and nothing else. -/
private theorem delivered_completion {transaction : Transaction} {how : Outcome}
    {effect : Effect} (member : effect ∈ completion transaction how)
    (delivers : effect.Delivers id outcome) : id = transaction.id ∧ outcome = how := by
  unfold completion at member
  simp only [List.mem_append, List.mem_cons, List.not_mem_nil, or_false] at member
  rcases member with (rfl | rfl) | further
  · cases delivers
    exact ⟨rfl, rfl⟩
  · cases delivers
    exact ⟨rfl, rfl⟩
  · split at further
    · simp only [List.mem_cons, List.not_mem_nil, or_false] at further
      rcases further with rfl | rfl <;> cases delivers
    · cases further

private theorem not_delivers_ofFrame (frame : Frame) :
    ¬Effect.Delivers id outcome (.tell (Event.ofFrame frame)) := by
  intro delivers
  have ended := Event.ended?_ofFrame frame
  generalize Event.ofFrame frame = event at delivers ended
  cases delivers
  cases ended

/-- What a frame settles the transaction with that it is for fits the command. -/
theorem answered_of_addresses (coherent : tracker.inFlight.Coherent tracker.lastId)
    {frame : Frame} {transaction : Transaction}
    (waiting : transaction ∈ tracker.inFlight.transactions)
    (addressed : tracker.inFlight.Addresses frame transaction)
    (judged : transaction.command.judge frame = .ok (.settled outcome)) :
    transaction.command.Answered frame outcome := by
  apply Command.answered_of_settled _ judged
  exact (coherent.addresses_cases waiting addressed).imp And.right And.right

/-- Whatever a frame delivers, it delivers to a transaction in flight, and fits its command. -/
theorem receive_fits (coherent : tracker.inFlight.Coherent tracker.lastId) {frame : Frame}
    {effect : Effect} (wanted : effect ∈ (tracker.receive frame).effects)
    (delivers : effect.Delivers id outcome) :
    ∃ transaction ∈ tracker.inFlight.transactions, transaction.id = id ∧
      transaction.command.Answered frame outcome := by
  have came := received coherent frame
  generalize tracker.receive frame = receipt at came wanted
  cases came with
  | passedOn useless =>
      obtain rfl := List.mem_singleton.mp wanted
      exact (not_delivers_ofFrame frame delivers).elim
  | @completed transaction how waiting addressed judged =>
      obtain ⟨rfl, rfl⟩ := delivered_completion wanted delivers
      exact ⟨transaction, waiting, rfl, answered_of_addresses coherent waiting addressed judged⟩
  | acknowledged waiting addressed judged => cases wanted
  | malformed waiting addressed judged =>
      obtain rfl := List.mem_singleton.mp wanted
      cases delivers
  | faulted waiting addressed judged => cases wanted

theorem sweep_fits (coherent : tracker.inFlight.Coherent tracker.lastId) {now : Instant}
    {expiry : Expiry} (sweep : Sweep tracker now expiry) {effect : Effect}
    (wanted : effect ∈ expiry.effects) (delivers : effect.Delivers id outcome) :
    ∃ transaction ∈ tracker.inFlight.transactions, transaction.id = id ∧
      outcome = .timedOut tracker.timeout := by
  obtain @⟨ended, all⟩ := expired coherent sweep
  obtain ⟨transaction, lapses, wanted⟩ := List.mem_flatMap.mp wanted
  simp only [silence, List.mem_cons, List.not_mem_nil, or_false] at wanted
  rcases wanted with rfl | rfl | rfl <;> cases delivers
  exact ⟨transaction, List.mem_of_mem_filter (all.subset lapses), rfl, rfl⟩

theorem submit_delivers_nothing (coherent : tracker.inFlight.Coherent tracker.lastId)
    {command : Command} {now : Instant} {refuses : Frame → Option String} {effect : Effect}
    (wanted : effect ∈ (tracker.submit command now refuses).effects) :
    ¬effect.Delivers id outcome := by
  intro delivers
  have came := submitted coherent command now refuses
  generalize tracker.submit command now refuses = submission at came wanted
  cases came with
  | duplicate taken => cases wanted
  | refused free refusal =>
      obtain rfl := List.mem_singleton.mp wanted
      cases delivers
  | accepted free taken => cases wanted

/-- **Outcomes fit their commands.** Whatever outcome an occurrence of a run delivers, to a handle
or as an event, goes to a transaction that was accepted, with one command, and is of the kind that
this command asks for. -/
theorem Run.outcomes_fit (run : Run timeout history tracker) {occurrence : Occurrence}
    (member : occurrence ∈ history) {effect : Effect} (wanted : effect ∈ occurrence.effects)
    (delivers : effect.Delivers id outcome) :
    ∃ command, (id, command) ∈ history.accepted ∧
      (∀ other, (id, other) ∈ history.accepted → other = command) ∧
      occurrence.Fits timeout command outcome := by
  have fits : ∃ command, (id, command) ∈ history.accepted ∧
      occurrence.Fits timeout command outcome := by
    induction run with
    | fresh => cases member
    | @submit history tracker run command now refuses earlier =>
        rw [History.accepted_cons]
        rcases List.mem_cons.mp member with rfl | before
        · exact (submit_delivers_nothing run.accounts.coherent wanted delivers).elim
        · obtain ⟨command, accepted, fits⟩ := earlier before
          exact ⟨command, List.mem_append_left _ accepted, fits⟩
    | @receive history tracker run frame earlier =>
        rw [History.accepted_cons]
        rcases List.mem_cons.mp member with rfl | before
        · obtain ⟨transaction, waiting, rfl, fits⟩ :=
            receive_fits run.accounts.coherent wanted delivers
          exact ⟨_, List.mem_append_left _ (run.accounts.waiting _ waiting), fits⟩
        · obtain ⟨command, accepted, fits⟩ := earlier before
          exact ⟨command, List.mem_append_left _ accepted, fits⟩
    | sweep run sweep earlier =>
        rw [History.accepted_cons]
        rcases List.mem_cons.mp member with rfl | before
        · obtain ⟨transaction, waiting, rfl, fits⟩ :=
            sweep_fits run.accounts.coherent sweep wanted delivers
          exact ⟨_, List.mem_append_left _ (run.accounts.waiting _ waiting),
            run.timeout_eq ▸ fits⟩
        · obtain ⟨command, accepted, fits⟩ := earlier before
          exact ⟨command, List.mem_append_left _ accepted, fits⟩
  obtain ⟨command, accepted, fits⟩ := fits
  exact ⟨command, accepted, fun other again => run.accounts.command_unique again accepted, fits⟩

/-- A node is asked for its level, and reports it. -/
theorem Run.outcomes_fit_of_report :
    ∃ history tracker, Run ⟨10⟩ history tracker ∧ ∃ occurrence ∈ history,
      .settle ⟨1⟩ (.answered (.level 99)) ∈ occurrence.effects ∧
      ∃ command, (⟨1⟩, command) ∈ history.accepted ∧
        (∀ other, (⟨1⟩, other) ∈ history.accepted → other = command) ∧
        occurrence.Fits ⟨10⟩ command (.answered (.level 99)) := by
  have run := ((@Run.fresh ⟨10⟩).submit (.query ⟨9⟩ .basic) ⟨0⟩ fun _ => none).receive
    (Frame.inbound .applicationCommand .request (some ⟨9⟩) [0, 9, 3, 0x20, 0x03, 99])
  refine ⟨_, _, run, _, List.mem_cons_self, by decide, ?_⟩
  exact Run.outcomes_fit run List.mem_cons_self (by decide) .handle

end Tracker

end ZWaveGateway
