import ZWaveGateway.Event.Basic
import ZWaveGateway.Proofs.Tracker.Operations

/-!
# Two readings of a report

An application command is read in two places: as the answer to a question that waits, and as news
when nobody waits for it. The one looks for the bytes of the header, then for those that the frame
counts, and cuts the data out last; the other asks at once whether the count covers command class
and command and the payload covers the count. Still they take the same data out of the same frames
(`ZWaveGateway.QueryTarget.judgeReport_eq_settled_iff`, `ZWaveGateway.Event.ofFrame_eq_report_iff`).

So a frame answers a question exactly if it would be news of the report that the question asks for,
with enough data (`ZWaveGateway.Transaction.reads_as_event`).
-/

namespace ZWaveGateway

/-- The payload announces a command with its data: it counts at least command class and command, and
has all the bytes that it counts. What stands behind those is no data. -/
def Frame.Announces (frame : Frame) (commandClass command : UInt8) (data : List UInt8) : Prop :=
  ∃ (status source count : UInt8) (rest : List UInt8),
    frame.payload = status :: source :: count :: commandClass :: command :: rest ∧
      2 ≤ count.toNat ∧ 3 + count.toNat ≤ frame.payload.length ∧
      data = rest.take (count.toNat - 2)

namespace QueryTarget

variable {target : QueryTarget} {frame : Frame} {data : List UInt8}

/-- What the data of a report says in answer to the question: the level in the first byte, or the
library, the protocol version and the application version in the first five. -/
def answerIn (target : QueryTarget) (data : List UInt8) : Answer :=
  match target with
  | .version =>
      .nodeVersion (Library.ofCode (data.getD 0 0)) (data.getD 1 0, data.getD 2 0)
        (data.getD 3 0, data.getD 4 0)
  | _ => .level (data.getD 0 0)

theorem eq_answerIn_of_read {answer : Answer} (read : target.readReport? data = some answer) :
    answer = target.answerIn data := by
  unfold readReport? at read
  split at read <;> cases read
  · rfl
  · next valued =>
      cases target with
      | version => exact (valued rfl).elim
      | _ => rfl

/-- Data that is long enough is read, whatever stands behind what the question asks for. -/
theorem readReport?_eq_some_iff {answer : Answer} :
    target.readReport? data = some answer ↔
      target.reportLength ≤ data.length ∧ answer = target.answerIn data := by
  have missing : target.readReport? data = none ↔ _ := readReport?_eq_none_iff
  constructor
  · intro read
    rw [read] at missing
    exact ⟨Nat.not_lt.mp (missing.not.mp nofun), eq_answerIn_of_read read⟩
  · rintro ⟨long, rfl⟩
    cases read : target.readReport? data with
    | none => exact (Nat.not_lt.mpr long (missing.mp read)).elim
    | some answer => rw [eq_answerIn_of_read read]

/-- An application command settles a question exactly if it announces a report to it whose data is
long enough, with what the data says. -/
theorem judgeReport_eq_settled_iff {outcome : Outcome} :
    target.judgeReport frame = .ok (.settled outcome) ↔
      ∃ data, frame.Announces target.commandClass.code target.commands.2 data ∧
        target.reportLength ≤ data.length ∧ outcome = .answered (target.answerIn data) := by
  constructor
  · intro settled
    have listed := target.reported frame
    rw [settled] at listed
    cases listed with
    | answer payload counted whole read =>
        obtain ⟨long, rfl⟩ := readReport?_eq_some_iff.mp read
        exact ⟨_, ⟨_, _, _, _, payload, counted, whole, rfl⟩, long, rfl⟩
  · rintro ⟨data, ⟨status, source, count, rest, payload, counted, whole, rfl⟩, long, rfl⟩
    have read := readReport?_eq_some_iff.mpr ⟨long, rfl⟩
    have same : ¬(target.commandClass.code ≠ target.commandClass.code ∨
        target.commands.2 ≠ target.commands.2) := by simp
    rw [payload] at whole
    simp only [judgeReport, payload, if_neg (Nat.not_lt.mpr whole), if_neg same,
      if_neg (Nat.not_lt.mpr counted), read]

end QueryTarget

namespace Event

variable {frame : Frame}

/-- An application command is news of a report exactly if it names its node and announces one. -/
theorem ofFrame_eq_report_iff (kind : frame.messageClass = .applicationCommand)
    (direction : frame.frameType = .request) {node : NodeId} {commandClass command : UInt8}
    {data : List UInt8} :
    ofFrame frame = .report node commandClass command data ↔
      frame.node = some node ∧ frame.Announces commandClass command data := by
  have news : ofFrame frame = (reportOf? frame).getD (.unhandled frame) := by
    rw [ofFrame, kind, direction]
  rw [news]
  constructor
  · intro told
    unfold reportOf? at told
    split at told
    · next source status other count first second rest named payload =>
        split at told
        · next within =>
            cases told
            exact ⟨named, _, _, _, _, payload, within.1, Nat.add_comm .. ▸ within.2, rfl⟩
        · cases told
    · cases told
  · rintro ⟨named, status, source, count, rest, payload, counted, whole, rfl⟩
    rw [payload, Nat.add_comm] at whole
    simp only [reportOf?, named, payload, if_pos (And.intro counted whole), Option.getD_some]

end Event

namespace Transaction

variable {transaction : Transaction} {frame : Frame}

/-- A pending transaction is answered exactly by a frame that settles its command. -/
theorem receive_answered_iff (pending : transaction.state = .pending) :
    (transaction.receive frame).2 = .ok .answered ↔
      ∃ outcome, transaction.command.judge frame = .ok (.settled outcome) := by
  rw [receive_of_pending pending]
  cases transaction.command.judge frame with
  | error error => exact iff_of_false nofun nofun
  | ok verdict =>
      cases verdict with
      | settled outcome => exact iff_of_true rfl ⟨outcome, rfl⟩
      | unrelated => exact iff_of_false nofun nofun
      | acknowledged => exact iff_of_false nofun nofun

/-- A frame that does not answer a pending transaction leaves it as it was. -/
theorem receive_of_not_answered (pending : transaction.state = .pending)
    (other : (transaction.receive frame).2 ≠ .ok .answered) :
    (transaction.receive frame).1 = transaction := by
  rw [receive_of_pending pending] at other ⊢
  cases judged : transaction.command.judge frame with
  | error error => rfl
  | ok verdict =>
      cases verdict with
      | settled outcome =>
          rw [judged] at other
          exact (other rfl).elim
      | unrelated => rfl
      | acknowledged => rfl

/-- **The two readings of a report agree.** An application command that names its node answers a
pending question exactly if it would be news of the report that the question asks for, with enough
data; and the outcome is what that data says. What would be news without a meaning answers nothing,
and leaves the question as it was. -/
theorem reads_as_event {asked node : NodeId} {target : QueryTarget}
    (pending : transaction.state = .pending)
    (question : transaction.command = .query asked target)
    (kind : frame.messageClass = .applicationCommand) (direction : frame.frameType = .request)
    (named : frame.node = some node) :
    ((transaction.receive frame).2 = .ok .answered ↔
      ∃ data, Event.ofFrame frame =
          .report node target.commandClass.code target.commands.2 data ∧
        target.reportLength ≤ data.length) ∧
    (∀ data, Event.ofFrame frame =
        .report node target.commandClass.code target.commands.2 data →
      target.reportLength ≤ data.length →
        (transaction.receive frame).1 =
          { transaction with
            state := .completed
            outcome := some (.answered (target.answerIn data)) }) ∧
    (Event.ofFrame frame = .unhandled frame →
      (transaction.receive frame).2 ≠ .ok .answered ∧
        (transaction.receive frame).1 = transaction) := by
  have judge : transaction.command.judge frame = target.judgeReport frame := by
    rw [question, Command.judge, kind]
  have told (data : List UInt8) :
      Event.ofFrame frame = .report node target.commandClass.code target.commands.2 data ↔
        frame.Announces target.commandClass.code target.commands.2 data :=
    (Event.ofFrame_eq_report_iff kind direction).trans (and_iff_right named)
  have answered : (transaction.receive frame).2 = .ok .answered ↔
      ∃ data, Event.ofFrame frame =
          .report node target.commandClass.code target.commands.2 data ∧
        target.reportLength ≤ data.length := by
    simp only [receive_answered_iff pending, judge, QueryTarget.judgeReport_eq_settled_iff, told]
    constructor
    · rintro ⟨outcome, data, announced, long, -⟩
      exact ⟨data, announced, long⟩
    · rintro ⟨data, announced, long⟩
      exact ⟨_, data, announced, long, rfl⟩
  refine ⟨answered, fun data report long => ?_, fun meaningless => ?_⟩
  · have settled := QueryTarget.judgeReport_eq_settled_iff.mpr
      ⟨data, (told data).mp report, long, rfl⟩
    rw [receive_of_pending pending, judge, settled]
  · have silent : (transaction.receive frame).2 ≠ .ok .answered := by
      intro answers
      obtain ⟨data, report, -⟩ := answered.mp answers
      cases meaningless.symm.trans report
    exact ⟨silent, receive_of_not_answered pending silent⟩

/-- A node reports its version with one byte more than the question asks for, and the frame goes on
behind the bytes that it counts. -/
theorem reads_as_event_of_version :
    let frame := Frame.inbound .applicationCommand .request (some ⟨9⟩)
      [0, 9, 8, 0x86, 0x12, 3, 4, 5, 6, 7, 8, 9]
    let asked := Transaction.issue ⟨1⟩ (.query ⟨9⟩ .version) ⟨0⟩
    Event.ofFrame frame = .report ⟨9⟩ 0x86 0x12 [3, 4, 5, 6, 7, 8] ∧
      (asked.receive frame).2 = .ok .answered ∧
      (asked.receive frame).1.outcome =
        some (.answered (.nodeVersion (Library.ofCode 3) (4, 5) (6, 7))) := by
  intro frame asked
  have told : Event.ofFrame frame = .report ⟨9⟩ 0x86 0x12 [3, 4, 5, 6, 7, 8] := by decide
  have pending : asked.state = .pending := rfl
  have question : asked.command = .query ⟨9⟩ .version := rfl
  have kind : frame.messageClass = .applicationCommand := rfl
  have reading := reads_as_event pending question kind rfl rfl
  have long : QueryTarget.version.reportLength ≤ [3, 4, 5, 6, 7, 8].length := by decide
  exact ⟨told, reading.1.mpr ⟨_, told, long⟩, congrArg outcome (reading.2.1 _ told long)⟩

end Transaction

end ZWaveGateway
