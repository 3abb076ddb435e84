import ZWaveGateway.Command.Layout
import ZWaveGateway.Transaction.Basic

/-!
# What a judgement can be

The judgement of a frame by a waiting command has few forms. This module lists them, each with what
it says about the bytes of the frame: for an application command
`ZWaveGateway.QueryTarget.Reported`, for any frame `ZWaveGateway.Command.Judged`. Whatever is
proved of answers, of malformed frames and of the fault is read off these lists.

A response of the class that a command was sent in is always about the command: its length and its
first byte decide what it says (`ZWaveGateway.Command.judge_of_short`,
`ZWaveGateway.Command.judge_of_whole`).
-/

namespace ZWaveGateway

namespace QueryTarget

variable {target : QueryTarget} {frame : Frame}

/-- What an application command can say to a question. It faults when it reports to the question
but counts fewer than the two bytes that say so; it answers when it counts them, and has all the
bytes it counts. -/
inductive Reported (target : QueryTarget) (frame : Frame) : Except ReadError Verdict → Prop where
  | short {expected actual : Nat} (missing : actual < expected) :
      Reported target frame (.error (.malformed (.tooShort frame.messageClass expected actual)))
  | unrelated : Reported target frame (.ok .unrelated)
  | fault {status source count : UInt8} {rest : List UInt8}
      (payload : frame.payload =
        status :: source :: count :: target.commandClass.code :: target.commands.2 :: rest)
      (uncounted : count.toNat < 2) :
      Reported target frame (.error .fault)
  | answer {status source count : UInt8} {rest : List UInt8} {answer : Answer}
      (payload : frame.payload =
        status :: source :: count :: target.commandClass.code :: target.commands.2 :: rest)
      (counted : 2 ≤ count.toNat) (whole : 3 + count.toNat ≤ frame.payload.length)
      (read : target.readReport? (rest.take (count.toNat - 2)) = some answer) :
      Reported target frame (.ok (.settled (.answered answer)))

theorem reported (target : QueryTarget) (frame : Frame) :
    Reported target frame (target.judgeReport frame) := by
  unfold judgeReport
  simp only []
  split
  · next status source count commandClass command rest payload =>
      by_cases cut : frame.payload.length < 3 + count.toNat
      · rw [if_pos cut]
        exact .short cut
      rw [if_neg cut]
      by_cases other : commandClass ≠ target.commandClass.code ∨ command ≠ target.commands.2
      · rw [if_pos other]
        exact .unrelated
      rw [if_neg other]
      obtain ⟨sameClass, sameCommand⟩ := not_or.mp other
      obtain rfl := Decidable.not_not.mp sameClass
      obtain rfl := Decidable.not_not.mp sameCommand
      by_cases uncounted : count.toNat < 2
      · rw [if_pos uncounted]
        exact .fault payload uncounted
      rw [if_neg uncounted]
      cases read : target.readReport? (rest.take (count.toNat - 2)) with
      | some answer => exact .answer payload (Nat.not_lt.mp uncounted) (Nat.not_lt.mp cut) read
      | none =>
          exact .short (Nat.add_lt_add_left (readReport?_eq_none_iff.mp read) reportHeader)
  · next shape =>
      refine .short ?_
      match payload : frame.payload with
      | [] | [_] | [_, _] | [_, _, _] | [_, _, _, _] =>
          simp only [List.length_nil, List.length_cons, reportHeader]
          omega
      | status :: source :: count :: commandClass :: command :: rest =>
          exact (shape status source count commandClass command rest payload).elim

/-- Reading a report faults exactly when it reports to the question and does not count the two
bytes that say so. -/
theorem judgeReport_eq_fault_iff :
    target.judgeReport frame = .error .fault ↔
      ∃ (status source count : UInt8) (rest : List UInt8),
        frame.payload =
          status :: source :: count :: target.commandClass.code :: target.commands.2 :: rest ∧
        count.toNat < 2 := by
  constructor
  · intro faults
    have listed := target.reported frame
    rw [faults] at listed
    cases listed with
    | fault payload uncounted => exact ⟨_, _, _, _, payload, uncounted⟩
  · rintro ⟨status, source, count, rest, payload, uncounted⟩
    unfold judgeReport
    simp only [payload]
    have whole : ¬(status :: source :: count :: target.commandClass.code ::
        target.commands.2 :: rest).length < 3 + count.toNat := by
      simp only [List.length_cons]
      omega
    rw [if_neg whole, if_neg (by simp only [ne_eq, not_true_eq_false, or_self, not_false_eq_true]),
      if_pos uncounted]

end QueryTarget

namespace Frame

variable {frame : Frame} {least : Nat}

theorem readable_of_le (long : least ≤ frame.payload.length) : frame.readable least = .ok () := by
  rw [readable, requireLength, if_neg (Nat.not_lt.mpr long)]
  rfl

theorem readable_of_lt (short : frame.payload.length < least) :
    frame.readable least =
      .error (.malformed (.tooShort frame.messageClass least frame.payload.length)) := by
  rw [readable, requireLength, if_pos short]
  rfl

end Frame

namespace Command

variable {command : Command} {frame : Frame}

/-- The command is a question to a node. -/
def isQuery : Command → Bool
  | .query _ _ => true
  | _ => false

theorem judgeTransmission_of_query {status : UInt8} (question : command.isQuery = true)
    (taken : status ≠ 0) : command.judgeTransmission status = .acknowledged := by
  cases command with
  | query node target => exact if_neg taken
  | controllerVersion => cases question
  | isFailedNode node => cases question
  | set node action => cases question

theorem judgeTransmission_of_not_query {status : UInt8} (statement : command.isQuery = false)
    (taken : status ≠ 0) :
    command.judgeTransmission status = .settled (.answered .transmitted) := by
  cases command with
  | query node target => cases statement
  | controllerVersion => exact if_neg taken
  | isFailedNode node => exact if_neg taken
  | set node action => exact if_neg taken

/-- What a frame can say to a waiting command. About something else can only be a frame of a class
that no command is sent in. -/
inductive Judged (command : Command) (frame : Frame) : Except ReadError Verdict → Prop where
  | short {expected actual : Nat} (missing : actual < expected) :
      Judged command frame (.error (.malformed (.tooShort frame.messageClass expected actual)))
  | version (kind : frame.messageClass = .getVersion)
      (long : versionTextLength < frame.payload.length) :
      Judged command frame
        (.ok (.settled (.answered (.controllerVersion (readControllerInfo frame.payload)))))
  | failure {first : UInt8} {rest : List UInt8} (kind : frame.messageClass = .isFailedNode)
      (payload : frame.payload = first :: rest) :
      Judged command frame (.ok (.settled (.answered (.nodeFailed (first != 0)))))
  | rejected {rest : List UInt8} (kind : frame.messageClass = .sendData)
      (payload : frame.payload = 0 :: rest) :
      Judged command frame (.ok (.settled .rejected))
  | transmitted {first : UInt8} {rest : List UInt8} (kind : frame.messageClass = .sendData)
      (payload : frame.payload = first :: rest) (taken : first ≠ 0)
      (statement : command.isQuery = false) :
      Judged command frame (.ok (.settled (.answered .transmitted)))
  | acknowledged {first : UInt8} {rest : List UInt8} (kind : frame.messageClass = .sendData)
      (payload : frame.payload = first :: rest) (taken : first ≠ 0)
      (question : command.isQuery = true) :
      Judged command frame (.ok .acknowledged)
  | unrelated (kind : ∀ request : Command, request.frame.messageClass ≠ frame.messageClass) :
      Judged command frame (.ok .unrelated)
  | report {node : NodeId} {target : QueryTarget} {result : Except ReadError Verdict}
      (kind : frame.messageClass = .applicationCommand) (question : command = .query node target)
      (reported : target.Reported frame result) :
      Judged command frame result

private theorem requestClass (command : Command) :
    command.frame.messageClass = .getVersion ∨ command.frame.messageClass = .isFailedNode ∨
      command.frame.messageClass = .sendData := by
  cases command with
  | controllerVersion => exact .inl rfl
  | isFailedNode node => exact .inr (.inl rfl)
  | query node target => exact .inr (.inr rfl)
  | set node action => exact .inr (.inr rfl)

theorem judged (command : Command) (frame : Frame) :
    Judged command frame (command.judge frame) := by
  have short {least : Nat} (missing : frame.payload.length < least) (verdict : Verdict) :
      Judged command frame (do frame.readable least; return verdict) := by
    rw [Frame.readable_of_lt missing]
    exact .short missing
  unfold judge
  cases kind : frame.messageClass with
  | getVersion =>
      dsimp only
      by_cases missing : frame.payload.length < versionTextLength + 1
      · exact short missing _
      · rw [Frame.readable_of_le (Nat.not_lt.mp missing)]
        exact .version kind (Nat.not_lt.mp missing)
  | isFailedNode =>
      dsimp only
      cases payload : frame.payload with
      | nil => exact short (payload ▸ Nat.one_pos) _
      | cons first rest =>
          rw [Frame.readable_of_le (payload ▸ Nat.succ_le_succ (Nat.zero_le _))]
          exact .failure kind payload
  | sendData =>
      dsimp only
      cases payload : frame.payload with
      | nil => exact short (payload ▸ Nat.one_pos) _
      | cons first rest =>
          rw [Frame.readable_of_le (payload ▸ Nat.succ_le_succ (Nat.zero_le _))]
          by_cases refused : first = 0
          · subst refused
            exact .rejected kind payload
          · change Judged command frame (.ok (command.judgeTransmission first))
            cases question : command.isQuery with
            | true =>
                rw [judgeTransmission_of_query question refused]
                exact .acknowledged kind payload refused question
            | false =>
                rw [judgeTransmission_of_not_query question refused]
                exact .transmitted kind payload refused question
  | applicationCommand =>
      have strange (request : Command) : request.frame.messageClass ≠ frame.messageClass := by
        rw [kind]
        rcases request.requestClass with same | same | same <;> rw [same] <;> decide
      cases command with
      | query node target => exact .report kind rfl (target.reported frame)
      | controllerVersion => exact .unrelated strange
      | isFailedNode node => exact .unrelated strange
      | set node action => exact .unrelated strange
  | initData =>
      refine .unrelated fun request => ?_
      rw [kind]
      rcases request.requestClass with same | same | same <;> rw [same] <;> decide
  | applicationUpdate =>
      refine .unrelated fun request => ?_
      rw [kind]
      rcases request.requestClass with same | same | same <;> rw [same] <;> decide

/-- That a transaction has already ended is nothing that a frame says. -/
theorem judge_ne_transition (command : Command) (frame : Frame) (error : TransitionError) :
    command.judge frame ≠ .error (.transition error) := by
  intro same
  have listed := command.judged frame
  rw [same] at listed
  cases listed with
  | report kind question reported => cases reported

/-- A waiting command faults on a frame exactly when it is a question and the frame passes as a
report to it, without counting what makes it one. -/
theorem judge_eq_fault_iff :
    command.judge frame = .error .fault ↔
      ∃ node target, command = .query node target ∧ frame.messageClass = .applicationCommand ∧
        ∃ (status source count : UInt8) (rest : List UInt8),
          frame.payload =
            status :: source :: count :: target.commandClass.code :: target.commands.2 :: rest ∧
          count.toNat < 2 := by
  constructor
  · intro faults
    have listed := command.judged frame
    rw [faults] at listed
    cases listed with
    | report kind question reported =>
        cases reported with
        | fault payload uncounted =>
            exact ⟨_, _, question, kind, _, _, _, _, payload, uncounted⟩
  · rintro ⟨node, target, rfl, kind, layout⟩
    unfold Command.judge
    rw [kind]
    exact QueryTarget.judgeReport_eq_fault_iff.mpr layout

/-! ## Responses -/

/-- The fewest payload bytes of a response to a request of a class. -/
def leastResponse : MessageClass → Nat
  | .getVersion => versionTextLength + 1
  | .isFailedNode | .sendData => 1
  | .initData | .applicationCommand | .applicationUpdate => 0

/-- The command still waits after a response: it is a question, and the response says that it is on
its way. -/
def awaitsReport (command : Command) (response : Frame) : Bool :=
  command.isQuery && response.payload.head? != some 0

theorem awaitsReport_of_not_query (statement : command.isQuery = false) :
    command.awaitsReport frame = false := by
  rw [awaitsReport, statement, Bool.false_and]

theorem messageClass_of_isQuery (question : command.isQuery = true) :
    command.frame.messageClass = .sendData := by
  cases command with
  | query node target => rfl
  | controllerVersion => cases question
  | isFailedNode node => cases question
  | set node action => cases question

/-- A response that is shorter than any of its class is malformed. -/
theorem judge_of_short (same : frame.messageClass = command.frame.messageClass)
    (short : frame.payload.length < leastResponse frame.messageClass) :
    command.judge frame = .error (.malformed (.tooShort frame.messageClass
      (leastResponse frame.messageClass) frame.payload.length)) := by
  unfold judge
  rcases command.requestClass with kind | kind | kind
  all_goals
    rw [kind] at same
    rw [same] at short ⊢
    dsimp only [leastResponse] at short ⊢
    rw [Frame.readable_of_lt short, same]
    rfl

private theorem readable_of_whole (same : frame.messageClass = command.frame.messageClass)
    (whole : leastResponse frame.messageClass ≤ frame.payload.length) :
    ∃ verdict, command.judge frame = .ok verdict := by
  unfold judge
  rcases command.requestClass with kind | kind | kind
  all_goals
    rw [kind] at same
    rw [same] at whole ⊢
    dsimp only [leastResponse] at whole ⊢
    rw [Frame.readable_of_le whole]
    exact ⟨_, rfl⟩

/-- Any other response acknowledges a question that still waits, and settles every other command. -/
theorem judge_of_whole (same : frame.messageClass = command.frame.messageClass)
    (whole : leastResponse frame.messageClass ≤ frame.payload.length) :
    (command.awaitsReport frame = true ∧ command.judge frame = .ok .acknowledged) ∨
      (command.awaitsReport frame = false ∧
        ∃ outcome, command.judge frame = .ok (.settled outcome)) := by
  have statement (other : frame.messageClass ≠ .sendData) : command.isQuery = false :=
    Bool.eq_false_iff.mpr fun question => other (same.trans (messageClass_of_isQuery question))
  obtain ⟨verdict, read⟩ := readable_of_whole same whole
  have listed := command.judged frame
  rw [read] at listed ⊢
  cases listed with
  | version kind long =>
      refine .inr ⟨awaitsReport_of_not_query (statement ?_), _, rfl⟩
      rw [kind]
      decide
  | failure kind payload =>
      refine .inr ⟨awaitsReport_of_not_query (statement ?_), _, rfl⟩
      rw [kind]
      decide
  | rejected kind payload =>
      refine .inr ⟨?_, _, rfl⟩
      rw [awaitsReport, payload]
      exact Bool.and_false _
  | transmitted kind payload taken statement =>
      exact .inr ⟨awaitsReport_of_not_query statement, _, rfl⟩
  | acknowledged kind payload taken question =>
      refine .inl ⟨?_, rfl⟩
      rw [awaitsReport, question, payload, List.head?_cons, Bool.true_and, bne_iff_ne]
      exact fun zero => taken (Option.some.inj zero)
  | unrelated kind => exact (kind command same.symm).elim
  | report kind question reported =>
      rw [question, kind] at same
      cases same

end Command

end ZWaveGateway
