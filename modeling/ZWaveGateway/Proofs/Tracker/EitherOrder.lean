import ZWaveGateway.Proofs.Tracker.Expiry

/-!
# Report and response in either order

A question that was sent is owed a response, and its report can come before that response or after
it. In one order the response acknowledges a question in flight, in the other it is spent on one
that has ended; either way it ends nothing. What a report ends is a question, and what a response
that grants ends is none (`ZWaveGateway.Tracker.Ends.isQuery_of_report`,
`ZWaveGateway.Tracker.Ends.not_isQuery_of_response`), so neither takes away what the other would
end.

What is left of a frame is then what it ends and the response it spends
(`ZWaveGateway.Tracker.receive_eq`), and these commute
(`ZWaveGateway.Shared.Reachable.either_order`).
-/

namespace ZWaveGateway

open InFlight

/-- The controller says that it does not transmit. -/
def Frame.Refuses (frame : Frame) : Prop :=
  frame.messageClass = .sendData ∧ frame.payload.head? = some 0

namespace Tracker

variable {tracker : Tracker} {frame first second : Frame} {transaction : Transaction}
  {outcome : Outcome}

/-! ## What a frame ends -/

/-- The frame is for the transaction, which is in flight, and settles it. -/
structure Ends (tracker : Tracker) (frame : Frame) (transaction : Transaction)
    (outcome : Outcome) : Prop where
  waiting : transaction ∈ tracker.inFlight.transactions
  addressed : tracker.inFlight.Addresses frame transaction
  judged : transaction.command.judge frame = .ok (.settled outcome)

/-- The transaction that a frame ends, and how, if it ends one. -/
def ended? (tracker : Tracker) (frame : Frame) : Option (Transaction × Outcome) :=
  (tracker.inFlight.claim frame).1.bind fun claimed =>
    match claimed.2.command.judge frame with
    | .ok (.settled outcome) => some (claimed.2, outcome)
    | _ => none

theorem ended?_eq_some_iff (coherent : tracker.inFlight.Coherent tracker.lastId) :
    tracker.ended? frame = some (transaction, outcome) ↔
      tracker.Ends frame transaction outcome := by
  rw [ended?, Option.bind_eq_some_iff]
  constructor
  · rintro ⟨⟨key, claimant⟩, claimed, settles⟩
    obtain ⟨waiting, -, addressed⟩ := coherent.claim_eq_some_iff.mp claimed
    split at settles
    · next judged =>
        cases settles
        exact ⟨waiting, addressed, judged⟩
    · cases settles
  · rintro ⟨waiting, addressed, judged⟩
    refine ⟨_, coherent.claim_eq_some_iff.mpr ⟨waiting, rfl, addressed⟩, ?_⟩
    dsimp only
    rw [judged]

theorem ended?_eq_none (coherent : tracker.inFlight.Coherent tracker.lastId)
    (spared : ∀ transaction outcome, ¬tracker.Ends frame transaction outcome) :
    tracker.ended? frame = none := by
  rw [Option.eq_none_iff_forall_ne_some]
  rintro ⟨transaction, outcome⟩ ended
  exact spared transaction outcome ((ended?_eq_some_iff coherent).mp ended)

/-- The tracker when the owed response that a frame takes is spent. -/
def spend (tracker : Tracker) (frame : Frame) : Tracker :=
  { tracker with inFlight := (tracker.inFlight.claim frame).2 }

/-- The tracker when a transaction has ended. -/
def conclude (tracker : Tracker) : Option (Transaction × Outcome) → Tracker
  | none => tracker
  | some (transaction, outcome) =>
      { tracker with
        inFlight := tracker.inFlight.remove transaction.key
        controllerInfo := learn tracker.controllerInfo outcome }

/-- What a frame does to the tracker and to handles: it spends a response, and ends a transaction if
it ends one. -/
theorem receive_eq (coherent : tracker.inFlight.Coherent tracker.lastId) (frame : Frame) :
    (tracker.receive frame).tracker = (tracker.spend frame).conclude (tracker.ended? frame) ∧
      Effect.settlements (tracker.receive frame).effects =
        (tracker.ended? frame).toList.map fun ended => (ended.1.id, ended.2) := by
  have nothing {claimant : Transaction} {judgement : Except ReadError Verdict}
      (waiting : claimant ∈ tracker.inFlight.transactions)
      (addressed : tracker.inFlight.Addresses frame claimant)
      (judged : claimant.command.judge frame = judgement)
      (other : ∀ outcome, judgement ≠ .ok (.settled outcome)) : tracker.ended? frame = none := by
    refine ended?_eq_none coherent fun transaction outcome ends => other outcome ?_
    rw [← judged, coherent.eq_of_addresses waiting ends.waiting addressed ends.addressed]
    exact ends.judged
  have came := received coherent frame
  generalize tracker.receive frame = receipt at came ⊢
  cases came with
  | passedOn useless =>
      rw [ended?_eq_none coherent fun transaction outcome ends => by
        have unrelated := useless transaction ends.waiting ends.addressed
        cases unrelated.symm.trans ends.judged]
      exact ⟨rfl, rfl⟩
  | acknowledged waiting addressed judged =>
      rw [nothing waiting addressed judged nofun]
      exact ⟨rfl, rfl⟩
  | malformed waiting addressed judged =>
      rw [nothing waiting addressed judged nofun]
      exact ⟨rfl, rfl⟩
  | faulted waiting addressed judged =>
      rw [nothing waiting addressed judged nofun]
      exact ⟨rfl, rfl⟩
  | completed waiting addressed judged =>
      rw [(ended?_eq_some_iff coherent).mpr ⟨waiting, addressed, judged⟩]
      exact ⟨rfl, settlements_completion _ _⟩

/-- A transaction in flight stays there unless the frame ends it. -/
theorem mem_transactions_receive (coherent : tracker.inFlight.Coherent tracker.lastId)
    (waiting : transaction ∈ tracker.inFlight.transactions)
    (spared : ∀ outcome, ¬tracker.Ends frame transaction outcome) :
    transaction ∈ (tracker.receive frame).tracker.inFlight.transactions := by
  have came := received coherent frame
  apply came.survives coherent waiting
  generalize tracker.receive frame = receipt at came
  cases came with
  | completed waits addressed judged =>
      intro same
      injection same with same
      injection same with same
      obtain rfl := coherent.eq_of_id_eq waits waiting same
      exact spared _ ⟨waits, addressed, judged⟩
  | _ => nofun

/-- A frame after another one ends what it ends alone, if the first has not ended that, and leaves
the frame's addressee as it was. -/
theorem ended?_receive (coherent : tracker.inFlight.Coherent tracker.lastId)
    (apart : ∀ transaction one other, tracker.Ends first transaction one →
      ¬tracker.Ends second transaction other)
    (same : ∀ transaction, (tracker.receive first).tracker.inFlight.Addresses second transaction ↔
      tracker.inFlight.Addresses second transaction) :
    (tracker.receive first).tracker.ended? second = tracker.ended? second := by
  have shrinks := shrinks_receive coherent first
  have fewer : ∀ transaction ∈ (tracker.receive first).tracker.inFlight.transactions,
      transaction ∈ tracker.inFlight.transactions :=
    fun transaction => ((shrinks.entries.map _).subset ·)
  apply Option.ext
  rintro ⟨transaction, outcome⟩
  rw [ended?_eq_some_iff (shrinks.coherent coherent), ended?_eq_some_iff coherent]
  constructor
  · rintro ⟨waiting, addressed, judged⟩
    exact ⟨fewer _ waiting, (same _).mp addressed, judged⟩
  · intro ends
    refine ⟨?_, (same _).mpr ends.addressed, ends.judged⟩
    exact mem_transactions_receive coherent ends.waiting fun one first => apart _ _ _ first ends

/-! ## Reports and responses -/

theorem Ends.answered (ends : tracker.Ends frame transaction outcome)
    (coherent : tracker.inFlight.Coherent tracker.lastId) :
    transaction.command.Answered frame outcome :=
  answered_of_addresses coherent ends.waiting ends.addressed ends.judged

/-- What a report ends is a question, and the outcome says nothing about the controller. -/
theorem Ends.isQuery_of_report (ends : tracker.Ends frame transaction outcome)
    (coherent : tracker.inFlight.Coherent tracker.lastId)
    (kind : frame.messageClass = .applicationCommand ∨ frame.messageClass = .applicationUpdate) :
    transaction.command.isQuery = true ∧ outcome.info? = none := by
  have strange {messageClass : MessageClass} (same : frame.messageClass = messageClass)
      (command : messageClass ≠ .applicationCommand) (update : messageClass ≠ .applicationUpdate) :
      False := by
    rw [same] at kind
    exact kind.elim command update
  have answered := ends.answered coherent
  generalize transaction.command = command at answered
  cases answered with
  | level valued reported => exact ⟨rfl, rfl⟩
  | nodeVersion reported => exact ⟨rfl, rfl⟩
  | controllerVersion other => exact (strange other nofun nofun).elim
  | nodeFailed node failed other => exact (strange other nofun nofun).elim
  | transmitted node action other => exact (strange other nofun nofun).elim
  | questionRejected node target other => exact (strange other nofun nofun).elim
  | settingRejected node action other => exact (strange other nofun nofun).elim

/-- What a response ends that does not refuse is no question. -/
theorem Ends.not_isQuery_of_response (ends : tracker.Ends frame transaction outcome)
    (coherent : tracker.inFlight.Coherent tracker.lastId) (plain : isResponse frame = true)
    (granted : ¬frame.Refuses) : transaction.command.isQuery ≠ true := by
  intro question
  have sent : frame.messageClass = .sendData := by
    rcases coherent.addresses_cases ends.waiting ends.addressed with ⟨-, same⟩ | ⟨other, -⟩
    · generalize transaction.command = command at same question
      cases command with
      | query node target => exact same
      | _ => cases question
    · rw [plain] at other
      cases other
  have listed := transaction.command.judged frame
  rw [ends.judged] at listed
  cases listed with
  | version kind long => cases sent.symm.trans kind
  | failure kind payload => cases sent.symm.trans kind
  | rejected kind payload => exact granted ⟨kind, payload ▸ rfl⟩
  | transmitted kind payload taken statement => cases question.symm.trans statement
  | report kind asked reported => cases sent.symm.trans kind

/-! ## What is left of two frames -/

theorem spend_of_not_response (other : isResponse frame = false) :
    tracker.spend frame = tracker := by
  rw [spend, claim_of_not_response other]

/-- Which response a frame spends does not depend on what has ended. -/
theorem spend_conclude (tracker : Tracker) (frame : Frame)
    (ended : Option (Transaction × Outcome)) :
    (tracker.conclude ended).spend frame = (tracker.spend frame).conclude ended := by
  cases ended with
  | none => rfl
  | some ended =>
      unfold conclude spend
      cases shape : isResponse frame with
      | true => rw [claim_of_response shape, claim_of_response shape]; rfl
      | false => rw [claim_of_not_response shape, claim_of_not_response shape]

/-- Two transactions end in either order, if one of the outcomes says nothing about the
controller. -/
theorem conclude_conclude (tracker : Tracker) {one other : Option (Transaction × Outcome)}
    (silent : ∀ ended ∈ one, ended.2.info? = none) :
    (tracker.conclude one).conclude other = (tracker.conclude other).conclude one := by
  cases one with
  | none => rfl
  | some first =>
      cases other with
      | none => rfl
      | some second =>
          have learns (known : Option ControllerInfo) : learn known first.2 = known := by
            rw [learn_eq, silent first rfl, Option.none_or]
          simp only [conclude, remove, learns, List.filter_filter, Bool.and_comm]

/-- Two frames come to the same in either order: the tracker is left the same, and each frame
settles the same handles, with the same outcomes, whether it comes before the other or after it. -/
structure Exchangeable (tracker : Tracker) (one other : Frame) : Prop where
  state : ((tracker.receive one).tracker.receive other).tracker =
    ((tracker.receive other).tracker.receive one).tracker
  first : Effect.settlements ((tracker.receive other).tracker.receive one).effects =
    Effect.settlements (tracker.receive one).effects
  second : Effect.settlements ((tracker.receive one).tracker.receive other).effects =
    Effect.settlements (tracker.receive other).effects

end Tracker

namespace Shared

open Tracker

variable {shared : Shared} {timeout : Duration} {report response : Frame} {node : NodeId}

/-- **A report and a response may come in either order**, at any moment. The report names its node,
in a command or an update, and may be one whose reading faults; the response names none, and may be
of any class and well-formed or not, as long as it does not refuse a transmission. -/
theorem Reachable.either_order (reachable : Reachable timeout shared)
    (named : report.node = some node)
    (kind : report.messageClass = .applicationCommand ∨ report.messageClass = .applicationUpdate)
    (plain : isResponse response = true) (granted : ¬response.Refuses) :
    shared.tracker.Exchangeable report response := by
  have coherent := reachable.orderly.accounted.coherent
  have keyed : isResponse report = false := by
    rw [isResponse, named]
    rfl
  have afterReport := (shrinks_receive coherent report).coherent coherent
  have afterResponse := (shrinks_receive coherent response).coherent coherent
  obtain ⟨reported, reportSettles⟩ := receive_eq coherent report
  obtain ⟨responded, responseSettles⟩ := receive_eq coherent response
  have late : (shared.tracker.receive response).tracker.ended? report =
      shared.tracker.ended? report := by
    apply ended?_receive coherent
    · intro transaction one other first second
      exact first.not_isQuery_of_response coherent plain granted
        (second.isQuery_of_report coherent kind).1
    · intro transaction
      simp only [Addresses, keyed, Bool.false_eq_true, ↓reduceIte]
  have early : (shared.tracker.receive report).tracker.ended? response =
      shared.tracker.ended? response := by
    apply ended?_receive coherent
    · intro transaction one other first second
      exact second.not_isQuery_of_response coherent plain granted
        (first.isQuery_of_report coherent kind).1
    · intro transaction
      have owed : (shared.tracker.receive report).tracker.inFlight.owed =
          shared.tracker.inFlight.owed := by
        rw [(received coherent report).owed_eq, claim_of_not_response keyed]
      simp only [Addresses, owed, plain]
  have silent : ∀ ended ∈ shared.tracker.ended? report, ended.2.info? = none := by
    intro ended found
    exact (((ended?_eq_some_iff coherent).mp found).isQuery_of_report coherent kind).2
  obtain ⟨responseAfter, responseSame⟩ := receive_eq afterReport response
  obtain ⟨reportAfter, reportSame⟩ := receive_eq afterResponse report
  constructor
  · calc ((shared.tracker.receive report).tracker.receive response).tracker
        = ((shared.tracker.conclude (shared.tracker.ended? report)).spend response).conclude
            (shared.tracker.ended? response) := by
          rw [responseAfter, early, reported, spend_of_not_response keyed]
      _ = ((shared.tracker.spend response).conclude (shared.tracker.ended? report)).conclude
            (shared.tracker.ended? response) := by rw [spend_conclude]
      _ = ((shared.tracker.spend response).conclude (shared.tracker.ended? response)).conclude
            (shared.tracker.ended? report) := conclude_conclude _ silent
      _ = ((shared.tracker.receive response).tracker.receive report).tracker := by
          rw [reportAfter, late, responded, spend_of_not_response keyed]
  · rw [reportSame, late, reportSettles]
  · rw [responseSame, early, responseSettles]

/-- A node is asked, and reports. If the response comes first, it acknowledges the question;
otherwise nobody waits for it. -/
theorem Reachable.either_order_of_question :
    ∃ shared report response, Reachable ⟨10⟩ shared ∧
      Frame.ofSerial [0x00, 0x04, 0x00, 0x09, 0x03, 0x20, 0x03, 0x63] = .ok report ∧
      Frame.ofSerial [0x01, 0x13, 0x01] = .ok response ∧
      report.node = some ⟨9⟩ ∧ isResponse response = true ∧ ¬response.Refuses ∧
      (shared.tracker.receive response).result = .ok (.acknowledged ⟨1⟩) ∧
      ((shared.tracker.receive report).tracker.receive response).result = .ok .unsolicited ∧
      shared.tracker.Exchangeable report response := by
  have run := (@Run.fresh ⟨10⟩).submit (.query ⟨9⟩ .basic) ⟨0⟩ fun _ => none
  obtain ⟨⟨tracker, turn, stage, offers⟩, asked, same, -, -⟩ := run.exists_reachable
  change tracker = _ at same
  subst same
  have granted : ¬(Frame.inbound .sendData .response none [0x01]).Refuses := by
    rintro ⟨-, refused⟩
    cases refused
  have named : (Frame.inbound .applicationCommand .request (some ⟨9⟩)
      [0x00, 0x09, 0x03, 0x20, 0x03, 0x63]).node = some ⟨9⟩ := rfl
  exact ⟨_, _, _, asked, rfl, rfl, named, rfl, granted, rfl, rfl,
    Reachable.either_order asked named (.inl rfl) rfl granted⟩

end Shared

end ZWaveGateway
