import ZWaveGateway.Link.Basic
import ZWaveGateway.Proofs.Tracker.History

/-!
# When a frame ends the link

A report counts its own command bytes, and the count is one of the bytes that come in. A frame that
passes as a report to a question in flight, but counts fewer than the two bytes that make it one,
cannot be cut into its parts: reading it faults. Nothing else does. After every run of a tracker,
`ZWaveGateway.Tracker.Run.faults_exactly` says which frames fault, and which byte streams end a link
by one.
-/

namespace ZWaveGateway

namespace Tracker

open InFlight

variable {tracker : Tracker} {history : History} {timeout : Duration} {frame : Frame}

/-- The frame passes as a report to a question in flight, from the node that was asked, but does
not count its command class and its command. -/
def FaultsOn (tracker : Tracker) (frame : Frame) : Prop :=
  ∃ transaction ∈ tracker.inFlight.transactions, ∃ node target,
    transaction.command = .query node target ∧ frame.node = some node ∧
      frame.messageClass = .applicationCommand ∧
      ∃ (status source count : UInt8) (rest : List UInt8),
        frame.payload =
          status :: source :: count :: target.commandClass.code :: target.commands.2 :: rest ∧
        count.toNat < 2

/-- A tracker faults on exactly the frames that pass as an uncounted report to a question in
flight. -/
theorem receive_eq_fault_iff (coherent : tracker.inFlight.Coherent tracker.lastId) :
    (tracker.receive frame).result = .error .fault ↔ tracker.FaultsOn frame := by
  have came := received coherent frame
  generalize tracker.receive frame = receipt at came ⊢
  constructor
  · intro faults
    cases came with
    | @faulted transaction waiting addressed judged =>
        obtain ⟨node, target, question, kind, layout⟩ := Command.judge_eq_fault_iff.mp judged
        refine ⟨transaction, waiting, node, target, question, ?_, kind, layout⟩
        rcases coherent.addresses_cases waiting addressed with ⟨-, same⟩ | ⟨-, same⟩
        · rw [question, kind] at same
          cases same
        · rw [question] at same
          exact congrArg Key.node same
    | passedOn useless => cases faults
    | completed waiting addressed judged => cases faults
    | acknowledged waiting addressed judged => cases faults
    | malformed waiting addressed judged => cases faults
  · rintro ⟨transaction, waiting, node, target, question, named, kind, layout⟩
    have judged : transaction.command.judge frame = .error .fault :=
      Command.judge_eq_fault_iff.mpr ⟨node, target, question, kind, layout⟩
    have addressed : tracker.inFlight.Addresses frame transaction := by
      have other : isResponse frame = false := by
        rw [isResponse, named]
        rfl
      rw [Addresses, if_neg (Bool.not_eq_true _ ▸ other), Key.ofFrame, named, kind,
        Transaction.key, question]
      rfl
    -- The frame is for no other transaction, so whatever is said of another is said of this one.
    have alone {claimant : Transaction} (waits : claimant ∈ tracker.inFlight.transactions)
        (meant : tracker.inFlight.Addresses frame claimant) :
        claimant.command.judge frame = .error .fault := by
      rw [coherent.eq_of_addresses waits waiting meant addressed]
      exact judged
    cases came with
    | faulted waits meant faults => rfl
    | passedOn useless =>
        have unrelated := useless transaction waiting addressed
        rw [judged] at unrelated
        cases unrelated
    | completed waits meant settles =>
        rw [alone waits meant] at settles
        cases settles
    | acknowledged waits meant notes =>
        rw [alone waits meant] at notes
        cases notes
    | malformed waits meant breaks =>
        rw [alone waits meant] at breaks
        cases breaks

end Tracker

namespace Link

open Tracker

variable {tracker : Tracker} {history : History} {timeout : Duration}

/-- A link that runs ends up as taking in the items of its buffer leaves it. -/
theorem status_read {link : Link} (running : link.isRunning = true) (tracker : Tracker)
    (bytes : List UInt8) :
    (link.read tracker bytes).1.status =
      (takeIn tracker (Stream.drain (link.buffer ++ bytes)).1).status := by
  rw [read, if_pos running]

/-- Taking in an item either faults, on a frame, or leaves the rest of the items to a tracker that
has run on. -/
private theorem takeIn_cons (run : Run timeout history tracker) (item : Except FrameError Item) :
    (∃ frame, item = .ok (.frame frame) ∧ tracker.FaultsOn frame ∧
      ∀ rest, (takeIn tracker (item :: rest)).status = .faulted) ∨
    ((∀ frame, item = .ok (.frame frame) → ¬tracker.FaultsOn frame) ∧
      ∃ further next, Run timeout further next ∧ ∀ rest,
        (takeIn tracker (item :: rest)).tracker = (takeIn next rest).tracker ∧
        (takeIn tracker (item :: rest)).status = (takeIn next rest).status) := by
  match item with
  | .ok (.frame frame) =>
      have faultsIff : (tracker.receive frame).result = .error .fault ↔ tracker.FaultsOn frame :=
        receive_eq_fault_iff run.accounts.coherent
      by_cases faults : (tracker.receive frame).result = .error .fault
      · refine .inl ⟨frame, rfl, faultsIff.mp faults, fun rest => ?_⟩
        simp only [takeIn, faults]
      · refine .inr ⟨?_, _, _, run.receive frame, fun rest => ?_⟩
        · intro culprit same breaks
          obtain rfl := Item.frame.inj (Except.ok.inj same)
          exact faults (faultsIff.mpr breaks)
        · cases came : (tracker.receive frame).result with
          | ok disposition => simp only [takeIn, came, and_self]
          | error error =>
              cases error with
              | malformed error => simp only [takeIn, came, and_self]
              | fault => exact (faults came).elim
  | .ok .acknowledge => exact .inr ⟨nofun, _, _, run, fun rest => ⟨rfl, rfl⟩⟩
  | .ok .refuse => exact .inr ⟨nofun, _, _, run, fun rest => ⟨rfl, rfl⟩⟩
  | .ok .cancel => exact .inr ⟨nofun, _, _, run, fun rest => ⟨rfl, rfl⟩⟩
  | .error error => exact .inr ⟨nofun, _, _, run, fun rest => ⟨rfl, rfl⟩⟩

/-- Taking items in ends in a fault exactly when one of them is a frame that the tracker faults on,
in the state in which the items before it leave the tracker. -/
theorem takeIn_faulted_iff (run : Run timeout history tracker)
    (items : List (Except FrameError Item)) :
    (takeIn tracker items).status = .faulted ↔
      ∃ before frame after, items = before ++ .ok (.frame frame) :: after ∧
        (takeIn tracker before).status = .running ∧
        (takeIn tracker before).tracker.FaultsOn frame := by
  induction items generalizing history tracker with
  | nil =>
      constructor
      · intro faults
        cases faults
      · rintro ⟨before, frame, after, split, -⟩
        cases before <;> cases split
  | cons item rest tail =>
      rcases takeIn_cons run item with
        ⟨frame, rfl, breaks, faulted⟩ | ⟨sound, further, next, goesOn, passes⟩
      · exact iff_of_true (faulted rest) ⟨[], frame, rest, rfl, rfl, breaks⟩
      -- The item leaves the rest to a tracker that has run on, which the hypothesis speaks of.
      rw [(passes rest).2, tail goesOn]
      constructor
      · rintro ⟨before, culprit, after, rfl, runs, breaks⟩
        refine ⟨item :: before, culprit, after, rfl, ?_, ?_⟩
        · rw [(passes before).2, runs]
        · rw [(passes before).1]
          exact breaks
      · rintro ⟨before, culprit, after, split, runs, breaks⟩
        cases before with
        | nil =>
            obtain ⟨same, -⟩ := List.cons.inj split
            exact (sound culprit same breaks).elim
        | cons first before =>
            obtain ⟨rfl, rfl⟩ := List.cons.inj split
            rw [(passes before).2] at runs
            rw [(passes before).1] at breaks
            exact ⟨before, culprit, after, rfl, runs, breaks⟩

end Link

namespace Tracker

variable {tracker : Tracker} {history : History} {timeout : Duration} {frame : Frame}

/-- A frame that is passed on as a report counts the bytes that make it one, and has all the bytes
it counts: what is cut out of it lies within its payload. -/
private theorem whole_of_report {node : NodeId} {commandClass command : UInt8} {data : List UInt8}
    (passed : Event.ofFrame frame = .report node commandClass command data) :
    ∃ (status source count : UInt8) (rest : List UInt8),
      frame.payload = status :: source :: count :: commandClass :: command :: rest ∧
      2 ≤ count.toNat ∧ 3 + count.toNat ≤ frame.payload.length ∧
      data = rest.take (count.toNat - 2) := by
  unfold Event.ofFrame at passed
  split at passed
  · unfold Event.reportOf? at passed
    split at passed
    · next named payload =>
        split at passed
        · next enough =>
            cases passed
            exact ⟨_, _, _, _, payload, enough.1, Nat.add_comm .. ▸ enough.2, rfl⟩
        · cases passed
    · cases passed
  · cases passed
  · split at passed <;> cases passed
  · cases passed

/-- **When a frame ends the link.** After every run, receiving a frame faults exactly when the frame
passes as a report to a question in flight without counting its command class and its command.
Passing a frame on never does: what is cut out of it lies within its payload. A link that runs is
ended by a fault exactly if such a frame comes among the bytes, and none before it. -/
theorem Run.faults_exactly (run : Run timeout history tracker) :
    (∀ frame, (tracker.receive frame).result = .error .fault ↔ tracker.FaultsOn frame) ∧
    (∀ frame node commandClass command data,
      Event.ofFrame frame = .report node commandClass command data →
        ∃ (status source count : UInt8) (rest : List UInt8),
          frame.payload = status :: source :: count :: commandClass :: command :: rest ∧
          2 ≤ count.toNat ∧ 3 + count.toNat ≤ frame.payload.length ∧
          data = rest.take (count.toNat - 2)) ∧
    ∀ (link : Link) (bytes : List UInt8), link.isRunning = true →
      ((link.read tracker bytes).1.status = .faulted ↔
        ∃ before frame after,
          (Stream.drain (link.buffer ++ bytes)).1 = before ++ .ok (.frame frame) :: after ∧
            (Link.takeIn tracker before).status = .running ∧
            (Link.takeIn tracker before).tracker.FaultsOn frame) := by
  refine ⟨fun frame => receive_eq_fault_iff run.accounts.coherent, ?_, ?_⟩
  · intro frame node commandClass command data passed
    exact whole_of_report passed
  · intro link bytes running
    rw [← Link.takeIn_faulted_iff run, Link.status_read running]

/-- A node that was asked for its level sends a report that counts no bytes. -/
theorem Run.faults_exactly_on_uncounted_report :
    ∃ history tracker, Run ⟨10⟩ history tracker ∧
      tracker.FaultsOn (Frame.inbound .applicationCommand .request (some ⟨9⟩)
        [0, 9, 0, 0x20, 0x03]) := by
  have run := (@Run.fresh ⟨10⟩).submit (.query ⟨9⟩ .basic) ⟨0⟩ fun _ => none
  exact ⟨_, _, run, ((Run.faults_exactly run).1 _).mp (by decide)⟩

/-- On the wire, the bytes of such a frame are accepted, and end the link. -/
theorem uncounted_report_ends_link :
    ∃ history tracker frame, Run ⟨10⟩ history tracker ∧
      Frame.ofSerial [0x00, 0x04, 0x00, 0x09, 0x00, 0x20, 0x03] = .ok frame ∧
      (tracker.receive frame).result = .error .fault ∧
      (Link.fresh.read tracker
        (Wire.wrap [0x00, 0x04, 0x00, 0x09, 0x00, 0x20, 0x03])).1.status = .faulted := by
  have run := (@Run.fresh ⟨10⟩).submit (.query ⟨9⟩ .basic) ⟨0⟩ fun _ => none
  refine ⟨_, _, _, run, rfl, by decide, ?_⟩
  have whole : Stream.next (Wire.wrap [0x00, 0x04, 0x00, 0x09, 0x00, 0x20, 0x03]) =
      (some (.ok (.frame (Frame.inbound .applicationCommand .request (some ⟨9⟩)
        [0, 9, 0, 0x20, 0x03]))), []) := by
    decide
  rw [Link.status_read rfl]
  change (Link.takeIn _ (Stream.drain (Wire.wrap _)).1).status = _
  rw [Stream.drain_of_next whole]
  decide

end Tracker

end ZWaveGateway
