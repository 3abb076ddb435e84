import ZWaveGateway.Proofs.Tracker.Expiry

/-!
# Submissions are all or nothing

A submission registers its transaction before it offers the frame, so a frame that is refused leaves
two registrations to take back: the entry under the key, and the response owed at the end of the
queue. Both go by the id of the transaction, which is new, and not by the key, which may still stand
in the queue for a transaction that has ended.

`ZWaveGateway.Shared.Reachable.all_or_nothing` gives what a submission comes to, at any moment and
whatever the transport does with the frame.
-/

namespace ZWaveGateway

open InFlight

namespace Tracker

/-- A transaction is pending under the key that the command would take. -/
def Busy (tracker : Tracker) (command : Command) : Prop :=
  ∃ transaction ∈ tracker.inFlight.transactions,
    transaction.state = .pending ∧ transaction.key = Key.ofCommand command

theorem busy_iff {tracker : Tracker} (coherent : tracker.inFlight.Coherent tracker.lastId)
    {command : Command} :
    tracker.Busy command ↔ tracker.inFlight.contains (Key.ofCommand command) = true := by
  rw [coherent.contains_iff]
  refine exists_congr fun transaction => and_congr_right fun waiting => ?_
  exact and_iff_right (coherent.pending transaction waiting)

end Tracker

namespace Shared

variable {shared : Shared} {timeout : Duration} {id : TransactionId}

/-- The id was given out: its frame was offered to the transport, or is still to be. -/
def Used (shared : Shared) (id : TransactionId) : Prop :=
  id ∈ Offer.ids shared.offers ∨
    ∃ caller ticket frame, shared.stage caller = .registered ticket frame ∧ ticket.id = id

/-- No id is used beyond the last one that the tracker has given out. -/
theorem Orderly.le_of_used (orderly : Orderly shared) (used : shared.Used id) :
    id.number ≤ shared.tracker.lastId := by
  have listed : id ∈ given shared.tracker.lastId := by
    rcases used with offered | ⟨caller, ticket, frame, registered, rfl⟩
    · rw [← orderly.accounted.offered]
      exact List.mem_append_left _ offered
    · rw [← (orderly.accounted_at registered rfl).offered]
      exact List.mem_append_right _ List.mem_cons_self
  exact (mem_given_iff.mp listed).2

/-- What a submission comes to as a whole.

It is declined as a duplicate exactly if a transaction is pending under its key, and then nothing
has happened. Otherwise its one frame is offered, under an id that is larger than all used before.
If the transport refuses the frame, that is passed on in the transport's own words: what is in
flight and what is owed are as they were, and nobody is told anything. If the transport takes it,
there is one transaction more in flight, pending under the key, and one response more owed, behind
all others. -/
structure AllOrNothing (shared : Shared) (command : Command) (now : Instant)
    (refuses : Frame → Option String) (submission : Submission) : Prop where
  duplicate : (∃ key, submission.result = .error (.duplicateInFlight key)) ↔
    shared.tracker.Busy command
  declined : shared.tracker.Busy command →
    submission =
      ⟨shared.tracker, [], none, .error (.duplicateInFlight (Key.ofCommand command))⟩
  offered : ¬shared.tracker.Busy command →
    submission.offered = some command.frame ∧
      ∀ id, shared.Used id → id.number < submission.tracker.lastId
  refused : ¬shared.tracker.Busy command → ∀ words, refuses command.frame = some words →
    submission.result = .error (.transport words) ∧
      submission.tracker.inFlight = shared.tracker.inFlight ∧
      Effect.events submission.effects = [] ∧ Effect.settlements submission.effects = []
  accepted : ¬shared.tracker.Busy command → refuses command.frame = none →
    submission.result = .ok ⟨⟨submission.tracker.lastId⟩, Key.ofCommand command⟩ ∧
      submission.tracker.inFlight.entries = shared.tracker.inFlight.entries ++
        [(Key.ofCommand command, ⟨⟨submission.tracker.lastId⟩, command, now, .pending, none⟩)] ∧
      submission.tracker.inFlight.owed = shared.tracker.inFlight.owed ++
        [⟨⟨submission.tracker.lastId⟩, Key.ofCommand command, command.frame.messageClass⟩] ∧
      submission.effects = []
  others : submission.tracker =
    { shared.tracker with
      lastId := submission.tracker.lastId, inFlight := submission.tracker.inFlight }

/-- **Submissions are all or nothing**, at any moment and whatever the transport does with the
frame. -/
theorem Reachable.all_or_nothing (reachable : Reachable timeout shared) (command : Command)
    (now : Instant) (refuses : Frame → Option String) :
    AllOrNothing shared command now refuses (shared.tracker.submit command now refuses) := by
  have orderly := reachable.orderly
  have coherent := orderly.accounted.coherent
  have busy : shared.tracker.Busy command ↔ _ := Tracker.busy_iff coherent
  have newer (id : TransactionId) (used : shared.Used id) :
      id.number < shared.tracker.lastId + 1 := Nat.lt_succ_of_le (orderly.le_of_used used)
  have outcome := Tracker.submitted coherent command now refuses
  generalize shared.tracker.submit command now refuses = submission at outcome ⊢
  cases outcome with
  | duplicate taken =>
      have waits := busy.mpr taken
      exact {
        duplicate := iff_of_true ⟨_, rfl⟩ waits
        declined := fun _ => rfl
        offered := fun idle => (idle waits).elim
        refused := fun idle => (idle waits).elim
        accepted := fun idle => (idle waits).elim
        others := rfl }
  | refused free refusal =>
      have idle : ¬shared.tracker.Busy command := busy.not.mpr (Bool.eq_false_iff.mp free)
      exact {
        duplicate := iff_of_false (fun ⟨_, same⟩ => nomatch same) idle
        declined := fun waits => (idle waits).elim
        offered := fun _ => ⟨rfl, newer⟩
        refused := fun _ words again => by
          obtain rfl := Option.some.inj (refusal.symm.trans again)
          exact ⟨rfl, rfl, rfl, rfl⟩
        accepted := fun _ taken => nomatch refusal.symm.trans taken
        others := rfl }
  | accepted free taken =>
      have idle : ¬shared.tracker.Busy command := busy.not.mpr (Bool.eq_false_iff.mp free)
      exact {
        duplicate := iff_of_false (fun ⟨_, same⟩ => nomatch same) idle
        declined := fun waits => (idle waits).elim
        offered := fun _ => ⟨rfl, newer⟩
        refused := fun _ words refusal => nomatch taken.symm.trans refusal
        accepted := fun _ _ => ⟨rfl, rfl, rfl, rfl⟩
        others := rfl }

/-- A node reports before the controller has responded to the question, and is asked again under the
same key. If the transport refuses, the response to the first question is still owed, alone. -/
theorem Reachable.all_or_nothing_of_reused_key :
    ∃ shared, Reachable ⟨10⟩ shared ∧ shared.tracker.inFlight.entries = [] ∧
      shared.tracker.inFlight.owed = [⟨⟨1⟩, Key.ofCommand (.query ⟨9⟩ .basic), .sendData⟩] ∧
      AllOrNothing shared (.query ⟨9⟩ .basic) ⟨1⟩ (fun _ => some "busy")
        (shared.tracker.submit (.query ⟨9⟩ .basic) ⟨1⟩ fun _ => some "busy") ∧
      (shared.tracker.submit (.query ⟨9⟩ .basic) ⟨1⟩ fun _ => some "busy").tracker.inFlight =
        shared.tracker.inFlight := by
  have run := ((@Tracker.Run.fresh ⟨10⟩).submit (.query ⟨9⟩ .basic) ⟨0⟩ fun _ => none).receive
    (Frame.inbound .applicationCommand .request (some ⟨9⟩) [0, 9, 3, 0x20, 0x03, 99])
  obtain ⟨⟨tracker, turn, stage, offers⟩, reported, same, -, -⟩ := run.exists_reachable
  change tracker = _ at same
  subst same
  have whole := Reachable.all_or_nothing reported (.query ⟨9⟩ .basic) ⟨1⟩ fun _ => some "busy"
  refine ⟨_, reported, rfl, rfl, whole, (whole.refused ?_ "busy" rfl).2.1⟩
  rintro ⟨transaction, waiting, -⟩
  cases waiting

end Shared

end ZWaveGateway
