import ZWaveGateway.Proofs.Tracker.Operations
import Mathlib.Data.List.Perm.Basic

/-!
# Histories of a tracker

A run of a tracker is any sequence of submissions, incoming frames and sweeps from a fresh one.
Its history keeps what each of them came to, the latest first.

What the state of the tracker has to do with its history is `ZWaveGateway.Tracker.Accounts`: ids
are given out in order, whatever is in flight was accepted with the command it has, and the ids
accepted are those in flight together with those that have ended, each of them once. Every run
keeps these accounts (`ZWaveGateway.Tracker.Run.accounts`).
-/

namespace ZWaveGateway

/-- One operation on a tracker, with what it came to. -/
inductive Occurrence where
  | submitted (command : Command) (submission : Submission)
  | received (frame : Frame) (receipt : Receipt)
  | expired (expiry : Expiry)

namespace Occurrence

/-- What the tracker wanted done. -/
def effects : Occurrence → List Effect
  | .submitted _ submission => submission.effects
  | .received _ receipt => receipt.effects
  | .expired expiry => expiry.effects

/-- The transaction that a submission has opened, with its command. -/
def accepted : Occurrence → List (TransactionId × Command)
  | .submitted command submission =>
      match submission.result with
      | .ok ticket => [(ticket.id, command)]
      | .error _ => []
  | _ => []

/-- The transaction that a frame has completed. -/
def completed : Occurrence → List TransactionId
  | .received _ receipt =>
      match receipt.result with
      | .ok (.completed id) => [id]
      | _ => []
  | _ => []

/-- The transaction whose question a frame has acknowledged. -/
def acknowledged : Occurrence → List TransactionId
  | .received _ receipt =>
      match receipt.result with
      | .ok (.acknowledged id) => [id]
      | _ => []
  | _ => []

/-- The transactions whose time was up. -/
def timedOut : Occurrence → List TransactionId
  | .expired expiry => expiry.expired
  | _ => []

/-- The transactions that have ended, one way or the other. -/
def ended (occurrence : Occurrence) : List TransactionId :=
  occurrence.completed ++ occurrence.timedOut

end Occurrence

/-- What a tracker has gone through, the latest first. -/
abbrev History :=
  List Occurrence

namespace History

/-- What the occurrences of a history contribute, in the order in which they occurred. -/
def gather {Entry : Type} (part : Occurrence → List Entry) (history : History) : List Entry :=
  history.reverse.flatMap part

@[simp]
theorem gather_cons {Entry : Type} (part : Occurrence → List Entry) (latest : Occurrence)
    (earlier : History) : gather part (latest :: earlier) = gather part earlier ++ part latest := by
  simp only [gather, List.reverse_cons, List.flatMap_append, List.flatMap_singleton]

/-- The transactions that were accepted, with their commands. -/
def accepted (history : History) : List (TransactionId × Command) :=
  history.gather Occurrence.accepted

/-- The ids that were given out with a ticket. -/
def acceptedIds (history : History) : List TransactionId :=
  history.accepted.map (·.1)

/-- The transactions that were completed by a frame. -/
def completed (history : History) : List TransactionId :=
  history.gather Occurrence.completed

/-- The transactions whose question was acknowledged. -/
def acknowledged (history : History) : List TransactionId :=
  history.gather Occurrence.acknowledged

/-- The transactions that have ended, by a frame or for want of one. -/
def ended (history : History) : List TransactionId :=
  history.gather Occurrence.ended

variable (latest : Occurrence) (earlier : History)

@[simp]
theorem accepted_cons : accepted (latest :: earlier) = earlier.accepted ++ latest.accepted :=
  gather_cons ..

@[simp]
theorem acceptedIds_cons :
    acceptedIds (latest :: earlier) = earlier.acceptedIds ++ latest.accepted.map (·.1) := by
  rw [acceptedIds, accepted_cons, List.map_append, acceptedIds]

@[simp]
theorem completed_cons : completed (latest :: earlier) = earlier.completed ++ latest.completed :=
  gather_cons ..

@[simp]
theorem acknowledged_cons :
    acknowledged (latest :: earlier) = earlier.acknowledged ++ latest.acknowledged :=
  gather_cons ..

@[simp]
theorem ended_cons : ended (latest :: earlier) = earlier.ended ++ latest.ended :=
  gather_cons ..

variable {latest earlier}

theorem mem_ended_of_mem_completed {history : History} {id : TransactionId}
    (member : id ∈ history.completed) : id ∈ history.ended := by
  obtain ⟨occurrence, occurred, completes⟩ := List.mem_flatMap.mp member
  exact List.mem_flatMap.mpr ⟨occurrence, occurred, List.mem_append_left _ completes⟩

end History

namespace Tracker

open InFlight

variable {tracker : Tracker} {history : History} {timeout : Duration}

/-- A run from a fresh tracker: commands are submitted at any instant to a transport that refuses
what it likes, any frames come in, and sweeps time out what is overdue at any instant. -/
inductive Run (timeout : Duration) : History → Tracker → Prop where
  | fresh : Run timeout [] (fresh timeout)
  | submit {history : History} {tracker : Tracker} (run : Run timeout history tracker)
      (command : Command) (now : Instant) (refuses : Frame → Option String) :
      Run timeout (.submitted command (tracker.submit command now refuses) :: history)
        (tracker.submit command now refuses).tracker
  | receive {history : History} {tracker : Tracker} (run : Run timeout history tracker)
      (frame : Frame) :
      Run timeout (.received frame (tracker.receive frame) :: history)
        (tracker.receive frame).tracker
  | sweep {history : History} {tracker : Tracker} (run : Run timeout history tracker)
      {now : Instant} {expiry : Expiry} (sweep : Sweep tracker now expiry) :
      Run timeout (.expired expiry :: history) expiry.tracker

/-- The state of a tracker agrees with its history. -/
structure Accounts (history : History) (tracker : Tracker) : Prop where
  coherent : tracker.inFlight.Coherent tracker.lastId
  increasing : history.acceptedIds.Pairwise fun first second => first.number < second.number
  known : ∀ id ∈ history.acceptedIds, id.number ≤ tracker.lastId
  waiting : ∀ transaction ∈ tracker.inFlight.transactions,
    (transaction.id, transaction.command) ∈ history.accepted
  balanced : history.acceptedIds.Perm (tracker.inFlight.ids ++ history.ended)

theorem accounts_fresh (timeout : Duration) : Accounts [] (fresh timeout) where
  coherent := coherent_empty 0
  increasing := .nil
  known := fun _ member => nomatch member
  waiting := fun _ member => nomatch member
  balanced := .nil

/-- An operation that accepts nothing and ends nothing keeps the accounts, if it leaves the
transactions in flight as they are. -/
private theorem Accounts.of_same (accounts : Accounts history tracker) {latest : Occurrence}
    {after : Tracker} (coherent : after.inFlight.Coherent after.lastId)
    (later : tracker.lastId ≤ after.lastId)
    (same : after.inFlight.transactions = tracker.inFlight.transactions)
    (noneAccepted : latest.accepted = []) (noneEnded : latest.ended = []) :
    Accounts (latest :: history) after where
  coherent := coherent
  increasing := by
    simpa only [History.acceptedIds_cons, noneAccepted, List.map_nil, List.append_nil] using
      accounts.increasing
  known := by
    intro id member
    rw [History.acceptedIds_cons, noneAccepted, List.map_nil, List.append_nil] at member
    exact Nat.le_trans (accounts.known id member) later
  waiting := by
    intro transaction member
    rw [History.accepted_cons, noneAccepted, List.append_nil]
    exact accounts.waiting transaction (same ▸ member)
  balanced := by
    simpa only [History.acceptedIds_cons, History.ended_cons, noneAccepted, noneEnded,
      List.map_nil, List.append_nil, ids, same] using accounts.balanced

theorem Accounts.submit (accounts : Accounts history tracker) (command : Command) (now : Instant)
    (refuses : Frame → Option String) :
    Accounts (.submitted command (tracker.submit command now refuses) :: history)
      (tracker.submit command now refuses).tracker := by
  have coherent := accounts.coherent
  have outcome := submitted coherent command now refuses
  generalize tracker.submit command now refuses = submission at outcome ⊢
  cases outcome with
  | duplicate taken => exact accounts.of_same coherent (Nat.le_refl _) rfl rfl rfl
  | refused free refusal =>
      have kept := coherent.of_sublist (.refl _) (.refl _) (Nat.le_succ tracker.lastId)
      exact accounts.of_same kept (Nat.le_succ _) rfl rfl rfl
  | accepted free taken =>
      have split : (tracker.inFlight.add
          (Transaction.issue ⟨tracker.lastId + 1⟩ command now)).transactions =
          tracker.inFlight.transactions ++
            [Transaction.issue ⟨tracker.lastId + 1⟩ command now] := transactions_add _ _
      constructor
      · exact coherent.add free
      · rw [History.acceptedIds_cons]
        refine List.pairwise_append.mpr ⟨accounts.increasing, List.pairwise_singleton _ _, ?_⟩
        intro id member added new
        rw [List.mem_singleton.mp new]
        exact Nat.lt_succ_of_le (accounts.known id member)
      · intro id member
        rw [History.acceptedIds_cons] at member
        rcases List.mem_append.mp member with before | added
        · exact Nat.le_succ_of_le (accounts.known id before)
        · obtain rfl := List.mem_singleton.mp added
          exact Nat.le_refl _
      · intro transaction member
        rw [split] at member
        rw [History.accepted_cons]
        rcases List.mem_append.mp member with before | added
        · exact List.mem_append_left _ (accounts.waiting transaction before)
        · rw [List.mem_singleton.mp added]
          exact List.mem_append_right _ (List.mem_singleton.mpr rfl)
      · simp only [History.acceptedIds_cons, History.ended_cons, Occurrence.accepted,
          Occurrence.ended, Occurrence.completed, Occurrence.timedOut, List.append_nil, ids,
          split, List.map_append]
        rw [List.append_assoc]
        refine (accounts.balanced.append_right _).trans ?_
        rw [List.append_assoc]
        exact List.perm_append_comm.append_left _

theorem Accounts.receive (accounts : Accounts history tracker) (frame : Frame) :
    Accounts (.received frame (tracker.receive frame) :: history)
      (tracker.receive frame).tracker := by
  have coherent := accounts.coherent
  have claimed := coherent.claim frame
  have same := transactions_claim tracker.inFlight frame
  have outcome := received coherent frame
  generalize tracker.receive frame = receipt at outcome ⊢
  cases outcome with
  | passedOn useless => exact accounts.of_same claimed (Nat.le_refl _) same rfl rfl
  | acknowledged waiting addressed judged =>
      exact accounts.of_same claimed (Nat.le_refl _) same rfl rfl
  | malformed waiting addressed judged =>
      exact accounts.of_same claimed (Nat.le_refl _) same rfl rfl
  | faulted waiting addressed judged =>
      exact accounts.of_same claimed (Nat.le_refl _) same rfl rfl
  | @completed transaction outcome waiting addressed judged =>
      have left : ((tracker.inFlight.claim frame).2.remove transaction.key).transactions =
          tracker.inFlight.transactions.filter (·.id != transaction.id) := by
        rw [claimed.transactions_remove (same ▸ waiting), same]
      constructor
      · exact claimed.of_sublist List.filter_sublist (.refl _) (Nat.le_refl _)
      · simpa only [History.acceptedIds_cons, Occurrence.accepted, List.map_nil,
          List.append_nil] using accounts.increasing
      · simpa only [History.acceptedIds_cons, Occurrence.accepted, List.map_nil,
          List.append_nil] using accounts.known
      · intro other member
        rw [left] at member
        rw [History.accepted_cons]
        exact List.mem_append_left _ (accounts.waiting other (List.mem_of_mem_filter member))
      · have taken : tracker.inFlight.ids.Perm
            (transaction.id :: tracker.inFlight.ids.filter (· != transaction.id)) := by
          have listed := mem_ids_iff.mpr ⟨transaction, waiting, rfl⟩
          rw [← coherent.idsNodup.erase_eq_filter]
          exact List.perm_cons_erase listed
        simp only [History.acceptedIds_cons, History.ended_cons, Occurrence.accepted,
          Occurrence.ended, Occurrence.completed, Occurrence.timedOut, List.map_nil,
          List.append_nil, claimed.ids_remove (same ▸ waiting), ids_claim]
        refine accounts.balanced.trans ((taken.append_right _).trans ?_)
        rw [← List.append_assoc]
        exact (List.perm_append_singleton _ _).symm

theorem Accounts.sweep (accounts : Accounts history tracker) {now : Instant} {expiry : Expiry}
    (sweep : Sweep tracker now expiry) :
    Accounts (.expired expiry :: history) expiry.tracker := by
  have coherent := accounts.coherent
  obtain @⟨ended, all⟩ := expired coherent sweep
  constructor
  · exact coherent.of_sublist List.filter_sublist List.filter_sublist (Nat.le_refl _)
  · simpa only [History.acceptedIds_cons, Occurrence.accepted, List.map_nil,
      List.append_nil] using accounts.increasing
  · simpa only [History.acceptedIds_cons, Occurrence.accepted, List.map_nil,
      List.append_nil] using accounts.known
  · intro transaction member
    rw [transactions_spared] at member
    rw [History.accepted_cons]
    exact List.mem_append_left _ (accounts.waiting transaction (List.mem_of_mem_filter member))
  · have parted : tracker.inFlight.ids.Perm (ended.map (·.id) ++
        (tracker.inFlight.transactions.filter (!·.isOverdue now tracker.timeout)).map
          (·.id)) := by
      rw [← List.map_append]
      exact ((List.filter_append_perm _ _).symm.trans (all.symm.append_right _)).map _
    simp only [History.acceptedIds_cons, History.ended_cons, Occurrence.accepted,
      Occurrence.ended, Occurrence.completed, Occurrence.timedOut, List.map_nil,
      List.append_nil, List.nil_append, ids, transactions_spared]
    refine accounts.balanced.trans ((parted.append_right _).trans ?_)
    rw [List.append_assoc, ← List.append_assoc _ history.ended]
    exact List.perm_append_comm

theorem Run.accounts (run : Run timeout history tracker) : Accounts history tracker := by
  induction run with
  | fresh => exact accounts_fresh timeout
  | submit run command now refuses kept => exact kept.submit command now refuses
  | receive run frame kept => exact kept.receive frame
  | sweep run sweep kept => exact kept.sweep sweep

theorem Run.timeout_eq (run : Run timeout history tracker) : tracker.timeout = timeout := by
  induction run with
  | fresh => rfl
  | submit run command now refuses same =>
      exact (submitted run.accounts.coherent command now refuses).timeout_eq.trans same
  | receive run frame same => exact (received run.accounts.coherent frame).timeout_eq.trans same
  | sweep run sweep same =>
      exact (expired run.accounts.coherent sweep).timeout_eq.trans same

/-! ## Reading the accounts -/

theorem Accounts.nodup (accounts : Accounts history tracker) : history.acceptedIds.Nodup := by
  refine accounts.increasing.imp fun smaller same => ?_
  rw [same] at smaller
  exact Nat.lt_irrefl _ smaller

theorem Accounts.command_unique (accounts : Accounts history tracker) {id : TransactionId}
    {first second : Command} (one : (id, first) ∈ history.accepted)
    (other : (id, second) ∈ history.accepted) : first = second :=
  (Prod.mk.inj (List.inj_on_of_nodup_map accounts.nodup one other rfl)).2

theorem Accounts.parts_nodup (accounts : Accounts history tracker) :
    (tracker.inFlight.ids ++ history.ended).Nodup :=
  accounts.balanced.nodup_iff.mp accounts.nodup

theorem Accounts.not_ended (accounts : Accounts history tracker) {id : TransactionId}
    (waiting : id ∈ tracker.inFlight.ids) : id ∉ history.ended := fun ended =>
  (List.nodup_append.mp accounts.parts_nodup).2.2 id waiting id ended rfl

/-- In flight is what was accepted and has not ended. -/
theorem Accounts.mem_ids_iff (accounts : Accounts history tracker) {id : TransactionId} :
    id ∈ tracker.inFlight.ids ↔ id ∈ history.acceptedIds ∧ id ∉ history.ended := by
  constructor
  · intro waiting
    exact ⟨accounts.balanced.mem_iff.mpr (List.mem_append_left _ waiting),
      accounts.not_ended waiting⟩
  · rintro ⟨accepted, live⟩
    exact (List.mem_append.mp (accounts.balanced.mem_iff.mp accepted)).resolve_right live

end Tracker

end ZWaveGateway
