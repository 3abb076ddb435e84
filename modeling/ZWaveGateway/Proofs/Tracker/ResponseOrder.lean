import ZWaveGateway.Proofs.Tracker.History

/-!
# Responses are taken in the order of the requests

A plain response names no node. What it answers follows from the order in which requests of its
class were written: the ideal line `ZWaveGateway.History.awaiting` holds, for one class, the
accepted requests that have had no response and have not timed out. The tracker keeps one queue for
all classes, and leaves in it what has been completed by other means; per class it is the ideal
line after every run (`ZWaveGateway.Tracker.Run.owedTo_eq_awaiting`).

The main result is `ZWaveGateway.Tracker.Run.responses_in_order`.
-/

namespace ZWaveGateway

/-! ## The ideal line -/

namespace Occurrence

/-- The accepted transaction whose request was sent in a class. -/
def requested (messageClass : MessageClass) (occurrence : Occurrence) : List TransactionId :=
  (occurrence.accepted.filter (·.2.frame.messageClass == messageClass)).map (·.1)

/-- The occurrence is a plain response of a class. -/
def responds (messageClass : MessageClass) : Occurrence → Bool
  | .received frame _ => InFlight.isResponse frame && frame.messageClass == messageClass
  | _ => false

end Occurrence

namespace History

variable {messageClass : MessageClass}

/-- The accepted transactions whose requests were sent in a class, in order. -/
def requested (messageClass : MessageClass) (history : History) : List TransactionId :=
  history.gather (Occurrence.requested messageClass)

/-- How many plain responses of a class have come in. -/
def responses (messageClass : MessageClass) (history : History) : Nat :=
  history.countP (Occurrence.responds messageClass)

/-- The transactions of a class that stand in line for a response. An accepted one joins the line
at its end, a plain response is spent on its head, and what times out leaves it. -/
def awaiting (messageClass : MessageClass) : History → List TransactionId
  | [] => []
  | .submitted command submission :: earlier =>
      awaiting messageClass earlier ++
        (Occurrence.submitted command submission).requested messageClass
  | .received frame _ :: earlier =>
      if InFlight.isResponse frame ∧ frame.messageClass = messageClass then
        (awaiting messageClass earlier).tail
      else awaiting messageClass earlier
  | .expired expiry :: earlier =>
      (awaiting messageClass earlier).filter fun id => !expiry.expired.contains id

/-- Nothing has timed out, and the controller has responded in a class to no more requests than
had been accepted. -/
def Orderly (messageClass : MessageClass) : History → Prop
  | [] => True
  | latest :: earlier =>
      Orderly messageClass earlier ∧ latest.timedOut = [] ∧
        (latest.responds messageClass = true →
          responses messageClass earlier < (requested messageClass earlier).length)

instance decidableOrderly (messageClass : MessageClass) :
    (history : History) → Decidable (history.Orderly messageClass)
  | [] => isTrue trivial
  | _ :: earlier =>
      have _before := decidableOrderly messageClass earlier
      inferInstanceAs (Decidable (_ ∧ _ ∧ _))

theorem responses_cons (latest : Occurrence) (earlier : History) :
    responses messageClass (latest :: earlier) =
      responses messageClass earlier + if latest.responds messageClass then 1 else 0 :=
  List.countP_cons ..

theorem responses_le_requested {history : History} (orderly : history.Orderly messageClass) :
    history.responses messageClass ≤ (history.requested messageClass).length := by
  induction history with
  | nil => exact Nat.zero_le _
  | cons latest earlier bound =>
      obtain ⟨before, -, spare⟩ := orderly
      rw [responses_cons, requested, gather_cons, List.length_append]
      split
      · next responds =>
          exact Nat.le_trans (spare responds) (Nat.le_add_right _ _)
      · exact Nat.le_trans (bound before) (Nat.le_add_right _ _)

/-- While nothing times out and no response is one too many, the requests join the line behind those
who stood in it before, and each response takes one from its head. -/
theorem awaiting_append_of_orderly {later : History} (orderly : later.Orderly messageClass)
    (before : History) :
    (later ++ before).awaiting messageClass =
      (before.awaiting messageClass ++ later.requested messageClass).drop
        (later.responses messageClass) := by
  induction later with
  | nil => exact (List.append_nil _).symm
  | cons latest earlier line =>
      obtain ⟨orderly, punctual, spare⟩ := orderly
      have enough : responses messageClass earlier ≤
          (before.awaiting messageClass ++ requested messageClass earlier).length := by
        rw [List.length_append]
        exact Nat.le_add_left_of_le (responses_le_requested orderly)
      rw [responses_cons, requested, gather_cons, ← requested, List.cons_append]
      cases latest with
      | submitted command submission =>
          rw [awaiting, line orderly, ← List.append_assoc]
          exact (List.drop_append_of_le_length enough).symm
      | received frame receipt =>
          simp only [awaiting, line orderly, Occurrence.requested, Occurrence.accepted,
            List.filter_nil, List.map_nil, List.append_nil, Occurrence.responds,
            Bool.and_eq_true, beq_iff_eq]
          split
          · exact List.tail_drop
          · rfl
      | expired expiry =>
          change expiry.expired = [] at punctual
          rw [awaiting, line orderly, punctual]
          simp only [List.contains_nil, Bool.not_false, List.filter_true, Occurrence.responds,
            Bool.false_eq_true, ↓reduceIte, Nat.add_zero, Occurrence.requested,
            Occurrence.accepted, List.filter_nil, List.map_nil, List.append_nil]

/-- When nothing times out and no response is one too many, the line holds the requests that come
after as many as there have been responses. -/
theorem awaiting_of_orderly {history : History} (orderly : history.Orderly messageClass) :
    history.awaiting messageClass =
      (history.requested messageClass).drop (history.responses messageClass) := by
  simpa only [List.append_nil, awaiting, List.nil_append] using
    awaiting_append_of_orderly orderly []

end History

/-! ## What a response comes to -/

/-- What becomes of a frame, by what it says to the command of the transaction it is for. -/
def Disposition.ofJudgement (id : TransactionId) :
    Except ReadError Verdict → Except ReceiveError Disposition
  | .ok (.settled _) => .ok (.completed id)
  | .ok .acknowledged => .ok (.acknowledged id)
  | .ok .unrelated => .ok .unsolicited
  | .error (.malformed error) => .error (.malformed error)
  | .error (.transition _) => .ok .unsolicited
  | .error .fault => .error .fault

namespace Transaction

variable {transaction : Transaction} {frame : Frame}

/-- What a plain response comes to when a transaction takes it. One that is too short to be read is
malformed. Any other completes the transaction, or acknowledges its question if that still waits for
the report. -/
def taking (transaction : Transaction) (frame : Frame) : Except ReceiveError Disposition :=
  if frame.payload.length < Command.leastResponse frame.messageClass then
    .error (.malformed (.tooShort frame.messageClass
      (Command.leastResponse frame.messageClass) frame.payload.length))
  else if transaction.command.awaitsReport frame then .ok (.acknowledged transaction.id)
  else .ok (.completed transaction.id)

theorem taking_of_short (transaction : Transaction)
    (short : frame.payload.length < Command.leastResponse frame.messageClass) :
    transaction.taking frame = .error (.malformed (.tooShort frame.messageClass
      (Command.leastResponse frame.messageClass) frame.payload.length)) :=
  if_pos short

/-- A response that is long enough completes or acknowledges whoever takes it. -/
theorem taking_of_whole (transaction : Transaction)
    (whole : Command.leastResponse frame.messageClass ≤ frame.payload.length) :
    transaction.taking frame = .ok (.completed transaction.id) ∨
      transaction.taking frame = .ok (.acknowledged transaction.id) := by
  rw [taking, if_neg (Nat.not_lt.mpr whole)]
  split
  · exact .inr rfl
  · exact .inl rfl

/-- Whom a response completes or acknowledges, that one has taken it. -/
theorem id_eq_of_taking {id : TransactionId}
    (concerned : transaction.taking frame = .ok (.completed id) ∨
      transaction.taking frame = .ok (.acknowledged id)) : transaction.id = id := by
  rcases Nat.lt_or_ge frame.payload.length (Command.leastResponse frame.messageClass) with
    short | whole
  · rw [transaction.taking_of_short short] at concerned
    rcases concerned with same | same <;> cases same
  · rcases transaction.taking_of_whole whole with taken | taken <;> rw [taken] at concerned <;>
      rcases concerned with same | same <;> cases same <;> rfl

/-- A response of the class of the request says just that to its command. -/
theorem ofJudgement_judge (same : frame.messageClass = transaction.command.frame.messageClass) :
    Disposition.ofJudgement transaction.id (transaction.command.judge frame) =
      transaction.taking frame := by
  rcases Nat.lt_or_ge frame.payload.length (Command.leastResponse frame.messageClass) with
    short | whole
  · rw [transaction.taking_of_short short, Command.judge_of_short same short]
    rfl
  rw [taking, if_neg (Nat.not_lt.mpr whole)]
  rcases Command.judge_of_whole same whole with ⟨waits, judged⟩ | ⟨done, outcome, judged⟩
  · rw [if_pos waits, judged]
    rfl
  · rw [if_neg (Bool.eq_false_iff.mp done), judged]
    rfl

end Transaction

/-! ## The tracker's queue -/

namespace InFlight

variable {inFlight : InFlight} {last : Nat} {frame : Frame}

/-- The transactions that are owed a response of a class, in the order of the queue. -/
def owedTo (inFlight : InFlight) (messageClass : MessageClass) : List TransactionId :=
  (inFlight.owed.filter (·.messageClass == messageClass)).map (·.id)

theorem owedTo_add (inFlight : InFlight) (transaction : Transaction)
    (messageClass : MessageClass) :
    (inFlight.add transaction).owedTo messageClass =
      inFlight.owedTo messageClass ++
        if transaction.command.frame.messageClass == messageClass then [transaction.id]
        else [] := by
  simp only [owedTo, add, List.filter_append, List.map_append, List.filter_singleton]
  cases transaction.command.frame.messageClass == messageClass <;> rfl

private theorem filter_eraseP_self (queue : List Owed) (wanted : Owed → Bool) :
    (queue.eraseP wanted).filter wanted = (queue.filter wanted).tail := by
  induction queue with
  | nil => rfl
  | cons first rest same =>
      cases found : wanted first with
      | true => rw [List.eraseP_cons_of_pos found, List.filter_cons_of_pos found, List.tail_cons]
      | false =>
          have skip : ¬wanted first = true := Bool.not_eq_true _ ▸ found
          rw [List.eraseP_cons_of_neg skip, List.filter_cons_of_neg skip,
            List.filter_cons_of_neg skip, same]

private theorem filter_eraseP_of_disjoint (queue : List Owed) {wanted other : Owed → Bool}
    (disjoint : ∀ owed, wanted owed = true → other owed = false) :
    (queue.eraseP wanted).filter other = queue.filter other := by
  induction queue with
  | nil => rfl
  | cons first rest same =>
      cases found : wanted first with
      | true =>
          have skip : ¬other first = true := Bool.not_eq_true _ ▸ disjoint first found
          rw [List.eraseP_cons_of_pos found, List.filter_cons_of_neg skip]
      | false =>
          have skip : ¬wanted first = true := Bool.not_eq_true _ ▸ found
          rw [List.eraseP_cons_of_neg skip, List.filter_cons, List.filter_cons, same]

/-- A plain response takes the head off the queue of its class, and any other frame leaves every
queue as it is. -/
theorem owedTo_claim (inFlight : InFlight) (frame : Frame) (messageClass : MessageClass) :
    (inFlight.claim frame).2.owedTo messageClass =
      if isResponse frame ∧ frame.messageClass = messageClass then
        (inFlight.owedTo messageClass).tail
      else inFlight.owedTo messageClass := by
  unfold owedTo
  rw [owed_claim]
  by_cases plain : isResponse frame = true
  swap
  · rw [if_neg plain, if_neg fun both => plain both.1]
  rw [if_pos plain]
  by_cases same : frame.messageClass = messageClass
  · subst same
    rw [if_pos ⟨plain, rfl⟩, filter_eraseP_self, List.map_tail]
  · rw [if_neg fun both => same both.2, filter_eraseP_of_disjoint]
    intro owed found
    exact beq_false_of_ne fun meant => same ((eq_of_beq found).symm.trans meant)

/-- The response of a class is for the transaction in flight that is first in its queue. -/
theorem addresses_iff_of_response (plain : isResponse frame = true) {transaction : Transaction} :
    inFlight.Addresses frame transaction ↔
      (inFlight.owedTo frame.messageClass).head? = some transaction.id := by
  rw [Addresses, if_pos plain, owedTo, List.head?_map, List.head?_filter]

end InFlight

namespace Tracker

open InFlight

variable {tracker : Tracker} {history : History} {timeout : Duration}
  {messageClass : MessageClass}

/-- **The queue of a class is the ideal line**, after every run. -/
theorem Run.owedTo_eq_awaiting (run : Run timeout history tracker) :
    tracker.inFlight.owedTo messageClass = history.awaiting messageClass := by
  induction run with
  | fresh => rfl
  | @submit history tracker run command now refuses same =>
      have outcome := submitted run.accounts.coherent command now refuses
      generalize tracker.submit command now refuses = submission at outcome ⊢
      rw [History.awaiting, ← same, Occurrence.requested]
      cases outcome with
      | duplicate taken => exact (List.append_nil _).symm
      | refused free refusal => exact (List.append_nil _).symm
      | accepted free taken =>
          rw [owedTo_add, Occurrence.accepted, List.filter_singleton]
          cases chosen : command.frame.messageClass == messageClass <;>
            simp only [Transaction.issue, chosen] <;> rfl
  | @receive history tracker run frame same =>
      have outcome := received run.accounts.coherent frame
      rw [History.awaiting, ← same, ← owedTo_claim, owedTo, outcome.owed_eq, owedTo]
  | @sweep history tracker run now expiry sweep same =>
      obtain ⟨all⟩ := expired run.accounts.coherent sweep
      rw [History.awaiting, ← same, owedTo, spared, owedTo, List.filter_map, List.filter_filter,
        List.filter_filter]
      congr 2
      funext owed
      rw [Bool.and_comm, Function.comp_apply, (all.map _).contains_eq]

/-- A response that is owed is owed to a transaction in flight, or to one that was completed. -/
theorem Run.owed_live (run : Run timeout history tracker) :
    ∀ owed ∈ tracker.inFlight.owed,
      owed.id ∈ tracker.inFlight.ids ∨ owed.id ∈ history.completed := by
  -- Completing a transaction leaves its response owed; timing out does not.
  induction run with
  | fresh => exact fun _ member => nomatch member
  | @submit history tracker run command now refuses live =>
      have outcome := submitted run.accounts.coherent command now refuses
      generalize tracker.submit command now refuses = submission at outcome ⊢
      simp only [History.completed_cons, Occurrence.completed, List.append_nil]
      cases outcome with
      | duplicate taken => exact live
      | refused free refusal => exact live
      | accepted free taken =>
          intro owed member
          simp only [ids, transactions, InFlight.add, List.map_append]
          rcases List.mem_append.mp member with before | added
          · exact (live owed before).imp_left (List.mem_append_left _)
          · rw [List.mem_singleton.mp added]
            exact .inl (List.mem_append_right _ (List.mem_singleton.mpr rfl))
  | @receive history tracker run frame live =>
      have coherent := run.accounts.coherent
      have outcome := received coherent frame
      generalize tracker.receive frame = receipt at outcome ⊢
      have still : ∀ owed ∈ (tracker.inFlight.claim frame).2.owed,
          owed.id ∈ (tracker.inFlight.claim frame).2.ids ∨ owed.id ∈ history.completed := by
        intro owed member
        rw [ids_claim]
        exact live owed ((owed_claim_sublist _ _).subset member)
      rw [History.completed_cons]
      cases outcome with
      | passedOn useless => simpa only [Occurrence.completed, List.append_nil] using still
      | acknowledged waiting addressed judged =>
          simpa only [Occurrence.completed, List.append_nil] using still
      | malformed waiting addressed judged =>
          simpa only [Occurrence.completed, List.append_nil] using still
      | faulted waiting addressed judged =>
          simpa only [Occurrence.completed, List.append_nil] using still
      | @completed transaction outcome waiting addressed judged =>
          intro owed member
          rw [Occurrence.completed, List.mem_append, List.mem_singleton]
          by_cases ended : owed.id = transaction.id
          · exact .inr (.inr ended)
          · refine (still owed member).imp (fun waits => ?_) .inl
            have listed := transactions_claim tracker.inFlight frame ▸ waiting
            rw [(coherent.claim frame).ids_remove listed]
            exact List.mem_filter.mpr ⟨waits, bne_iff_ne.mpr ended⟩
  | sweep run sweep live =>
      obtain ⟨-⟩ := expired run.accounts.coherent sweep
      simp only [History.completed_cons, Occurrence.completed, List.append_nil]
      intro owed member
      obtain ⟨before, kept⟩ := List.mem_filter.mp member
      refine (live owed before).imp_left fun waits => mem_ids_spared waits fun lapsed => ?_
      rw [List.contains_iff_mem.mpr lapsed] at kept
      cases kept

/-! ## Who takes a response -/

theorem Received.result_eq {frame : Frame} {receipt : Receipt}
    (outcome : Received tracker frame receipt)
    (coherent : tracker.inFlight.Coherent tracker.lastId) {transaction : Transaction}
    (waiting : transaction ∈ tracker.inFlight.transactions)
    (addressed : tracker.inFlight.Addresses frame transaction) :
    receipt.result =
      Disposition.ofJudgement transaction.id (transaction.command.judge frame) := by
  cases outcome with
  | passedOn useless =>
      rw [useless transaction waiting addressed]
      rfl
  | _ waits meant judged =>
      rw [coherent.eq_of_addresses waiting waits addressed meant, judged]
      rfl

/-- The transaction of an id is in flight and takes a response. -/
def TakenBy (tracker : Tracker) (id : TransactionId) (frame : Frame)
    (result : Except ReceiveError Disposition) : Prop :=
  ∃ transaction ∈ tracker.inFlight.transactions, transaction.id = id ∧
    result = transaction.taking frame

/-- A plain response answers nothing if it is for no transaction in flight, and otherwise is taken
by the one that it is for. -/
private theorem response_cases (coherent : tracker.inFlight.Coherent tracker.lastId)
    {frame : Frame} (plain : isResponse frame = true) :
    ((tracker.receive frame).result = .ok .unsolicited ∧
      (tracker.receive frame).effects = [.tell (Event.ofFrame frame)] ∧
      (tracker.receive frame).tracker.inFlight.transactions = tracker.inFlight.transactions ∧
      ∀ transaction ∈ tracker.inFlight.transactions,
        ¬tracker.inFlight.Addresses frame transaction) ∨
    ∃ transaction ∈ tracker.inFlight.transactions,
      tracker.inFlight.Addresses frame transaction ∧
        (tracker.receive frame).result = transaction.taking frame := by
  have outcome := received coherent frame
  by_cases somebody : ∃ transaction ∈ tracker.inFlight.transactions,
      tracker.inFlight.Addresses frame transaction
  · obtain ⟨transaction, waiting, addressed⟩ := somebody
    refine .inr ⟨transaction, waiting, addressed, ?_⟩
    rw [outcome.result_eq coherent waiting addressed]
    rcases coherent.addresses_cases waiting addressed with ⟨-, same⟩ | ⟨other, -⟩
    · exact Transaction.ofJudgement_judge same
    · exact (Bool.false_ne_true (other.symm.trans plain)).elim
  · refine .inl ?_
    generalize tracker.receive frame = receipt at outcome ⊢
    cases outcome with
    | passedOn useless =>
        exact ⟨rfl, rfl, transactions_claim _ _, fun transaction waiting addressed =>
          somebody ⟨transaction, waiting, addressed⟩⟩
    | _ waits meant judged => exact (somebody ⟨_, waits, meant⟩).elim

/-- **A plain response is taken by the first in line.** Whatever it completes or acknowledges is
the first. When the first has been completed already, or nobody is in line, it is passed on as
unsolicited; otherwise the first is still in flight and takes it. Either way it is spent on the
first, and no other transaction is touched. -/
structure TakenByFirst (tracker : Tracker) (frame : Frame) (line completed : List TransactionId)
    (receipt : Receipt) : Prop where
  onlyFirst : ∀ id,
    receipt.result = .ok (.completed id) ∨ receipt.result = .ok (.acknowledged id) →
      line.head? = some id
  lost : (∀ id, line.head? = some id → id ∈ completed) →
    receipt.result = .ok .unsolicited ∧ receipt.effects = [.tell (Event.ofFrame frame)] ∧
      receipt.tracker.inFlight.transactions = tracker.inFlight.transactions
  taken : ∀ id, line.head? = some id → id ∉ completed → TakenBy tracker id frame receipt.result
  untouched : ∀ transaction ∈ tracker.inFlight.transactions,
    line.head? ≠ some transaction.id → transaction ∈ receipt.tracker.inFlight.transactions
  spent : receipt.tracker.inFlight.owedTo frame.messageClass = line.tail

theorem Run.takenByFirst (run : Run timeout history tracker) {frame : Frame}
    (plain : isResponse frame = true) :
    TakenByFirst tracker frame (history.awaiting frame.messageClass) history.completed
      (tracker.receive frame) := by
  have accounts := run.accounts
  have coherent := accounts.coherent
  have line : tracker.inFlight.owedTo frame.messageClass = history.awaiting frame.messageClass :=
    run.owedTo_eq_awaiting
  have first {transaction : Transaction} : tracker.inFlight.Addresses frame transaction ↔
      (history.awaiting frame.messageClass).head? = some transaction.id :=
    line ▸ addresses_iff_of_response plain
  have onlyFirst : ∀ id, (tracker.receive frame).result = .ok (.completed id) ∨
      (tracker.receive frame).result = .ok (.acknowledged id) →
        (history.awaiting frame.messageClass).head? = some id := by
    intro id concerned
    rcases response_cases coherent plain with
      ⟨ignored, -, -, -⟩ | ⟨transaction, waiting, addressed, taken⟩
    · rw [ignored] at concerned
      rcases concerned with same | same <;> cases same
    · rw [taken] at concerned
      exact Transaction.id_eq_of_taking concerned ▸ first.mp addressed
  constructor
  · exact onlyFirst
  · -- Whoever takes the response is in flight, and so has not been completed.
    intro finished
    rcases response_cases coherent plain with
      ⟨ignored, told, same, -⟩ | ⟨transaction, waiting, addressed, -⟩
    · exact ⟨ignored, told, same⟩
    · have ended := finished transaction.id (first.mp addressed)
      exact (accounts.not_ended (mem_ids_iff.mpr ⟨transaction, waiting, rfl⟩)
        (History.mem_ended_of_mem_completed ended)).elim
  · intro id head live
    have member := List.mem_of_mem_head? head
    rw [← line] at member
    obtain ⟨owed, queued, rfl⟩ := List.mem_map.mp member
    have waits := (run.owed_live owed (List.mem_of_mem_filter queued)).resolve_right live
    rcases response_cases coherent plain with
      ⟨-, -, -, nobody⟩ | ⟨transaction, waiting, addressed, taken⟩
    · obtain ⟨transaction, waiting, same⟩ := mem_ids_iff.mp waits
      exact (nobody transaction waiting (first.mpr (same ▸ head))).elim
    · have same := Option.some.inj ((first.mp addressed).symm.trans head)
      exact ⟨transaction, waiting, same, taken⟩
  · intro transaction waiting other
    refine (received coherent frame).survives coherent waiting fun completes => other ?_
    exact onlyFirst _ (.inl completes)
  · rw [owedTo, (received coherent frame).owed_eq, ← owedTo, owedTo_claim, if_pos ⟨plain, rfl⟩,
      line]

/-- A plain response belongs to one request: it is taken by the transaction, or passed on if that
has been completed before. -/
def BelongsTo (tracker : Tracker) (id : TransactionId) (completed : List TransactionId)
    (frame : Frame) (result : Except ReceiveError Disposition) : Prop :=
  if id ∈ completed then result = .ok .unsolicited else TakenBy tracker id frame result

/-- **Responses are taken in the order of the requests.** After every run, and for every class, the
tracker's queue of the class is the ideal line; a plain response of the class is taken by the first
in line; no other frame changes the queue of the class. If nothing has timed out and the controller
has responded to no more requests of the class than were accepted, the line begins with the request
whose turn it is by the number of responses, so that each response belongs to its own request and
completes or acknowledges no other. -/
theorem Run.responses_in_order (run : Run timeout history tracker) (messageClass : MessageClass) :
    tracker.inFlight.owedTo messageClass = history.awaiting messageClass ∧
    (∀ frame, isResponse frame = true → frame.messageClass = messageClass →
      TakenByFirst tracker frame (history.awaiting messageClass) history.completed
        (tracker.receive frame)) ∧
    (∀ frame, ¬(isResponse frame = true ∧ frame.messageClass = messageClass) →
      (tracker.receive frame).tracker.inFlight.owedTo messageClass =
        history.awaiting messageClass) ∧
    (history.Orderly messageClass →
      history.awaiting messageClass =
        (history.requested messageClass).drop (history.responses messageClass) ∧
      ∀ frame, isResponse frame = true → frame.messageClass = messageClass → ∀ id,
        ((tracker.receive frame).result = .ok (.completed id) ∨
            (tracker.receive frame).result = .ok (.acknowledged id) →
          (history.requested messageClass)[history.responses messageClass]? = some id) ∧
        ((history.requested messageClass)[history.responses messageClass]? = some id →
          BelongsTo tracker id history.completed frame (tracker.receive frame).result)) := by
  have line : tracker.inFlight.owedTo messageClass = history.awaiting messageClass :=
    run.owedTo_eq_awaiting
  refine ⟨line, ?_, ?_, fun orderly => ⟨History.awaiting_of_orderly orderly, ?_⟩⟩
  · rintro frame plain rfl
    exact run.takenByFirst plain
  · intro frame other
    rw [owedTo, (received run.accounts.coherent frame).owed_eq, ← owedTo, owedTo_claim,
      if_neg other, line]
  · rintro frame plain rfl id
    have byFirst := run.takenByFirst plain
    rw [← List.head?_drop, ← History.awaiting_of_orderly orderly]
    refine ⟨byFirst.onlyFirst id, fun first => ?_⟩
    unfold BelongsTo
    split
    · next finished =>
        refine (byFirst.lost fun other head => ?_).1
        rw [← Option.some.inj (first.symm.trans head)]
        exact finished
    · next live => exact byFirst.taken id first live

/-- A node is asked and another one set, and one response has come, which acknowledges the question:
the second is next, and the next response completes it. -/
theorem Run.responses_in_order_of_two :
    ∃ history tracker, Run ⟨10⟩ history tracker ∧ history.Orderly .sendData ∧
      history.requested .sendData = [⟨1⟩, ⟨2⟩] ∧ history.acknowledged = [⟨1⟩] ∧
      history.awaiting .sendData = [⟨2⟩] ∧
      (tracker.receive (Frame.inbound .sendData .response none [1])).result =
        .ok (.completed ⟨2⟩) := by
  have run := (((@Run.fresh ⟨10⟩).submit (.query ⟨5⟩ .basic) ⟨0⟩ fun _ => none).submit
    (.set ⟨9⟩ (.basic 1)) ⟨1⟩ fun _ => none).receive
      (Frame.inbound .sendData .response none [1])
  obtain ⟨line, belongs⟩ := (Run.responses_in_order run .sendData).2.2.2 (by decide)
  have second := (belongs (Frame.inbound .sendData .response none [1]) rfl rfl ⟨2⟩).2 (by decide)
  rw [BelongsTo, if_neg (by decide)] at second
  obtain ⟨transaction, waiting, same, taken⟩ := second
  refine ⟨_, _, run, by decide, by decide, by decide, line, taken.trans ?_⟩
  revert transaction
  decide

end Tracker

end ZWaveGateway
