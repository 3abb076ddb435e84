import ZWaveGateway.Tracker.InFlight
import Mathlib.Data.List.Nodup

/-!
# Coherence of what is in flight

The transactions in flight and the queue of owed responses are two lists that name each other by
id and by key, and keys are used again once they are free. They stay in step because every
operation does one of two things: it takes away some elements of either list, which cannot break
anything (`ZWaveGateway.InFlight.Coherent.of_sublist`), or it adds one transaction with a new id
under a free key, at the end of both (`ZWaveGateway.InFlight.Coherent.add`).

In a coherent state the transaction that claims a frame is the one the frame is meant for
(`ZWaveGateway.InFlight.Coherent.claim_eq_some_iff`).
-/

namespace ZWaveGateway.InFlight

/-- The transactions in flight, in the order of submission. -/
def transactions (inFlight : InFlight) : List Transaction :=
  inFlight.entries.map (·.2)

/-- The ids of the transactions in flight. -/
def ids (inFlight : InFlight) : List TransactionId :=
  inFlight.transactions.map (·.id)

/-- Every transaction in flight is pending, under the key of its command, and has an id and a key
of its own. Responses are owed in the order of the ids, and one that is owed to a transaction in
flight knows its key and the class of its request. No id is beyond the last one given out. -/
structure Coherent (inFlight : InFlight) (last : Nat) : Prop where
  keyed : ∀ entry ∈ inFlight.entries, entry.1 = entry.2.key
  pending : ∀ transaction ∈ inFlight.transactions, transaction.state = .pending
  openEnded : ∀ transaction ∈ inFlight.transactions, transaction.outcome = none
  keysNodup : (inFlight.entries.map (·.1)).Nodup
  idsNodup : inFlight.ids.Nodup
  known : ∀ transaction ∈ inFlight.transactions, transaction.id.number ≤ last
  owedIncreasing : inFlight.owed.Pairwise fun first second => first.id.number < second.id.number
  owedKnown : ∀ owed ∈ inFlight.owed, owed.id.number ≤ last
  owedAgrees : ∀ owed ∈ inFlight.owed, ∀ transaction ∈ inFlight.transactions,
    transaction.id = owed.id → owed.key = transaction.key ∧
      owed.messageClass = transaction.command.frame.messageClass

variable {inFlight : InFlight} {last : Nat} {frame : Frame} {transaction : Transaction}

theorem coherent_empty (last : Nat) : empty.Coherent last := by
  constructor <;> simp [empty, ids, transactions]

theorem mem_transactions_iff :
    transaction ∈ inFlight.transactions ↔ ∃ key, (key, transaction) ∈ inFlight.entries := by
  simp only [transactions, List.mem_map, Prod.exists, exists_eq_right]

theorem mem_ids_iff {id : TransactionId} :
    id ∈ inFlight.ids ↔ ∃ transaction ∈ inFlight.transactions, transaction.id = id := by
  simp only [ids, List.mem_map]

/-- Taking elements away, and giving out ids, keeps what is in flight coherent. -/
theorem Coherent.of_sublist {after : InFlight} {next : Nat} (coherent : inFlight.Coherent last)
    (entries : after.entries.Sublist inFlight.entries) (owed : after.owed.Sublist inFlight.owed)
    (later : last ≤ next) : after.Coherent next := by
  have fewer : after.transactions.Sublist inFlight.transactions := entries.map _
  exact {
    keyed := fun entry member => coherent.keyed entry (entries.subset member)
    pending := fun transaction member => coherent.pending transaction (fewer.subset member)
    openEnded := fun transaction member => coherent.openEnded transaction (fewer.subset member)
    keysNodup := coherent.keysNodup.sublist (entries.map _)
    idsNodup := coherent.idsNodup.sublist (fewer.map _)
    known := fun transaction member =>
      Nat.le_trans (coherent.known transaction (fewer.subset member)) later
    owedIncreasing := coherent.owedIncreasing.sublist owed
    owedKnown := fun one member => Nat.le_trans (coherent.owedKnown one (owed.subset member)) later
    owedAgrees := fun one member transaction waiting =>
      coherent.owedAgrees one (owed.subset member) transaction (fewer.subset waiting) }

/-! ## Looking up -/

private theorem find?_of_mem {entries : List (Key × Transaction)}
    (nodup : (entries.map (·.1)).Nodup) {entry : Key × Transaction} (member : entry ∈ entries) :
    entries.find? (·.1 == entry.1) = some entry := by
  induction entries with
  | nil => cases member
  | cons first rest ih =>
      rw [List.map_cons, List.nodup_cons] at nodup
      rcases List.mem_cons.mp member with rfl | later
      · exact List.find?_cons_of_pos (by simp only [beq_self_eq_true])
      · have different : first.1 ≠ entry.1 := by
          intro same
          exact nodup.1 (same ▸ List.mem_map.mpr ⟨entry, later, rfl⟩)
        rw [List.find?_cons, beq_false_of_ne different]
        exact ih nodup.2 later

/-- Under a key waits exactly the transaction whose key it is. -/
theorem Coherent.get?_eq_some_iff (coherent : inFlight.Coherent last) {key : Key} :
    inFlight.get? key = some transaction ↔
      transaction ∈ inFlight.transactions ∧ transaction.key = key := by
  unfold get?
  rw [Option.map_eq_some_iff]
  constructor
  · rintro ⟨entry, found, rfl⟩
    have member := List.mem_of_find?_eq_some found
    have named := List.find?_some found
    exact ⟨List.mem_map.mpr ⟨entry, member, rfl⟩,
      (coherent.keyed entry member).symm.trans (eq_of_beq named)⟩
  · rintro ⟨waiting, rfl⟩
    obtain ⟨key, member⟩ := mem_transactions_iff.mp waiting
    have named : key = transaction.key := coherent.keyed _ member
    subst named
    exact ⟨_, find?_of_mem coherent.keysNodup member, rfl⟩

theorem Coherent.contains_iff (coherent : inFlight.Coherent last) {key : Key} :
    inFlight.contains key = true ↔
      ∃ transaction ∈ inFlight.transactions, transaction.key = key := by
  unfold contains
  rw [Option.isSome_iff_exists]
  exact exists_congr fun _ => coherent.get?_eq_some_iff

theorem Coherent.eq_of_id_eq (coherent : inFlight.Coherent last) {other : Transaction}
    (first : transaction ∈ inFlight.transactions) (second : other ∈ inFlight.transactions)
    (same : transaction.id = other.id) : transaction = other :=
  List.inj_on_of_nodup_map coherent.idsNodup first second same

theorem Coherent.eq_of_key_eq (coherent : inFlight.Coherent last) {other : Transaction}
    (first : transaction ∈ inFlight.transactions) (second : other ∈ inFlight.transactions)
    (same : transaction.key = other.key) : transaction = other := by
  have one := coherent.get?_eq_some_iff.mpr ⟨first, same⟩
  have two := coherent.get?_eq_some_iff.mpr ⟨second, rfl⟩
  exact Option.some.inj (one.symm.trans two)

/-- What is removed under the key of a transaction in flight is that transaction. -/
theorem Coherent.entries_remove (coherent : inFlight.Coherent last)
    (waiting : transaction ∈ inFlight.transactions) :
    (inFlight.remove transaction.key).entries =
      inFlight.entries.filter (·.2.id != transaction.id) := by
  refine List.filter_congr fun entry member => ?_
  have listed : entry.2 ∈ inFlight.transactions := List.mem_map.mpr ⟨entry, member, rfl⟩
  rw [coherent.keyed entry member]
  refine Bool.eq_iff_iff.mpr (bne_iff_ne.trans (Iff.trans (not_congr ?_) bne_iff_ne.symm))
  constructor
  · intro same
    exact congrArg Transaction.id (coherent.eq_of_key_eq listed waiting same)
  · intro same
    exact congrArg Transaction.key (coherent.eq_of_id_eq listed waiting same)

theorem Coherent.transactions_remove (coherent : inFlight.Coherent last)
    (waiting : transaction ∈ inFlight.transactions) :
    (inFlight.remove transaction.key).transactions =
      inFlight.transactions.filter (·.id != transaction.id) := by
  rw [transactions, coherent.entries_remove waiting, transactions, List.filter_map]
  rfl

theorem Coherent.ids_remove (coherent : inFlight.Coherent last)
    (waiting : transaction ∈ inFlight.transactions) :
    (inFlight.remove transaction.key).ids = inFlight.ids.filter (· != transaction.id) := by
  rw [ids, coherent.transactions_remove waiting, ids, List.filter_map]
  rfl

/-! ## Submitting and taking back -/

theorem transactions_add (inFlight : InFlight) (transaction : Transaction) :
    (inFlight.add transaction).transactions = inFlight.transactions ++ [transaction] :=
  List.map_append

theorem ids_add (inFlight : InFlight) (transaction : Transaction) :
    (inFlight.add transaction).ids = inFlight.ids ++ [transaction.id] := by
  rw [ids, transactions_add, List.map_append]
  rfl

/-- A new transaction under a free key fits in. -/
theorem Coherent.add (coherent : inFlight.Coherent last) {command : Command} {now : Instant}
    (free : inFlight.contains (Key.ofCommand command) = false) :
    (inFlight.add (Transaction.issue ⟨last + 1⟩ command now)).Coherent (last + 1) := by
  have unused : ∀ transaction ∈ inFlight.transactions,
      transaction.key ≠ Key.ofCommand command := by
    intro transaction waiting same
    have taken := coherent.contains_iff.mpr ⟨transaction, waiting, same⟩
    rw [free] at taken
    cases taken
  have split : (inFlight.add (Transaction.issue ⟨last + 1⟩ command now)).transactions =
      inFlight.transactions ++ [Transaction.issue ⟨last + 1⟩ command now] :=
    transactions_add _ _
  have memberCases {P : Transaction → Prop} (old : ∀ one ∈ inFlight.transactions, P one)
      (new : P (Transaction.issue ⟨last + 1⟩ command now)) : ∀ one ∈
        (inFlight.add (Transaction.issue ⟨last + 1⟩ command now)).transactions, P one := by
    intro one member
    rw [split, List.mem_append, List.mem_singleton] at member
    rcases member with before | rfl
    · exact old one before
    · exact new
  constructor
  · intro entry member
    rcases List.mem_append.mp member with before | added
    · exact coherent.keyed entry before
    · rw [List.mem_singleton.mp added]
  · exact memberCases coherent.pending rfl
  · exact memberCases coherent.openEnded rfl
  · simp only [InFlight.add, List.map_append, List.map_cons, List.map_nil]
    refine List.Nodup.append coherent.keysNodup (List.nodup_singleton _) ?_
    intro key before added
    obtain ⟨entry, member, rfl⟩ := List.mem_map.mp before
    exact unused entry.2 (List.mem_map.mpr ⟨entry, member, rfl⟩)
      ((coherent.keyed entry member).symm.trans (List.mem_singleton.mp added))
  · rw [ids, split, List.map_append]
    refine List.Nodup.append coherent.idsNodup (List.nodup_singleton _) ?_
    intro id before added
    obtain ⟨transaction, waiting, rfl⟩ := List.mem_map.mp before
    have small := coherent.known transaction waiting
    rw [List.mem_singleton.mp added] at small
    exact Nat.not_succ_le_self last small
  · exact memberCases (fun one member => Nat.le_succ_of_le (coherent.known one member))
      (Nat.le_refl _)
  · refine List.pairwise_append.mpr ⟨coherent.owedIncreasing, List.pairwise_singleton _ _, ?_⟩
    intro one member added new
    rw [List.mem_singleton.mp new]
    exact Nat.lt_succ_of_le (coherent.owedKnown one member)
  · intro one member
    rcases List.mem_append.mp member with before | added
    · exact Nat.le_succ_of_le (coherent.owedKnown one before)
    · rw [List.mem_singleton.mp added]
      exact Nat.le_refl _
  · intro one member
    rcases List.mem_append.mp member with before | added
    · -- What was owed before is owed to an old id, and the new transaction has a new one.
      refine memberCases (coherent.owedAgrees one before) fun same => ?_
      have small := coherent.owedKnown one before
      rw [← same] at small
      exact (Nat.not_succ_le_self last small).elim
    · rw [List.mem_singleton.mp added]
      refine memberCases (fun transaction waiting same => ?_) fun _ => ⟨rfl, rfl⟩
      have small := coherent.known transaction waiting
      rw [same] at small
      exact (Nat.not_succ_le_self last small).elim

theorem contains_add (inFlight : InFlight) (transaction : Transaction) (key : Key) :
    (inFlight.add transaction).contains key =
      (inFlight.contains key || transaction.key == key) := by
  simp only [contains, get?, InFlight.add, List.find?_append, Option.isSome_map, Option.isSome_or,
    List.find?_singleton]
  congr 1
  cases transaction.key == key <;> rfl

/-- Taking back the latest registration leaves what was in flight before it. -/
theorem Coherent.discard_add (coherent : inFlight.Coherent last) {command : Command}
    {now : Instant} (free : inFlight.contains (Key.ofCommand command) = false) :
    (inFlight.add (Transaction.issue ⟨last + 1⟩ command now)).discard
      (Key.ofCommand command) ⟨last + 1⟩ = inFlight := by
  have noneFound : inFlight.entries.find? (·.1 == Key.ofCommand command) = none := by
    simpa only [contains, get?, Option.isSome_map, Option.isSome_eq_false_iff,
      Option.isNone_iff_eq_none] using free
  have live : (inFlight.add (Transaction.issue ⟨last + 1⟩ command now)).isLive
      (Key.ofCommand command) ⟨last + 1⟩ = true := by
    simp only [isLive, get?, InFlight.add, List.find?_append, noneFound, Option.none_or,
      List.find?_singleton, Transaction.key, Transaction.issue, beq_self_eq_true, ↓reduceIte,
      Option.map_some, Option.any_some]
  have keepEntries : inFlight.entries.filter (·.1 != Key.ofCommand command) =
      inFlight.entries := by
    refine List.filter_eq_self.mpr fun entry member => bne_iff_ne.mpr fun same => ?_
    exact List.find?_eq_none.mp noneFound entry member (beq_iff_eq.mpr same)
  have keepOwed : inFlight.owed.filter (·.id != (⟨last + 1⟩ : TransactionId)) =
      inFlight.owed := by
    refine List.filter_eq_self.mpr fun one member => bne_iff_ne.mpr fun same => ?_
    have small := coherent.owedKnown one member
    rw [same] at small
    exact Nat.not_succ_le_self last small
  unfold discard
  rw [if_pos live]
  simp only [remove, InFlight.add, List.filter_append, keepEntries, keepOwed, Transaction.key,
    Transaction.issue, List.filter_cons, bne_self_eq_false, Bool.false_eq_true, ↓reduceIte,
    List.filter_nil, List.append_nil]

/-- Discarding a transaction takes away its own entry and its own element of the queue, if they are
still there, and nothing else. -/
theorem Coherent.discard (coherent : inFlight.Coherent last) {key : Key} {id : TransactionId}
    (keyed : ∀ transaction ∈ inFlight.transactions, transaction.id = id → transaction.key = key) :
    (inFlight.discard key id).entries = inFlight.entries.filter (·.2.id != id) ∧
      (inFlight.discard key id).owed = inFlight.owed.filter (·.id != id) := by
  unfold InFlight.discard
  by_cases live : inFlight.isLive key id = true
  · rw [if_pos live]
    obtain ⟨transaction, found, same⟩ := (Option.any_eq_true ..).mp live
    obtain ⟨waiting, rfl⟩ := coherent.get?_eq_some_iff.mp found
    obtain rfl := eq_of_beq same
    exact ⟨coherent.entries_remove waiting, rfl⟩
  · rw [if_neg live]
    refine ⟨(List.filter_eq_self.mpr fun entry member => ?_).symm, rfl⟩
    apply bne_iff_ne.mpr
    intro same
    apply live
    have waiting : entry.2 ∈ inFlight.transactions := List.mem_map_of_mem member
    have found := coherent.get?_eq_some_iff.mpr ⟨waiting, keyed entry.2 waiting same⟩
    exact (Option.any_eq_true ..).mpr ⟨entry.2, found, beq_iff_eq.mpr same⟩

/-! ## Claiming -/

/-- The frame is for the transaction: it bears the transaction's key, or it is a plain response
and the oldest one owed of its class is owed to the transaction. -/
def Addresses (inFlight : InFlight) (frame : Frame) (transaction : Transaction) : Prop :=
  if isResponse frame then
    (inFlight.owed.find? (·.messageClass == frame.messageClass)).map (·.id) = some transaction.id
  else Key.ofFrame frame = transaction.key

theorem claim_of_response (plain : isResponse frame = true) :
    inFlight.claim frame =
      ((inFlight.owed.find? (·.messageClass == frame.messageClass)).bind fun owed =>
          ((inFlight.get? owed.key).filter (·.id == owed.id)).map (owed.key, ·),
        { inFlight with
          owed := inFlight.owed.eraseP (·.messageClass == frame.messageClass) }) := by
  unfold claim takeOwed
  rw [if_pos plain]
  cases inFlight.owed.find? (·.messageClass == frame.messageClass) <;> rfl

theorem claim_of_not_response (other : isResponse frame = false) :
    inFlight.claim frame =
      ((inFlight.get? (Key.ofFrame frame)).map (Key.ofFrame frame, ·), inFlight) := by
  unfold claim
  rw [if_neg (Bool.not_eq_true _ ▸ other)]

@[simp]
theorem entries_claim (inFlight : InFlight) (frame : Frame) :
    (inFlight.claim frame).2.entries = inFlight.entries := by
  cases shape : isResponse frame with
  | true => rw [claim_of_response shape]
  | false => rw [claim_of_not_response shape]

@[simp]
theorem transactions_claim (inFlight : InFlight) (frame : Frame) :
    (inFlight.claim frame).2.transactions = inFlight.transactions := by
  rw [transactions, entries_claim, transactions]

@[simp]
theorem ids_claim (inFlight : InFlight) (frame : Frame) :
    (inFlight.claim frame).2.ids = inFlight.ids := by
  rw [ids, transactions_claim, ids]

theorem owed_claim (inFlight : InFlight) (frame : Frame) :
    (inFlight.claim frame).2.owed =
      if isResponse frame then inFlight.owed.eraseP (·.messageClass == frame.messageClass)
      else inFlight.owed := by
  cases shape : isResponse frame with
  | true => rw [claim_of_response shape, if_pos rfl]
  | false => rw [claim_of_not_response shape, if_neg Bool.false_ne_true]

theorem owed_claim_sublist (inFlight : InFlight) (frame : Frame) :
    (inFlight.claim frame).2.owed.Sublist inFlight.owed := by
  rw [owed_claim]
  split
  · exact List.eraseP_sublist
  · exact List.Sublist.refl _

theorem Coherent.claim (coherent : inFlight.Coherent last) (frame : Frame) :
    (inFlight.claim frame).2.Coherent last := by
  refine coherent.of_sublist ?_ (owed_claim_sublist inFlight frame) (Nat.le_refl last)
  rw [entries_claim]

/-- A frame is claimed by the transaction in flight that it is for, and by no other. -/
theorem Coherent.claim_eq_some_iff (coherent : inFlight.Coherent last) {key : Key} :
    (inFlight.claim frame).1 = some (key, transaction) ↔
      transaction ∈ inFlight.transactions ∧ transaction.key = key ∧
        inFlight.Addresses frame transaction := by
  unfold Addresses
  cases shape : isResponse frame with
  | false =>
      rw [claim_of_not_response shape, if_neg Bool.false_ne_true, Option.map_eq_some_iff]
      constructor
      · rintro ⟨found, waits, same⟩
        obtain ⟨rfl, rfl⟩ := Prod.mk.inj same
        obtain ⟨member, named⟩ := coherent.get?_eq_some_iff.mp waits
        exact ⟨member, named, named.symm⟩
      · rintro ⟨member, rfl, named⟩
        rw [named]
        exact ⟨transaction, coherent.get?_eq_some_iff.mpr ⟨member, rfl⟩, rfl⟩
  | true =>
      rw [claim_of_response shape, if_pos rfl, Option.bind_eq_some_iff]
      constructor
      · rintro ⟨owed, oldest, claimed⟩
        obtain ⟨found, kept, same⟩ := Option.map_eq_some_iff.mp claimed
        obtain ⟨rfl, rfl⟩ := Prod.mk.inj same
        obtain ⟨waits, live⟩ := Option.filter_eq_some_iff.mp kept
        obtain ⟨member, named⟩ := coherent.get?_eq_some_iff.mp waits
        refine ⟨member, named, ?_⟩
        rw [oldest, Option.map_some, eq_of_beq live]
      · -- The key may have been used again, but the owed response knows the id as well.
        rintro ⟨member, rfl, oldest⟩
        obtain ⟨owed, found, same⟩ := Option.map_eq_some_iff.mp oldest
        have agrees := (coherent.owedAgrees owed (List.mem_of_find?_eq_some found) transaction
          member same.symm).1
        refine ⟨owed, found, ?_⟩
        rw [agrees, coherent.get?_eq_some_iff.mpr ⟨member, rfl⟩, Option.filter_some,
          if_pos (beq_iff_eq.mpr same.symm), Option.map_some]

theorem Coherent.eq_of_addresses (coherent : inFlight.Coherent last) {other : Transaction}
    (first : transaction ∈ inFlight.transactions) (second : other ∈ inFlight.transactions)
    (one : inFlight.Addresses frame transaction) (two : inFlight.Addresses frame other) :
    transaction = other := by
  have mine := coherent.claim_eq_some_iff.mpr ⟨first, rfl, one⟩
  have theirs := coherent.claim_eq_some_iff.mpr ⟨second, rfl, two⟩
  exact (Prod.mk.inj (Option.some.inj (mine.symm.trans theirs))).2

private theorem eraseP_eq_filter {queue : List Owed} {wanted : Owed → Bool} {first : Owed}
    (increasing : queue.Pairwise fun one other => one.id.number < other.id.number)
    (found : queue.find? wanted = some first) :
    queue.eraseP wanted = queue.filter (·.id != first.id) := by
  induction queue with
  | nil => cases found
  | cons head rest same =>
      obtain ⟨before, increasing⟩ := List.pairwise_cons.mp increasing
      have apart : ∀ other ∈ rest, other.id ≠ head.id := by
        intro other member equal
        have smaller := before other member
        rw [equal] at smaller
        exact Nat.lt_irrefl _ smaller
      by_cases chosen : wanted head = true
      · rw [List.find?_cons_of_pos chosen] at found
        obtain rfl := Option.some.inj found
        rw [List.eraseP_cons_of_pos chosen, List.filter_cons_of_neg (by simp),
          List.filter_eq_self.mpr fun other member => bne_iff_ne.mpr (apart other member)]
      · rw [List.find?_cons_of_neg chosen] at found
        have kept : (head.id != first.id) = true :=
          bne_iff_ne.mpr (apart first (List.mem_of_find?_eq_some found)).symm
        rw [List.eraseP_cons_of_neg chosen, List.filter_cons, if_pos kept, same increasing found]

/-- A plain response that is for a transaction is spent on what is owed to it, and on nothing
else. -/
theorem Coherent.owed_claim_of_addresses (coherent : inFlight.Coherent last)
    (plain : isResponse frame = true) (addressed : inFlight.Addresses frame transaction) :
    (inFlight.claim frame).2.owed = inFlight.owed.filter (·.id != transaction.id) := by
  rw [Addresses, if_pos plain] at addressed
  obtain ⟨oldest, found, same⟩ := Option.map_eq_some_iff.mp addressed
  rw [owed_claim, if_pos plain, eraseP_eq_filter coherent.owedIncreasing found, same]

/-- A frame that is for a transaction is of the class that its request was sent in, if it is a plain
response, and bears the key of its command otherwise. -/
theorem Coherent.addresses_cases (coherent : inFlight.Coherent last)
    (waiting : transaction ∈ inFlight.transactions)
    (addressed : inFlight.Addresses frame transaction) :
    (isResponse frame = true ∧ frame.messageClass = transaction.command.frame.messageClass) ∨
      (isResponse frame = false ∧ Key.ofFrame frame = Key.ofCommand transaction.command) := by
  unfold Addresses at addressed
  split at addressed
  · next plain =>
      obtain ⟨owed, found, same⟩ := Option.map_eq_some_iff.mp addressed
      have agrees := (coherent.owedAgrees owed (List.mem_of_find?_eq_some found) transaction
        waiting same.symm).2
      have sameClass := List.find?_some found
      exact .inl ⟨plain, (eq_of_beq sameClass).symm.trans agrees⟩
  · next other => exact .inr ⟨Bool.not_eq_true _ ▸ other, addressed⟩

end ZWaveGateway.InFlight
