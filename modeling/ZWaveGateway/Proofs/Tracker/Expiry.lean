import ZWaveGateway.Proofs.Tracker.Reception
import ZWaveGateway.Proofs.Tracker.SubmissionOrder

/-!
# What a sweep takes away

A sweep ends the transactions in flight that have waited at least for the timeout, and forgets the
responses owed to them; everything else stays where it is (`ZWaveGateway.Tracker.EndsOverdue`). An
instant before that of the submission counts as no wait at all.

Nothing orders what is in flight, so a sweep can end the transactions in any order. The order shows
in what is told, and in nothing that is left: all sweeps at an instant leave the same tracker.

Who is overdue at an instant is overdue at every later one. So a sweep at an instant that is not
later finds nothing more to do, and a sweep at a later instant comes to the same whether or not there
was another before it (`ZWaveGateway.Shared.Reachable.expires_exactly`). This holds at any moment,
also while a submission has registered its transaction and the transport has not answered.
-/

namespace ZWaveGateway

open InFlight

namespace Tracker

variable {tracker : Tracker} {first now : Instant} {expiry : Expiry}

/-- What a sweep at an instant comes to.

The transactions in flight whose age is at least the timeout end, each once, and no others do. They
leave with what is owed to them, and nothing else about the tracker changes. Their handles are settled
and events told for each of them and for nobody else, in one order; and their keys can be used
again. -/
structure EndsOverdue (tracker : Tracker) (now : Instant) (expiry : Expiry) : Prop where
  overdue : ∀ id, id ∈ expiry.expired ↔ ∃ transaction ∈ tracker.inFlight.transactions,
    transaction.id = id ∧ transaction.state = .pending ∧
      tracker.timeout.nanoseconds ≤
        (now.nanoseconds - transaction.issuedAt.nanoseconds).toNat
  once : expiry.expired.Nodup
  entries : expiry.tracker.inFlight.entries =
    tracker.inFlight.entries.filter fun entry => entry.2.id ∉ expiry.expired
  owed : expiry.tracker.inFlight.owed =
    tracker.inFlight.owed.filter fun owed => owed.id ∉ expiry.expired
  others : expiry.tracker = { tracker with inFlight := expiry.tracker.inFlight }
  settled : Effect.settlements expiry.effects =
    expiry.expired.map fun id => (id, .timedOut tracker.timeout)
  told : ∃ ended ⊆ tracker.inFlight.transactions, ended.map (·.id) = expiry.expired ∧
    Effect.events expiry.effects =
      ended.map fun transaction => .timedOut transaction.id transaction.key
  freed : ∀ transaction ∈ tracker.inFlight.transactions, transaction.id ∈ expiry.expired →
    ∀ command instant refuses, Key.ofCommand command = transaction.key →
      (expiry.tracker.submit command instant refuses).offered = some command.frame ∧
        (refuses command.frame = none →
          ∃ ticket, (expiry.tracker.submit command instant refuses).result = .ok ticket)

/-! ## One sweep -/

/-- The tracker that every sweep at an instant leaves. -/
def swept (tracker : Tracker) (now : Instant) : Tracker :=
  { tracker with inFlight := tracker.spared now }

theorem Sweep.tracker_eq (sweep : Sweep tracker now expiry) :
    expiry.tracker = tracker.swept now := by
  cases sweep with
  | found all => exact congrArg (fun left => { tracker with inFlight := left }) (without_of_perm all)

theorem Sweep.expired_perm (sweep : Sweep tracker now expiry)
    (coherent : tracker.inFlight.Coherent tracker.lastId) :
    expiry.expired.Perm ((tracker.lapsing now).map (·.id)) := by
  obtain ⟨all⟩ := expired coherent sweep
  exact all.map _

theorem Sweep.mem_expired_iff (sweep : Sweep tracker now expiry)
    (coherent : tracker.inFlight.Coherent tracker.lastId) {transaction : Transaction}
    (waiting : transaction ∈ tracker.inFlight.transactions) :
    transaction.id ∈ expiry.expired ↔ transaction.isOverdue now tracker.timeout = true := by
  rw [(sweep.expired_perm coherent).mem_iff, List.mem_map]
  constructor
  · rintro ⟨other, lapses, same⟩
    obtain ⟨listed, overdue⟩ := List.mem_filter.mp lapses
    rw [← coherent.eq_of_id_eq listed waiting same]
    exact overdue
  · intro overdue
    exact ⟨transaction, List.mem_filter.mpr ⟨waiting, overdue⟩, rfl⟩

/-- The key of a transaction whose time is up is free after the sweep. -/
theorem contains_swept (coherent : tracker.inFlight.Coherent tracker.lastId)
    {transaction : Transaction} (lapses : transaction ∈ tracker.lapsing now) :
    (tracker.swept now).inFlight.contains transaction.key = false := by
  obtain ⟨waiting, overdue⟩ := List.mem_filter.mp lapses
  have kept : (tracker.swept now).inFlight.Coherent tracker.lastId :=
    coherent.of_sublist List.filter_sublist List.filter_sublist (Nat.le_refl _)
  rw [← Bool.not_eq_true, kept.contains_iff]
  rintro ⟨other, left, same⟩
  obtain ⟨listed, spared⟩ := List.mem_filter.mp (transactions_spared tracker now ▸ left)
  rw [coherent.eq_of_key_eq listed waiting same, overdue] at spared
  cases spared

/-- A command whose key is free is offered to the transport, which has the last word. -/
theorem submit_of_free (coherent : tracker.inFlight.Coherent tracker.lastId) {command : Command}
    (free : tracker.inFlight.contains (Key.ofCommand command) = false) (instant : Instant)
    (refuses : Frame → Option String) :
    (tracker.submit command instant refuses).offered = some command.frame ∧
      (refuses command.frame = none →
        ∃ ticket, (tracker.submit command instant refuses).result = .ok ticket) := by
  have came := submitted coherent command instant refuses
  generalize tracker.submit command instant refuses = submission at came
  cases came with
  | duplicate taken => cases free.symm.trans taken
  | refused free refusal => exact ⟨rfl, fun taken => nomatch refusal.symm.trans taken⟩
  | accepted free taken => exact ⟨rfl, fun _ => ⟨_, rfl⟩⟩

theorem Sweep.endsOverdue (sweep : Sweep tracker now expiry)
    (coherent : tracker.inFlight.Coherent tracker.lastId) : EndsOverdue tracker now expiry where
  overdue := by
    intro id
    rw [(sweep.expired_perm coherent).mem_iff, List.mem_map]
    constructor
    · rintro ⟨transaction, lapses, same⟩
      obtain ⟨waiting, overdue⟩ := List.mem_filter.mp lapses
      exact ⟨transaction, waiting, same, coherent.pending transaction waiting,
        Transaction.isOverdue_iff.mp overdue⟩
    · rintro ⟨transaction, waiting, same, -, overdue⟩
      exact ⟨transaction,
        List.mem_filter.mpr ⟨waiting, Transaction.isOverdue_iff.mpr overdue⟩, same⟩
  once := by
    rw [(sweep.expired_perm coherent).nodup_iff]
    exact coherent.idsNodup.sublist (List.filter_sublist.map _)
  entries := by
    rw [sweep.tracker_eq]
    refine List.filter_congr fun entry member => ?_
    have waiting : entry.2 ∈ tracker.inFlight.transactions := List.mem_map_of_mem member
    rw [Bool.eq_iff_iff, decide_eq_true_iff, sweep.mem_expired_iff coherent waiting,
      Bool.not_eq_true', Bool.not_eq_true]
  owed := by
    rw [sweep.tracker_eq]
    refine List.filter_congr fun owed _ => ?_
    rw [← (sweep.expired_perm coherent).contains_eq, List.contains_eq_mem, decide_not]
  others := by
    rw [sweep.tracker_eq]
    rfl
  settled := by
    obtain ⟨-⟩ := expired coherent sweep
    rw [settlements_silence, List.map_map]
    rfl
  told := by
    obtain @⟨ended, all⟩ := expired coherent sweep
    exact ⟨ended, fun transaction member => List.mem_of_mem_filter (all.subset member), rfl,
      events_silence _ _⟩
  freed := by
    intro transaction waiting ended command instant refuses same
    rw [sweep.mem_expired_iff coherent waiting] at ended
    have free := contains_swept coherent (List.mem_filter.mpr ⟨waiting, ended⟩)
    rw [← sweep.tracker_eq, ← same] at free
    exact submit_of_free ((shrinks_sweep sweep).coherent coherent) free instant refuses

/-! ## One sweep after another -/

theorem lapsing_swept (tracker : Tracker) (first now : Instant) :
    (tracker.swept first).lapsing now =
      (tracker.lapsing now).filter (!·.isOverdue first tracker.timeout) := by
  have left : (tracker.swept first).inFlight.transactions =
      tracker.inFlight.transactions.filter (!·.isOverdue first tracker.timeout) :=
    transactions_spared tracker first
  have same : (tracker.swept first).timeout = tracker.timeout := rfl
  rw [lapsing, left, same, lapsing, List.filter_filter, List.filter_filter]
  exact List.filter_congr fun transaction _ => Bool.and_comm ..

/-- Two sweeps together find who is overdue at the later one. -/
theorem lapsing_append_perm (tracker : Tracker) (order : first.nanoseconds ≤ now.nanoseconds) :
    (tracker.lapsing first ++ (tracker.swept first).lapsing now).Perm (tracker.lapsing now) := by
  have early : tracker.lapsing first =
      (tracker.lapsing now).filter (·.isOverdue first tracker.timeout) := by
    rw [lapsing, lapsing, List.filter_filter]
    refine List.filter_congr fun transaction _ => ?_
    cases overdue : transaction.isOverdue first tracker.timeout with
    | false => rfl
    | true => exact (Transaction.isOverdue_of_le order overdue).symm
  rw [early, lapsing_swept]
  exact List.filter_append_perm _ _

theorem swept_swept (tracker : Tracker) (order : first.nanoseconds ≤ now.nanoseconds) :
    (tracker.swept first).swept now = tracker.swept now := by
  have entries : ((tracker.swept first).spared now).entries = (tracker.spared now).entries := by
    refine (List.filter_filter ..).trans (List.filter_congr fun entry _ => ?_)
    change (!entry.2.isOverdue now tracker.timeout && !entry.2.isOverdue first tracker.timeout) = _
    cases overdue : entry.2.isOverdue first tracker.timeout with
    | false => exact Bool.and_true _
    | true =>
        rw [Transaction.isOverdue_of_le order overdue]
        rfl
  have owed : ((tracker.swept first).spared now).owed = (tracker.spared now).owed := by
    refine (List.filter_filter ..).trans (List.filter_congr fun owed _ => ?_)
    have together := ((lapsing_append_perm tracker order).map (·.id)).contains_eq (a := owed.id)
    rw [List.map_append, List.contains_append] at together
    rw [← together, Bool.not_or, Bool.and_comm]
  exact congrArg (fun left => { tracker with inFlight := left }) (congrArg₂ InFlight.mk entries owed)

/-- Where nobody is overdue, nothing happens. -/
theorem Sweep.eq_of_lapsing_nil (sweep : Sweep tracker now expiry)
    (nobody : tracker.lapsing now = []) : expiry = ⟨tracker, [], []⟩ := by
  cases sweep with
  | @found found all =>
      rw [List.map_eq_nil_iff.mp ((map_overdue tracker now).trans nobody)] at all
      obtain rfl := all.eq_nil
      have same : tracker.inFlight.without [] = tracker.inFlight :=
        congrArg₂ InFlight.mk (List.filter_eq_self.mpr fun _ _ => rfl)
          (List.filter_eq_self.mpr fun _ _ => rfl)
      rw [lapseAll, same]
      rfl

theorem Sweep.again {again : Expiry} (sweep : Sweep tracker now expiry)
    (order : first.nanoseconds ≤ now.nanoseconds) (more : Sweep expiry.tracker first again) :
    again = ⟨expiry.tracker, [], []⟩ := by
  apply more.eq_of_lapsing_nil
  rw [sweep.tracker_eq, lapsing_swept, List.filter_eq_nil_iff]
  intro transaction lapses
  rw [Transaction.isOverdue_of_le order (List.mem_filter.mp lapses).2]
  exact Bool.false_ne_true

theorem Sweep.expired_append_perm {before after : Expiry} (early : Sweep tracker first before)
    (late : Sweep before.tracker now after) (sweep : Sweep tracker now expiry)
    (coherent : tracker.inFlight.Coherent tracker.lastId)
    (order : first.nanoseconds ≤ now.nanoseconds) :
    (before.expired ++ after.expired).Perm expiry.expired := by
  have kept := (shrinks_sweep early).coherent coherent
  have found := (early.expired_perm coherent).append (late.expired_perm kept)
  rw [early.tracker_eq, ← List.map_append] at found
  have together := (lapsing_append_perm tracker order).map (·.id)
  exact found.trans (together.trans (sweep.expired_perm coherent).symm)

/-- A run is one of the ways in which the sections of calls can follow each other. -/
theorem Run.exists_reachable {timeout : Duration} {history : History}
    (run : Run timeout history tracker) :
    ∃ shared, Shared.Reachable timeout shared ∧ shared.tracker = tracker ∧ shared.turn = none ∧
      shared.stage ⟨0⟩ = .idle := by
  induction run with
  | fresh => exact ⟨_, .fresh, rfl, rfl, rfl⟩
  | submit run command now refuses before =>
      obtain ⟨shared, reachable, rfl, free, idle⟩ := before
      obtain ⟨after, later, same, leaving⟩ :=
        reachable.submit_alone idle free command now refuses
      exact ⟨_, later.step (.leave leaving), same, rfl, Shared.stage_put_self ..⟩
  | receive run frame before =>
      obtain ⟨shared, reachable, rfl, free, idle⟩ := before
      exact ⟨_, reachable.step (.receive frame), rfl, free, idle⟩
  | sweep run sweep before =>
      obtain ⟨shared, reachable, rfl, free, idle⟩ := before
      exact ⟨_, reachable.step (.expire sweep), rfl, free, idle⟩

end Tracker

namespace Shared

open Tracker

variable {shared : Shared} {timeout : Duration}

/-- **Expiry is exact**, at any moment and any instant, and in whatever order a sweep finds those who
are overdue. It ends them and comes to what `EndsOverdue` says. Another sweep at an instant that is
not later does nothing; and one at a later instant leaves the same, and has ended the same
transactions, whether or not there was one before it. -/
theorem Reachable.expires_exactly (reachable : Reachable timeout shared) {now : Instant}
    {expiry : Expiry} (sweep : shared.tracker.Sweep now expiry) :
    EndsOverdue shared.tracker now expiry ∧
    (∀ earlier again, earlier.nanoseconds ≤ now.nanoseconds →
      expiry.tracker.Sweep earlier again → again = ⟨expiry.tracker, [], []⟩) ∧
    ∀ first before after, first.nanoseconds ≤ now.nanoseconds →
      shared.tracker.Sweep first before → before.tracker.Sweep now after →
        after.tracker = expiry.tracker ∧
          (before.expired ++ after.expired).Perm expiry.expired := by
  have coherent := reachable.orderly.accounted.coherent
  refine ⟨sweep.endsOverdue coherent, fun earlier again order more => sweep.again order more, ?_⟩
  intro first before after order early late
  refine ⟨?_, early.expired_append_perm late sweep coherent order⟩
  rw [late.tracker_eq, early.tracker_eq, sweep.tracker_eq, swept_swept _ order]

/-- A question is in flight when somebody asks another node, and while the transport has not answered
the time of both is up. A sweep finds the second before the first. -/
theorem Reachable.expires_exactly_while_offering :
    ∃ shared ticket frame expiry, Reachable ⟨10⟩ shared ∧
      shared.stage ⟨0⟩ = .registered ticket frame ∧ ticket.id = ⟨2⟩ ∧
      shared.tracker.Sweep ⟨16⟩ expiry ∧ expiry.expired = [⟨2⟩, ⟨1⟩] ∧
      EndsOverdue shared.tracker ⟨16⟩ expiry ∧
      expiry.tracker.expire ⟨-5⟩ = ⟨expiry.tracker, [], []⟩ ∧
      (shared.tracker.expire ⟨10⟩).expired = [⟨1⟩] ∧
      ((shared.tracker.expire ⟨10⟩).expired ++
        ((shared.tracker.expire ⟨10⟩).tracker.expire ⟨16⟩).expired).Perm [⟨2⟩, ⟨1⟩] := by
  have run := (@Run.fresh ⟨10⟩).submit (.query ⟨9⟩ .basic) ⟨0⟩ fun _ => none
  obtain ⟨⟨tracker, turn, stage, offers⟩, asked, same, free, idle⟩ := run.exists_reachable
  change tracker = _ at same
  subst same
  have entered := (asked.step (.call idle (.submit (.query ⟨5⟩ .version)))).step
    (.enter (stage_put_self ..) free)
  have offering := entered.step (@Step.register _ ⟨0⟩ _ ⟨6⟩ _ _ (stage_put_self ..) rfl)
  have backwards (tracker : Tracker) : tracker.Sweep ⟨16⟩
      (tracker.lapseAll (tracker.inFlight.overdue ⟨16⟩ tracker.timeout).reverse) :=
    .found (List.reverse_perm _)
  have expiry := Reachable.expires_exactly offering (backwards _)
  exact ⟨_, _, _, _, offering, stage_put_self .., rfl, backwards _, rfl, expiry.1,
    expiry.2.1 ⟨-5⟩ _ (by decide) (sweep_expire _ _), rfl,
    (expiry.2.2 ⟨10⟩ _ _ (by decide) (sweep_expire _ _) (sweep_expire _ _)).2⟩

end Shared

end ZWaveGateway
