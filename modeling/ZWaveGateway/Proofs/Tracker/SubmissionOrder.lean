import ZWaveGateway.Proofs.Tracker.Operations
import ZWaveGateway.Tracker.Shared

/-!
# Submissions in order

However the sections of calls, frames and sweeps follow each other, frames are written in the order
in which their transactions got their ids, and responses are owed in that order too. One call at a
time has the turn, from the registration of a transaction until the transport has taken its frame
or the registration was taken back; all that is in flight without having been written belongs to
that call. What comes in meanwhile only takes away from what is in flight
(`ZWaveGateway.Tracker.Shrinks`).

`ZWaveGateway.Shared.Accounted` is kept by every section, and
`ZWaveGateway.Shared.Reachable.submission_order` is read off it.
-/

namespace ZWaveGateway

open InFlight

/-! ## What frames and sweeps do to what is in flight -/

namespace Tracker

/-- Ids are left alone, and nothing is added to what is in flight or owed. -/
structure Shrinks (before after : Tracker) : Prop where
  lastId : after.lastId = before.lastId
  entries : after.inFlight.entries.Sublist before.inFlight.entries
  owed : after.inFlight.owed.Sublist before.inFlight.owed

variable {tracker after : Tracker}

theorem Shrinks.coherent (shrinks : Shrinks tracker after)
    (coherent : tracker.inFlight.Coherent tracker.lastId) :
    after.inFlight.Coherent after.lastId :=
  coherent.of_sublist shrinks.entries shrinks.owed (Nat.le_of_eq shrinks.lastId.symm)

theorem shrinks_receive (coherent : tracker.inFlight.Coherent tracker.lastId) (frame : Frame) :
    Shrinks tracker (tracker.receive frame).tracker := by
  have kept : (tracker.inFlight.claim frame).2.entries.Sublist tracker.inFlight.entries := by
    rw [entries_claim]
  have spent := owed_claim_sublist tracker.inFlight frame
  have outcome := received coherent frame
  generalize tracker.receive frame = receipt at outcome
  cases outcome with
  | passedOn useless => exact ⟨rfl, kept, spent⟩
  | completed waiting addressed judged => exact ⟨rfl, List.filter_sublist.trans kept, spent⟩
  | acknowledged waiting addressed judged => exact ⟨rfl, kept, spent⟩
  | malformed waiting addressed judged => exact ⟨rfl, kept, spent⟩
  | faulted waiting addressed judged => exact ⟨rfl, kept, spent⟩

theorem shrinks_sweep {now : Instant} {expiry : Expiry} (sweep : Sweep tracker now expiry) :
    Shrinks tracker expiry.tracker := by
  obtain ⟨-⟩ := sweep
  exact ⟨rfl, List.filter_sublist, List.filter_sublist⟩

end Tracker

namespace Shared

/-! ## The accounts of the holder of the turn -/

/-- The first ids that a tracker gives out. -/
def given (count : Nat) : List TransactionId :=
  (List.range count).map fun number => ⟨number + 1⟩

theorem given_succ (count : Nat) : given (count + 1) = given count ++ [⟨count + 1⟩] := by
  rw [given, List.range_succ, List.map_append]
  rfl

theorem pairwise_given (count : Nat) :
    (given count).Pairwise fun first second => first.number < second.number :=
  List.pairwise_map.mpr (List.pairwise_lt_range.imp Nat.succ_lt_succ)

theorem mem_given_iff {count : Nat} {id : TransactionId} :
    id ∈ given count ↔ 1 ≤ id.number ∧ id.number ≤ count := by
  rw [given, List.mem_map]
  constructor
  · rintro ⟨number, within, rfl⟩
    exact ⟨Nat.succ_pos number, List.mem_range.mp within⟩
  · rintro ⟨positive, within⟩
    refine ⟨id.number - 1, List.mem_range.mpr (by omega), ?_⟩
    rw [Nat.sub_add_cancel positive]

/-- What the tracker, the offers and the call whose turn it is have to do with each other.

Every id that was given out was offered, in order, or is still to be offered by that call. What was
written, and then what that call has not settled, comes in the order of ids; whatever is in flight
or owed is among it, and is owed in that order. -/
structure Accounted (tracker : Tracker) (offers : List Offer) (holding : Stage) : Prop where
  coherent : tracker.inFlight.Coherent tracker.lastId
  offered : Offer.ids offers ++ holding.unoffered.map (·.id) = given tracker.lastId
  ordered : (Offer.written offers ++ holding.unsettled.map (·.id)).Sublist (given tracker.lastId)
  live : ∀ id ∈ tracker.inFlight.ids, id ∈ Offer.written offers ++ holding.unsettled.map (·.id)
  owed : (tracker.inFlight.owed.map (·.id)).Sublist
    (Offer.written offers ++ holding.unsettled.map (·.id))
  keyed : ∀ ticket ∈ holding.unsettled, ∀ transaction ∈ tracker.inFlight.transactions,
    transaction.id = ticket.id → transaction.key = ticket.key

namespace Accounted

variable {tracker : Tracker} {offers : List Offer} {holding : Stage} {ticket : Ticket}
  {frame : Frame} {words : String}

theorem of_same (accounted : Accounted tracker offers holding) {next : Stage}
    (unoffered : next.unoffered = holding.unoffered)
    (unsettled : next.unsettled = holding.unsettled) : Accounted tracker offers next := by
  obtain ⟨coherent, offered, ordered, live, owed, keyed⟩ := accounted
  rw [← unoffered] at offered
  rw [← unsettled] at ordered live owed keyed
  exact ⟨coherent, offered, ordered, live, owed, keyed⟩

theorem shrinks (accounted : Accounted tracker offers holding) {after : Tracker}
    (shrinks : tracker.Shrinks after) : Accounted after offers holding where
  coherent := shrinks.coherent accounted.coherent
  offered := shrinks.lastId ▸ accounted.offered
  ordered := shrinks.lastId ▸ accounted.ordered
  live := fun id waiting =>
    accounted.live id (((shrinks.entries.map _).map _).subset waiting)
  owed := (shrinks.owed.map _).trans accounted.owed
  keyed := fun ticket pending transaction waiting =>
    accounted.keyed ticket pending transaction ((shrinks.entries.map _).subset waiting)

/-- A registration gives out the next id, at the end of both lists. -/
theorem register {errand : Errand} (accounted : Accounted tracker offers (.admitted errand))
    {command : Command} {now : Instant} {after : Tracker}
    (taken : tracker.register command now = .ok (ticket, after)) (frame : Frame) :
    Accounted after offers (.registered ticket frame) := by
  by_cases used : tracker.inFlight.contains (Key.ofCommand command) = true
  · rw [Tracker.register_of_taken used] at taken
    cases taken
  have free := Bool.eq_false_iff.mpr used
  rw [Tracker.register_of_free free] at taken
  cases taken
  obtain ⟨coherent, offered, ordered, live, owed, -⟩ := accounted
  simp only [Stage.unoffered, Stage.unsettled, List.map_nil, List.append_nil]
    at offered ordered live owed
  refine ⟨coherent.add free, ?_, ?_, ?_, ?_, ?_⟩
  · exact (congrArg (· ++ _) offered).trans (given_succ _).symm
  · exact given_succ _ ▸ ordered.append (.refl _)
  · intro id waiting
    rw [ids_add] at waiting
    rcases List.mem_append.mp waiting with before | new
    · exact List.mem_append_left _ (live id before)
    · exact List.mem_append_right _ new
  · rw [InFlight.add, List.map_append]
    exact owed.append (.refl _)
  · intro other pending transaction waiting same
    obtain rfl := List.mem_singleton.mp pending
    rw [transactions_add] at waiting
    rcases List.mem_append.mp waiting with before | new
    · -- What was in flight has an id that was given out before.
      have known := coherent.known transaction before
      rw [same] at known
      exact (Nat.not_succ_le_self _ known).elim
    · rw [List.mem_singleton.mp new]
      rfl

/-- The transport takes the frame: from now on it is written. -/
theorem accept (accounted : Accounted tracker offers (.registered ticket frame))
    (result : Except RequestError (Option Ticket)) :
    Accounted tracker (offers ++ [⟨some ticket.id, frame, true⟩]) (.leaving result) := by
  obtain ⟨coherent, offered, ordered, live, owed, -⟩ := accounted
  constructor
  · exact coherent
  · rw [Offer.ids_concat]
    exact (List.append_nil _).trans offered
  · rw [Offer.written_of_taken]
    exact (List.append_nil _).symm ▸ ordered
  · rw [Offer.written_of_taken]
    exact (List.append_nil _).symm ▸ live
  · rw [Offer.written_of_taken]
    exact (List.append_nil _).symm ▸ owed
  · intro other pending
    exact (List.not_mem_nil pending).elim

/-- The transport refuses the frame: it was offered, but is not written. -/
theorem refuse (accounted : Accounted tracker offers (.registered ticket frame)) (words : String) :
    Accounted tracker (offers ++ [⟨some ticket.id, frame, false⟩]) (.refused ticket words) := by
  obtain ⟨coherent, offered, ordered, live, owed, keyed⟩ := accounted
  rw [← Offer.written_of_refused] at ordered live owed
  refine ⟨coherent, ?_, ordered, live, owed, keyed⟩
  rw [Offer.ids_concat]
  exact (List.append_nil _).trans offered

/-- A frame without a transaction makes no difference. -/
theorem offerUntracked (accounted : Accounted tracker offers holding) (frame : Frame)
    (taken : Bool) : Accounted tracker (offers ++ [⟨none, frame, taken⟩]) holding := by
  obtain ⟨coherent, offered, ordered, live, owed, keyed⟩ := accounted
  rw [← Offer.written_of_untracked] at ordered live owed
  refine ⟨coherent, ?_, ordered, live, owed, keyed⟩
  rw [Offer.ids_concat]
  exact (congrArg (· ++ _) (List.append_nil _)).trans offered

/-- A rollback takes away what is left of its own transaction, and nothing else. -/
theorem discards (accounted : Accounted tracker offers (.refused ticket words)) :
    (tracker.rollBack ticket).inFlight.entries =
        tracker.inFlight.entries.filter (·.2.id != ticket.id) ∧
      (tracker.rollBack ticket).inFlight.owed =
        tracker.inFlight.owed.filter (·.id != ticket.id) :=
  accounted.coherent.discard (accounted.keyed ticket List.mem_cons_self)

theorem rollBack (accounted : Accounted tracker offers (.refused ticket words))
    (result : Except RequestError (Option Ticket)) :
    Accounted (tracker.rollBack ticket) offers (.leaving result) := by
  obtain ⟨entries, owed⟩ := accounted.discards
  have fewer : tracker.Shrinks (tracker.rollBack ticket) :=
    ⟨rfl, entries ▸ List.filter_sublist, owed ▸ List.filter_sublist⟩
  have written : Offer.written offers ++ (Stage.leaving result).unsettled.map (·.id) =
      Offer.written offers := List.append_nil _
  constructor
  · exact fewer.coherent accounted.coherent
  · exact accounted.offered
  · rw [written]
    exact (List.sublist_append_left _ _).trans accounted.ordered
  · -- All that was in flight without being written was the transaction itself.
    intro id waiting
    rw [written]
    obtain ⟨transaction, listed, rfl⟩ := mem_ids_iff.mp waiting
    obtain ⟨entry, member, rfl⟩ := List.mem_map.mp listed
    obtain ⟨before, spared⟩ := List.mem_filter.mp (entries ▸ member)
    have known := mem_ids_iff.mpr ⟨entry.2, List.mem_map_of_mem before, rfl⟩
    apply (List.mem_append.mp (accounted.live _ known)).resolve_right
    exact fun own => bne_iff_ne.mp spared (List.mem_singleton.mp own)
  · have spared : (Offer.written offers ++ [ticket.id]).filter (· != ticket.id) =
        (Offer.written offers).filter (· != ticket.id) := by
      rw [List.filter_append, List.filter_cons_of_neg (by simp), List.filter_nil, List.append_nil]
    have fits := accounted.owed.filter (· != ticket.id)
    rw [List.filter_map] at fits
    rw [written, owed]
    exact fits.trans (spared ▸ List.filter_sublist)
  · intro other pending
    exact (List.not_mem_nil pending).elim

end Accounted

/-! ## Every section keeps the accounts -/

/-- Who has the turn has it alone, and the accounts are in order. -/
structure Orderly (shared : Shared) : Prop where
  turns : ∀ caller, (shared.stage caller).hasTurn = true ↔ shared.turn = some caller
  accounted : Accounted shared.tracker shared.offers shared.holding

namespace Orderly

variable {shared : Shared} {caller : Caller} {stage next : Stage}

theorem turn_of (orderly : Orderly shared) (reached : shared.stage caller = stage)
    (holds : stage.hasTurn = true) : shared.turn = some caller :=
  (orderly.turns caller).mp (reached ▸ holds)

/-- Whether a caller has the turn, the others have it as before. -/
theorem turns_put (orderly : Orderly shared)
    {turn : Option Caller} (own : next.hasTurn = true ↔ turn = some caller)
    (others : ∀ other, other ≠ caller → (shared.turn = some other ↔ turn = some other))
    (other : Caller) :
    (({ shared with turn }.put caller next).stage other).hasTurn = true ↔ turn = some other := by
  by_cases same : other = caller
  · rw [same, stage_put_self]
    exact own
  · rw [stage_put_of_ne same]
    exact (orderly.turns other).trans (others other same)

/-- What the call that has the turn has to account for is what its stage says. -/
theorem accounted_at (orderly : Orderly shared) (reached : shared.stage caller = stage)
    (holds : stage.hasTurn = true) : Accounted shared.tracker shared.offers stage := by
  rw [← reached, ← holding_of_turn (orderly.turn_of reached holds)]
  exact orderly.accounted

/-- The call whose turn it is goes on, keeps the turn, and accounts for what it does. -/
theorem advance (orderly : Orderly shared) (reached : shared.stage caller = stage)
    (holds : stage.hasTurn = true) (goesOn : next.hasTurn = true) {tracker : Tracker}
    {offers : List Offer}
    (accounts : Accounted shared.tracker shared.offers stage → Accounted tracker offers next) :
    Orderly ({ shared with tracker, offers }.put caller next) := by
  have turn := orderly.turn_of reached holds
  have still : { shared with tracker, offers }.turn = some caller := turn
  refine ⟨orderly.turns_put (iff_of_true goesOn turn) fun _ _ => .rfl, ?_⟩
  rw [holding_put_self still]
  exact accounts (orderly.accounted_at reached holds)

theorem step {after : Shared} (orderly : Orderly shared) (step : Step shared after) :
    Orderly after := by
  -- Calling, entering and leaving change whose turn it is, but have nothing to account for.
  cases step with
  | @call caller idle errand =>
      have other : shared.turn ≠ some caller := by
        intro mine
        have holds := (orderly.turns caller).mpr mine
        rw [idle] at holds
        cases holds
      refine ⟨orderly.turns_put (iff_of_false Bool.false_ne_true other) fun _ _ => .rfl, ?_⟩
      rw [holding_put_of_ne other]
      exact orderly.accounted
  | @enter caller errand waits free =>
      have idle : shared.holding = .idle := by
        rw [holding, free]
        rfl
      refine ⟨orderly.turns_put (iff_of_true rfl rfl) fun other different => ?_, ?_⟩
      · rw [free]
        exact iff_of_false (Option.some_ne_none other).symm
          fun same => different (Option.some.inj same).symm
      · rw [holding_put_self rfl]
        exact (idle ▸ orderly.accounted).of_same rfl rfl
  | decline admitted declined =>
      exact orderly.advance admitted rfl rfl fun accounted => accounted.of_same rfl rfl
  | register admitted taken =>
      exact orderly.advance admitted rfl rfl fun accounted => accounted.register taken _
  | accept registered =>
      exact orderly.advance registered rfl rfl fun accounted => accounted.accept _
  | refuse registered words =>
      exact orderly.advance registered rfl rfl fun accounted => accounted.refuse words
  | rollBack refused =>
      exact orderly.advance refused rfl rfl fun accounted => accounted.rollBack _
  | acceptUntracked admitted =>
      refine orderly.advance admitted rfl rfl fun accounted => ?_
      exact (accounted.offerUntracked _ true).of_same rfl rfl
  | refuseUntracked admitted words =>
      refine orderly.advance admitted rfl rfl fun accounted => ?_
      exact (accounted.offerUntracked _ false).of_same rfl rfl
  | @leave caller result done =>
      have turn := orderly.turn_of done rfl
      have nobody (other : Caller) : none ≠ some other := (Option.some_ne_none other).symm
      refine ⟨orderly.turns_put (iff_of_false Bool.false_ne_true (nobody caller))
        fun other different => ?_, ?_⟩
      · rw [turn]
        exact iff_of_false (fun same => different (Option.some.inj same).symm) (nobody other)
      · exact (orderly.accounted_at done rfl).of_same rfl rfl
  | receive frame =>
      have shrinks := Tracker.shrinks_receive orderly.accounted.coherent frame
      exact ⟨orderly.turns, orderly.accounted.shrinks shrinks⟩
  | expire sweep =>
      have shrinks := Tracker.shrinks_sweep sweep
      exact ⟨orderly.turns, orderly.accounted.shrinks shrinks⟩

end Orderly

theorem Reachable.orderly {timeout : Duration} {shared : Shared}
    (reachable : Reachable timeout shared) : Orderly shared := by
  induction reachable with
  | fresh =>
      refine ⟨fun caller => iff_of_false Bool.false_ne_true (Option.some_ne_none caller).symm,
        coherent_empty 0, rfl, .refl _, ?_, .refl _, ?_⟩
      · intro id waiting
        exact (List.not_mem_nil waiting).elim
      · intro ticket pending
        exact (List.not_mem_nil pending).elim
  | step reachable step before => exact before.step step

/-! ## The order of submissions -/

/-- What holds of a shared tracker at any moment.

The frames of transactions were written in the order of their ids, and responses are owed in that
order; what is in flight or owed without having been written is the one transaction of the call that
has the turn. Whatever got an id was offered to the transport, except for one transaction at most.
A rollback takes away its own transaction as far as it is still there, and nothing else, and what
was refused never comes back. -/
structure InOrder (shared : Shared) : Prop where
  written : (Offer.written shared.offers ++ shared.unsettledIds).Pairwise
    fun first second => first.number < second.number
  owed : (shared.tracker.inFlight.owed.map (·.id)).Sublist
    (Offer.written shared.offers ++ shared.unsettledIds)
  live : ∀ id ∈ shared.tracker.inFlight.ids, id ∈ Offer.written shared.offers ++ shared.unsettledIds
  offered : ∀ id : TransactionId, 1 ≤ id.number → id.number ≤ shared.tracker.lastId →
    id ∈ Offer.ids shared.offers ∨
      ∃ caller ticket frame, shared.stage caller = .registered ticket frame ∧ ticket.id = id
  alone : ∀ caller other, (shared.stage caller).hasTurn = true →
    (shared.stage other).hasTurn = true → caller = other
  rollback : ∀ caller ticket words, shared.stage caller = .refused ticket words →
    (shared.tracker.rollBack ticket).inFlight.entries =
        shared.tracker.inFlight.entries.filter (·.2.id != ticket.id) ∧
      (shared.tracker.rollBack ticket).inFlight.owed =
        shared.tracker.inFlight.owed.filter (·.id != ticket.id)
  gone : ∀ id frame, ⟨some id, frame, false⟩ ∈ shared.offers → id ∉ shared.unsettledIds →
    id ∉ Offer.written shared.offers ∧ id ∉ shared.tracker.inFlight.ids ∧
      id ∉ shared.tracker.inFlight.owed.map (·.id)

private theorem exists_registered {shared : Shared} {ticket : Ticket}
    (pending : ticket ∈ shared.holding.unoffered) :
    ∃ caller frame, shared.stage caller = .registered ticket frame := by
  cases turn : shared.turn with
  | none =>
      rw [holding, turn] at pending
      exact (List.not_mem_nil pending).elim
  | some caller =>
      rw [holding_of_turn turn] at pending
      cases reached : shared.stage caller with
      | registered other frame =>
          rw [reached] at pending
          obtain rfl := List.mem_singleton.mp pending
          exact ⟨caller, frame, reached⟩
      | _ =>
          rw [reached] at pending
          exact (List.not_mem_nil pending).elim

/-- What was refused was not written: no transaction is offered twice. -/
private theorem not_mem_written {offers : List Offer} (nodup : (Offer.ids offers).Nodup)
    {id : TransactionId} {frame : Frame} (refused : ⟨some id, frame, false⟩ ∈ offers) :
    id ∉ Offer.written offers := by
  obtain ⟨before, after, rfl⟩ := List.append_of_mem refused
  have parts : (Offer.ids before ++ id :: Offer.ids after).Nodup := by
    rwa [Offer.ids, List.filterMap_append] at nodup
  have once : id ∉ Offer.ids before ++ Offer.ids after :=
    (List.nodup_cons.mp (List.nodup_middle.mp parts)).1
  intro written
  apply once
  rw [Offer.written, List.filter_append, Offer.ids, List.filterMap_append] at written
  apply List.mem_append.mpr
  apply (List.mem_append.mp written).imp
  · intro earlier
    exact (List.filter_sublist.filterMap _).subset earlier
  · intro later
    exact (List.filter_sublist.filterMap _).subset later

/-- **Frames are written in the order of their ids.** However the sections of any number of calls,
frames from the controller and sweeps follow each other, submissions stay in order as `InOrder`
says. -/
theorem Reachable.submission_order {timeout : Duration} {shared : Shared}
    (reachable : Reachable timeout shared) : InOrder shared := by
  have orderly := reachable.orderly
  have accounted := orderly.accounted
  refine ⟨(pairwise_given _).sublist accounted.ordered, accounted.owed, accounted.live, ?_, ?_, ?_,
    ?_⟩
  · intro id positive within
    have listed := mem_given_iff.mpr ⟨positive, within⟩
    rw [← accounted.offered] at listed
    refine (List.mem_append.mp listed).imp_right fun pending => ?_
    obtain ⟨ticket, waits, rfl⟩ := List.mem_map.mp pending
    obtain ⟨caller, frame, registered⟩ := exists_registered waits
    exact ⟨caller, ticket, frame, registered, rfl⟩
  · intro caller other first second
    have one := (orderly.turns caller).mp first
    have two := (orderly.turns other).mp second
    exact Option.some.inj (one.symm.trans two)
  · intro caller ticket words refused
    exact (orderly.accounted_at refused rfl).discards
  · intro id frame refused settled
    have distinct : (given shared.tracker.lastId).Nodup :=
      (pairwise_given _).imp fun smaller same => Nat.ne_of_lt smaller (congrArg _ same)
    rw [← accounted.offered] at distinct
    have unwritten := not_mem_written (distinct.sublist (List.sublist_append_left _ _)) refused
    have outside : id ∉ Offer.written shared.offers ++ shared.unsettledIds :=
      fun either => (List.mem_append.mp either).elim unwritten settled
    exact ⟨unwritten, fun waiting => outside (accounted.live id waiting),
      fun waiting => outside (accounted.owed.subset waiting)⟩

/-- A question is in flight when somebody else asks for the version; the controller answers that
before the transport refuses the frame, and there is nothing left to take back. -/
theorem Reachable.submission_order_of_answered :
    ∃ shared, Reachable ⟨10⟩ shared ∧ Offer.written shared.offers = [⟨1⟩] ∧
      shared.stage ⟨1⟩ = .refused ⟨⟨2⟩, Key.ofCommand .controllerVersion⟩ "busy" ∧
      shared.tracker.inFlight.ids = [⟨1⟩] ∧ InOrder shared := by
  have asking := (@Reachable.fresh ⟨10⟩).step
    (@Step.call _ ⟨0⟩ rfl (.submit (.query ⟨9⟩ .basic)))
  have registered := (asking.step (@Step.enter _ ⟨0⟩ _ rfl rfl)).step
    (@Step.register _ ⟨0⟩ _ ⟨0⟩ _ _ rfl rfl)
  have waiting := registered.step (@Step.call _ ⟨1⟩ rfl (.submit .controllerVersion))
  have left := (waiting.step (@Step.accept _ ⟨0⟩ _ _ rfl)).step (@Step.leave _ ⟨0⟩ _ rfl)
  have offering := (left.step (@Step.enter _ ⟨1⟩ _ rfl rfl)).step
    (@Step.register _ ⟨1⟩ _ ⟨1⟩ _ _ rfl rfl)
  have answered := offering.step
    (.receive (.inbound .getVersion .response none [90, 0, 0, 0, 0, 0, 0, 0, 0, 0, 0, 0, 1]))
  have refused := answered.step (@Step.refuse _ ⟨1⟩ _ _ rfl "busy")
  exact ⟨_, refused, by decide +kernel, rfl, by decide +kernel,
    Reachable.submission_order refused⟩

end Shared

end ZWaveGateway
