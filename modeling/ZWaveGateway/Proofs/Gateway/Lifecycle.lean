import ZWaveGateway.Gateway.Operation
import ZWaveGateway.Proofs.Event.Hearing
import ZWaveGateway.Proofs.Tracker.Endings

/-!
# The life of a transaction

What a listener, the holders of handles and a caller of the tracker see of a transaction. A run of
a gateway submits commands, takes frames in and lets time pass, while the transport may refuse what
it likes and handles may be given up; the listener is registered all the while.

`ZWaveGateway.Gateway.Run.lifecycle` says that they see the same: every transaction that was
accepted is in flight until the listener is told of its end, once, and its handle is settled in the
same operation with the outcome that the listener was told.
-/

namespace ZWaveGateway.Gateway

variable {gateway : Gateway} {listener : ListenerId}

/-- The ends that a listener has been told of, in order: one for every event told to it that names
a transaction. -/
def endings (gateway : Gateway) (listener : ListenerId) : List Ending :=
  (gateway.record.deliveries.filter (·.listener == listener)).filterMap
    (·.event.ending? gateway.tracker.timeout)

private theorem endings_eq (gateway : Gateway) (listener : ListenerId) :
    gateway.endings listener =
      (gateway.record.deliveries.filter (Delivery.endsFor listener)).filterMap
        (·.event.ending? gateway.tracker.timeout) := by
  rw [endings, List.filterMap_filter, List.filterMap_filter]
  congr 1
  funext delivery
  rw [Delivery.endsFor, Event.ended?_eq gateway.tracker.timeout, Option.isSome_map]
  cases delivery.listener == listener with
  | false => rfl
  | true => cases delivery.event.ending? gateway.tracker.timeout <;> rfl

/-- A gateway with a fresh tracker, of which nothing has been seen. -/
structure Untouched (gateway : Gateway) : Prop where
  tracker : gateway.tracker = Tracker.fresh gateway.tracker.timeout
  handles : gateway.handles = []
  record : gateway.record = Record.blank

/-- A run of a gateway: its history, the handles that were given up while they were held, and the
gateway it leads to. -/
inductive Run (start : Gateway) : History → List TransactionId → Gateway → Prop where
  | start : Run start [] [] start
  | refuse {history : History} {abandoned : List TransactionId} {gateway : Gateway}
      (run : Run start history abandoned gateway) (words : Option String) :
      Run start history abandoned (gateway.refuseWith words)
  | submit {history : History} {abandoned : List TransactionId} {gateway : Gateway}
      (run : Run start history abandoned gateway) (command : Command) (now : Instant) :
      Run start
        (.submitted command (gateway.tracker.submit command now gateway.outlet.refuses) :: history)
        abandoned (gateway.submit command now).1
  | receive {history : History} {abandoned : List TransactionId} {gateway : Gateway}
      (run : Run start history abandoned gateway) (frame : Frame) :
      Run start (.received frame (gateway.tracker.receive frame) :: history) abandoned
        (gateway.receive frame).1
  | sweep {history : History} {abandoned : List TransactionId} {gateway : Gateway}
      (run : Run start history abandoned gateway) {now : Instant} {expiry : Expiry}
      (sweep : gateway.tracker.Sweep now expiry) :
      Run start (.expired expiry :: history) abandoned (gateway.afterSweep expiry).1
  | drop {history : History} {abandoned : List TransactionId} {gateway : Gateway}
      (run : Run start history abandoned gateway) (id : TransactionId) :
      Run start history (if gateway.handles.contains id then id :: abandoned else abandoned)
        (gateway.dropHandle id).1

/-! ## Performing effects -/

/-- What performing effects does, as far as the listener and the handles go. -/
structure Performs (listener : ListenerId) (before : Gateway) (effects : List Effect)
    (after : Gateway) : Prop where
  tracker : after.tracker = before.tracker
  heard : after.audience.HeardBy listener
  told : after.endings listener =
    before.endings listener ++ Effect.endings before.tracker.timeout effects
  held : ∀ id, id ∈ after.handles ↔
    id ∈ before.handles ∧ id ∉ (Effect.settlements effects).map (·.1)
  outcomes : after.record.outcomes =
    before.record.outcomes ++ (Effect.settlements effects).filter (·.1 ∈ before.handles)

private theorem Performs.of_nothing (heard : gateway.audience.HeardBy listener) :
    Performs listener gateway [] gateway where
  tracker := rfl
  heard := heard
  told := (List.append_nil _).symm
  held := fun _ => (and_iff_left List.not_mem_nil).symm
  outcomes := (List.append_nil _).symm

/-- Effects are performed one after the other; a handle that is settled first is not there to be
settled again. -/
private theorem Performs.append {between after : Gateway} {first rest : List Effect}
    (before : Performs listener gateway first between)
    (later : Performs listener between rest after)
    (distinct : ((Effect.settlements (first ++ rest)).map (·.1)).Nodup) :
    Performs listener gateway (first ++ rest) after := by
  have split : Effect.settlements (first ++ rest) =
      Effect.settlements first ++ Effect.settlements rest :=
    List.filterMap_append
  rw [split, List.map_append] at distinct
  constructor
  · exact later.tracker.trans before.tracker
  · exact later.heard
  · rw [later.told, before.told, before.tracker, Effect.endings, Effect.endings, Effect.endings,
      List.filterMap_append, List.append_assoc]
  · intro id
    rw [later.held, before.held, split, List.map_append, List.mem_append, not_or, and_assoc]
  · have still : (Effect.settlements rest).filter (·.1 ∈ between.handles) =
        (Effect.settlements rest).filter (·.1 ∈ gateway.handles) := by
      refine List.filter_congr fun settled member => decide_eq_decide.mpr ?_
      refine (before.held settled.1).trans (and_iff_left fun again => ?_)
      exact (List.nodup_append.mp distinct).2.2 _ again _ (List.mem_map_of_mem member) rfl
    rw [later.outcomes, before.outcomes, split, List.filter_append, List.append_assoc, still]

private theorem performs_log (heard : gateway.audience.HeardBy listener) (line : LogLine) :
    Performs listener gateway [.log line] (gateway.perform (.log line)) := by
  obtain ⟨tracker, kept, told, held, outcomes⟩ := Performs.of_nothing heard
  exact ⟨tracker, kept, told, held, outcomes⟩

private theorem performs_tell (heard : gateway.audience.HeardBy listener) (event : Event) :
    Performs listener gateway [.tell event] (gateway.perform (.tell event)) := by
  obtain ⟨kept, told⟩ := heard.heard_announce event
  obtain ⟨-, -, -, held, outcomes⟩ := Performs.of_nothing heard
  refine ⟨rfl, kept, ?_, held, outcomes⟩
  rw [endings_eq, endings_eq]
  change ((gateway.record.deliveries ++ (gateway.audience.announce event).2.2).filter
    (Delivery.endsFor listener)).filterMap (·.event.ending? gateway.tracker.timeout) = _
  rw [List.filter_append, List.filterMap_append, told, Event.ended?_eq gateway.tracker.timeout,
    Effect.endings, List.filterMap_cons, Effect.ending?]
  cases ends : event.ending? gateway.tracker.timeout with
  | none => rfl
  | some ending => simp only [Option.map_some, Option.isSome_some, ↓reduceIte,
      List.filterMap_nil, List.filterMap_cons, ends]

private theorem performs_settle (heard : gateway.audience.HeardBy listener) (id : TransactionId)
    (outcome : Outcome) :
    Performs listener gateway [.settle id outcome] (gateway.perform (.settle id outcome)) := by
  change Performs _ _ _ (gateway.settle id outcome)
  have alone {other : TransactionId} :
      other ∈ (Effect.settlements [.settle id outcome]).map (·.1) ↔ other = id :=
    List.mem_singleton
  have settled : Effect.settlements [.settle id outcome] = [(id, outcome)] := rfl
  by_cases holds : id ∈ gateway.handles
  · rw [settle, if_pos (List.contains_iff_mem.mpr holds)]
    refine ⟨rfl, heard, (List.append_nil _).symm, fun other => ?_, ?_⟩
    · rw [List.mem_filter, bne_iff_ne, alone]
    · simp only [settled, List.filter_cons, holds, decide_true, ↓reduceIte, List.filter_nil]
  · rw [settle, if_neg fun found => holds (List.contains_iff_mem.mp found)]
    refine ⟨rfl, heard, (List.append_nil _).symm, fun other => ?_, ?_⟩
    · rw [alone]
      refine (and_iff_left_of_imp fun member => ?_).symm
      rintro rfl
      exact holds member
    · simp only [settled, List.filter_cons, holds, decide_false, Bool.false_eq_true, ↓reduceIte,
        List.filter_nil, List.append_nil]

/-- Performing effects in order, when no handle is settled twice. -/
theorem performs_all (heard : gateway.audience.HeardBy listener) (effects : List Effect)
    (distinct : ((Effect.settlements effects).map (·.1)).Nodup) :
    Performs listener gateway effects (gateway.performAll effects) := by
  induction effects generalizing gateway with
  | nil => exact .of_nothing heard
  | cons effect rest later =>
      have apart : ((Effect.settlements rest).map (·.1)).Nodup :=
        distinct.sublist (((List.sublist_cons_self effect rest).filterMap _).map _)
      have first : Performs listener gateway [effect] (gateway.perform effect) := by
        cases effect with
        | log line => exact performs_log heard line
        | tell event => exact performs_tell heard event
        | settle id outcome => exact performs_settle heard id outcome
      exact first.append (later first.heard apart) distinct

/-! ## Runs -/

variable {start : Gateway} {history : History} {abandoned : List TransactionId}
  {timeout : Duration}

/-- What can be seen of a gateway follows from its history and from the handles that were given up:
the listener has been told what the history tells, and of the handles that were not given up, those
of transactions in flight are open and the others settled. -/
structure Reflects (timeout : Duration) (listener : ListenerId) (history : History)
    (abandoned : List TransactionId) (gateway : Gateway) : Prop where
  tracked : Tracker.Run timeout history gateway.tracker
  heard : gateway.audience.HeardBy listener
  told : gateway.endings listener = history.endings timeout
  held : ∀ id, id ∈ gateway.handles ↔ id ∈ gateway.tracker.inFlight.ids ∧ id ∉ abandoned
  resolved : gateway.record.outcomes =
    ((history.endings timeout).filter (·.id ∉ abandoned)).map Ending.settlement
  known : ∀ id ∈ abandoned, id ∈ history.acceptedIds

/-- An occurrence has been performed: its effects have, and the handle that it gave out is held. -/
private structure Performed (listener : ListenerId) (before : Gateway) (next : Tracker)
    (occurrence : Occurrence) (after : Gateway) : Prop where
  tracker : after.tracker = next
  heard : after.audience.HeardBy listener
  told : after.endings listener =
    before.endings listener ++ occurrence.endings before.tracker.timeout
  held : ∀ id, id ∈ after.handles ↔
    (id ∈ before.handles ∧ id ∉ (Effect.settlements occurrence.effects).map (·.1)) ∨
      id ∈ occurrence.accepted.map (·.1)
  outcomes : after.record.outcomes =
    before.record.outcomes ++
      (Effect.settlements occurrence.effects).filter (·.1 ∈ before.handles)

/-- What was accepted last was never accepted before. -/
private theorem fresh_of_accepted {tracker : Tracker} {occurrence : Occurrence}
    (run : Tracker.Run timeout (occurrence :: history) tracker) {id : TransactionId}
    (accepted : id ∈ occurrence.accepted.map (·.1)) : id ∉ history.acceptedIds := by
  have nodup := run.accounts.nodup
  rw [History.acceptedIds_cons] at nodup
  exact fun before => (List.nodup_append.mp nodup).2.2 id before id accepted rfl

private theorem Reflects.step (reflects : Reflects timeout listener history abandoned gateway)
    {occurrence : Occurrence} {next : Tracker} {after : Gateway}
    (run : Tracker.Run timeout (occurrence :: history) next)
    (concludes : Tracker.Concludes gateway.tracker occurrence next)
    (performed : Performed listener gateway next occurrence after) :
    Reflects timeout listener (occurrence :: history) abandoned after := by
  have accounts := reflects.tracked.accounts
  have same : gateway.tracker.timeout = timeout := reflects.tracked.timeout_eq
  have waited {id : TransactionId} (ends : id ∈ occurrence.ended) :
      id ∈ gateway.tracker.inFlight.ids := by
    rw [← concludes.ended] at ends
    obtain ⟨ending, member, rfl⟩ := List.mem_map.mp ends
    obtain ⟨transaction, waiting, named, -⟩ := concludes.keyed ending member
    exact InFlight.mem_ids_iff.mpr ⟨transaction, waiting, named.symm⟩
  constructor
  · exact performed.tracker ▸ run
  · exact performed.heard
  · rw [performed.told, reflects.told, same, History.endings_cons]
  · intro id
    rw [performed.held, reflects.held, concludes.settled_ids, performed.tracker,
      run.accounts.mem_ids_iff, accounts.mem_ids_iff, History.acceptedIds_cons,
      History.ended_cons, List.mem_append, List.mem_append, not_or]
    constructor
    · rintro (⟨⟨⟨accepted, live⟩, kept⟩, spared⟩ | latest)
      · exact ⟨⟨.inl accepted, live, spared⟩, kept⟩
      · have fresh := fresh_of_accepted run latest
        refine ⟨⟨.inr latest, fun before => fresh ?_, fun ends => fresh ?_⟩,
          fun gone => fresh ?_⟩
        · exact accounts.balanced.mem_iff.mpr (List.mem_append_right _ before)
        · exact (accounts.mem_ids_iff.mp (waited ends)).1
        · exact reflects.known id gone
    · rintro ⟨⟨accepted | latest, live, spared⟩, kept⟩
      · exact .inl ⟨⟨⟨accepted, live⟩, kept⟩, spared⟩
      · exact .inr latest
  · have chosen : (occurrence.endings timeout).filter (·.id ∈ gateway.handles) =
        (occurrence.endings timeout).filter (·.id ∉ abandoned) := by
      refine List.filter_congr fun ending member => decide_eq_decide.mpr ?_
      refine (reflects.held ending.id).trans (and_iff_right (waited ?_))
      rw [← concludes.ended, same]
      exact List.mem_map_of_mem member
    rw [performed.outcomes, reflects.resolved, concludes.settled, same, History.endings_cons,
      List.filter_append, List.map_append, ← chosen, List.filter_map]
    rfl
  · intro id gone
    rw [History.acceptedIds_cons]
    exact List.mem_append_left _ (reflects.known id gone)

/-- No occurrence of a run settles a handle twice. -/
private theorem distinct_settlements {before after : Tracker} {occurrence : Occurrence}
    (run : Tracker.Run timeout (occurrence :: history) after)
    (concludes : Tracker.Concludes before occurrence after) :
    ((Effect.settlements occurrence.effects).map (·.1)).Nodup := by
  have nodup := (List.nodup_append.mp run.accounts.parts_nodup).2.1
  rw [History.ended_cons] at nodup
  rw [concludes.settled_ids]
  exact (List.nodup_append.mp nodup).2.1

/-- Two gateways differ at most in the frames, the log and the bytes that they let out. -/
private structure SameView (first second : Gateway) : Prop where
  tracker : first.tracker = second.tracker
  audience : first.audience = second.audience
  handles : first.handles = second.handles
  deliveries : first.record.deliveries = second.record.deliveries
  outcomes : first.record.outcomes = second.record.outcomes

private theorem sameView_refl (gateway : Gateway) : SameView gateway gateway :=
  ⟨rfl, rfl, rfl, rfl, rfl⟩

private theorem sameView_putOnLink (gateway : Gateway) (frames : List Frame) :
    SameView (gateway.putOnLink frames) gateway := by
  unfold putOnLink
  split
  · exact sameView_refl gateway
  · exact ⟨rfl, rfl, rfl, rfl, rfl⟩

private theorem sameView_carry (gateway : Gateway) (frames : List Frame) :
    SameView (gateway.carry frames) gateway := by
  unfold carry
  split
  · obtain ⟨tracker, audience, handles, deliveries, outcomes⟩ := sameView_putOnLink
      { gateway with record.sent := gateway.record.sent ++ frames } frames
    exact ⟨tracker, audience, handles, deliveries, outcomes⟩
  · exact ⟨rfl, rfl, rfl, rfl, rfl⟩

/-- The gateway once an occurrence has left the tracker as it is, its effects have been performed,
and the handle of what was accepted is held. -/
def perfected (gateway : Gateway) (next : Tracker) (occurrence : Occurrence) : Gateway :=
  let done := { gateway with tracker := next }.performAll occurrence.effects
  { done with handles := done.handles ++ occurrence.accepted.map (·.1) }

private theorem Reflects.performed (reflects : Reflects timeout listener history abandoned gateway)
    {occurrence : Occurrence} {next : Tracker} {after : Gateway}
    (run : Tracker.Run timeout (occurrence :: history) next)
    (concludes : Tracker.Concludes gateway.tracker occurrence next)
    (view : SameView after (gateway.perfected next occurrence)) :
    Performed listener gateway next occurrence after := by
  have performs := @performs_all { gateway with tracker := next } listener reflects.heard
    occurrence.effects (distinct_settlements run concludes)
  have same : next.timeout = gateway.tracker.timeout :=
    run.timeout_eq.trans reflects.tracked.timeout_eq.symm
  have listened : after.endings listener =
      (gateway.perfected next occurrence).endings listener := by
    rw [Gateway.endings, view.deliveries, view.tracker, Gateway.endings]
  constructor
  · exact view.tracker.trans performs.tracker
  · exact view.audience ▸ performs.heard
  · refine listened.trans (performs.told.trans ?_)
    rw [Gateway.endings, same, Gateway.endings, Occurrence.endings]
  · intro id
    rw [view.handles, perfected, List.mem_append, performs.held]
  · exact view.outcomes.trans performs.outcomes

theorem Reflects.submit (reflects : Reflects timeout listener history abandoned gateway)
    (command : Command) (now : Instant) :
    Reflects timeout listener
      (.submitted command (gateway.tracker.submit command now gateway.outlet.refuses) :: history)
      abandoned (gateway.submit command now).1 := by
  have run := reflects.tracked.submit command now gateway.outlet.refuses
  have concludes := Tracker.concludes_submit reflects.tracked.accounts.coherent command now
    gateway.outlet.refuses
  refine reflects.step run concludes (reflects.performed run concludes ?_)
  unfold Gateway.submit perfected
  simp only [Occurrence.accepted, Occurrence.effects]
  cases (gateway.tracker.submit command now gateway.outlet.refuses).result with
  | error error => exact ⟨rfl, rfl, (List.append_nil _).symm, rfl, rfl⟩
  | ok ticket => exact sameView_carry _ _

private theorem Reflects.performed_receive
    (reflects : Reflects timeout listener history abandoned gateway) (frame : Frame) :
    Performed listener gateway (gateway.tracker.receive frame).tracker
      (.received frame (gateway.tracker.receive frame)) (gateway.receive frame).1 := by
  refine reflects.performed (reflects.tracked.receive frame)
    (Tracker.concludes_receive reflects.tracked.accounts.coherent frame) ?_
  exact ⟨rfl, rfl, (List.append_nil _).symm, rfl, rfl⟩

theorem Reflects.receive (reflects : Reflects timeout listener history abandoned gateway)
    (frame : Frame) :
    Reflects timeout listener (.received frame (gateway.tracker.receive frame) :: history)
      abandoned (gateway.receive frame).1 :=
  reflects.step (reflects.tracked.receive frame)
    (Tracker.concludes_receive reflects.tracked.accounts.coherent frame)
    (reflects.performed_receive frame)

theorem Reflects.sweep (reflects : Reflects timeout listener history abandoned gateway)
    {now : Instant} {expiry : Expiry} (sweep : gateway.tracker.Sweep now expiry) :
    Reflects timeout listener (.expired expiry :: history) abandoned
      (gateway.afterSweep expiry).1 := by
  have run := reflects.tracked.sweep sweep
  have concludes := Tracker.concludes_sweep reflects.tracked.accounts.coherent sweep
  refine reflects.step run concludes (reflects.performed run concludes ?_)
  exact ⟨rfl, rfl, (List.append_nil _).symm, rfl, rfl⟩

theorem Reflects.drop (reflects : Reflects timeout listener history abandoned gateway)
    (id : TransactionId) :
    Reflects timeout listener history
      (if gateway.handles.contains id then id :: abandoned else abandoned)
      (gateway.dropHandle id).1 := by
  obtain ⟨tracked, heard, told, held, resolved, known⟩ := reflects
  by_cases holds : id ∈ gateway.handles
  · rw [if_pos (List.contains_iff_mem.mpr holds)]
    obtain ⟨accepted, live⟩ := tracked.accounts.mem_ids_iff.mp ((held id).mp holds).1
    refine ⟨tracked, heard, told, fun other => ?_, ?_, ?_⟩
    · rw [dropHandle, List.mem_filter, bne_iff_ne, held, List.mem_cons, not_or, and_assoc,
        and_comm (a := other ≠ id)]
    · refine resolved.trans (congrArg _ (List.filter_congr fun ending member => ?_))
      refine decide_eq_decide.mpr ?_
      rw [List.mem_cons, not_or]
      refine (and_iff_right_of_imp fun _ same => live ?_).symm
      rw [← same, ← tracked.concluded.ended]
      exact List.mem_map_of_mem member
    · intro other gone
      rcases List.mem_cons.mp gone with rfl | before
      · exact accepted
      · exact known other before
  · rw [if_neg fun found => holds (List.contains_iff_mem.mp found)]
    refine ⟨tracked, heard, told, fun other => ?_, resolved, known⟩
    rw [dropHandle, List.mem_filter, bne_iff_ne, held]
    refine and_iff_left_of_imp fun stillHeld same => holds ?_
    exact (held id).mpr (same ▸ stillHeld)

/-- Every run leaves a gateway as its history says. -/
theorem Run.reflects (untouched : start.Untouched) (heard : start.audience.HeardBy listener)
    (run : Run start history abandoned gateway) :
    Reflects start.tracker.timeout listener history abandoned gateway := by
  induction run with
  | start =>
      have tracked : Tracker.Run start.tracker.timeout [] start.tracker := by
        rw [untouched.tracker]
        exact .fresh
      refine ⟨tracked, heard, ?_, fun id => ?_, ?_, fun _ member => nomatch member⟩
      · rw [Gateway.endings, untouched.record]
        rfl
      · rw [untouched.handles, untouched.tracker]
        exact iff_of_false List.not_mem_nil fun both => List.not_mem_nil both.1
      · rw [untouched.record]
        rfl
  | refuse run words before => exact ⟨before.tracked, before.heard, before.told, before.held,
      before.resolved, before.known⟩
  | submit run command now before => exact before.submit command now
  | receive run frame before => exact before.receive frame
  | sweep run sweep before => exact before.sweep sweep
  | drop run id before => exact before.drop id

/-- The life of every transaction, as it can be seen after a run.

No id is accepted twice; the ids accepted are those in flight and those whose end the listener has
been told of, and it is told of no end twice. An end comes with the key of the command, and the
handle, if it was not given up, is settled with the outcome that the listener was told; until then
it is open. A question is acknowledged once at most, while it is in flight. What the tracker knows
of the controller is what the listener was told last. -/
structure Lifecycle (listener : ListenerId) (history : History) (abandoned : List TransactionId)
    (gateway : Gateway) : Prop where
  acceptedOnce : history.acceptedIds.Nodup
  parted : history.acceptedIds.Perm
    (gateway.tracker.inFlight.ids ++ (gateway.endings listener).map (·.id))
  toldOnce : ((gateway.endings listener).map (·.id)).Nodup
  keyed : ∀ ending ∈ gateway.endings listener,
    ∃ command, (ending.id, command) ∈ history.accepted ∧ ending.key = Key.ofCommand command
  resolved : gateway.record.outcomes =
    ((gateway.endings listener).filter (·.id ∉ abandoned)).map Ending.settlement
  held : ∀ id, id ∈ gateway.handles ↔ id ∈ gateway.tracker.inFlight.ids ∧ id ∉ abandoned
  acknowledgedOnce : history.acknowledged.Nodup
  acknowledgedInFlight : ∀ frame id, (gateway.receive frame).2 = .ok (.acknowledged id) →
    id ∈ gateway.tracker.inFlight.ids ∧ id ∈ (gateway.receive frame).1.tracker.inFlight.ids
  informed : gateway.tracker.controllerInfo =
    ((gateway.endings listener).filterMap (·.outcome.info?)).getLast?

private theorem acknowledged_inFlight
    (reflects : Reflects timeout listener history abandoned gateway)
    {frame : Frame} {id : TransactionId}
    (acknowledged : (gateway.receive frame).2 = .ok (.acknowledged id)) :
    id ∈ gateway.tracker.inFlight.ids ∧ id ∈ (gateway.receive frame).1.tracker.inFlight.ids := by
  have left := (reflects.performed_receive frame).tracker
  have outcome := Tracker.received reflects.tracked.accounts.coherent frame
  change (gateway.tracker.receive frame).result = _ at acknowledged
  rw [left]
  generalize gateway.tracker.receive frame = receipt at outcome acknowledged ⊢
  cases outcome with
  | @acknowledged transaction waiting addressed judged =>
      cases acknowledged
      have member := InFlight.mem_ids_iff.mpr ⟨transaction, waiting, rfl⟩
      exact ⟨member, by rw [InFlight.ids_claim]; exact member⟩
  | passedOn useless => cases acknowledged
  | completed waiting addressed judged => cases acknowledged
  | malformed waiting addressed judged => cases acknowledged
  | faulted waiting addressed judged => cases acknowledged

/-- **Every transaction ends once, and whoever is concerned is told the same.** After every run from
a fresh gateway, with a listener that stays registered with an open router, the transactions have
been told of, settled and acknowledged as `Lifecycle` says, whichever handles were given up. -/
theorem Run.lifecycle (untouched : start.Untouched) (heard : start.audience.HeardBy listener)
    (run : Run start history abandoned gateway) :
    Lifecycle listener history abandoned gateway := by
  have reflects := run.reflects untouched heard
  have concluded := reflects.tracked.concluded
  have accounts := reflects.tracked.accounts
  refine ⟨accounts.nodup, ?_, ?_, ?_, ?_, reflects.held, reflects.tracked.acknowledges.nodup, ?_,
    ?_⟩
  · rw [reflects.told, concluded.ended]
    exact accounts.balanced
  · rw [reflects.told]
    exact reflects.tracked.endings_nodup
  · rw [reflects.told]
    exact concluded.keyed
  · rw [reflects.told]
    exact reflects.resolved
  · intro frame id acknowledged
    exact acknowledged_inFlight reflects acknowledged
  · rw [reflects.told]
    exact concluded.informed

/-- A gateway with one listener. -/
def oneListener : Gateway :=
  { fresh Directory.empty ⟨1⟩ ⟨10⟩ none true with
    audience := Audience.empty.introduce "main" .recorder none }.subscribe "main"

/-- One listener, one question to a node, and the node's report. -/
theorem Run.lifecycle_of_report :
    ∃ gateway history, oneListener.Untouched ∧ oneListener.audience.HeardBy ⟨0⟩ ∧
      Run oneListener history [] gateway ∧ history.acceptedIds = [⟨1⟩] ∧
      gateway.tracker.inFlight.ids = [] ∧ Lifecycle ⟨0⟩ history [] gateway := by
  have untouched : oneListener.Untouched := ⟨rfl, rfl, rfl⟩
  have heard : oneListener.audience.HeardBy ⟨0⟩ :=
    ⟨by decide, by decide, fun _ member => nomatch member⟩
  have run := ((@Run.start oneListener).submit (.query ⟨9⟩ .basic) ⟨0⟩).receive
    (Frame.inbound .applicationCommand .request (some ⟨9⟩) [0, 9, 3, 0x20, 0x03, 99])
  exact ⟨_, _, untouched, heard, run, by decide, by decide, Run.lifecycle untouched heard run⟩

end ZWaveGateway.Gateway
