import ZWaveGateway.Gateway.Operation
import ZWaveGateway.Proofs.Event.Registrations
import ZWaveGateway.Proofs.Tracker.History

/-!
# What listeners are told in a run

A gateway whose listeners only listen: they come and go, events are published, the router may be
shut down, and all the while the tracker submits commands, takes frames in and lets time pass, and
publishes what comes of it.

`ZWaveGateway.Gateway.Broadcast.delivers` says what the listeners of such a run have been told, in
terms of what was done with the router: which registrations stood when an event was published. That
the network is ready is told once, and the controller's list of the network says so, whatever is in
flight.
-/

namespace ZWaveGateway

/-- What effects do with the router. -/
def Effect.routed (effects : List Effect) : List Router.Operation :=
  effects.filterMap fun
    | .tell event => some (.publish event)
    | _ => none

namespace Gateway

open Router.Operation

/-- A gateway that is about to start, with listeners that only listen. -/
structure Unheard (gateway : Gateway) : Prop where
  tracker : gateway.tracker = Tracker.fresh gateway.tracker.timeout
  router : gateway.audience.router = Router.fresh
  quiet : gateway.audience.reactions = []
  deliveries : gateway.record.deliveries = []

/-- A run of a gateway, with all that is done with its router, by whomever. -/
inductive Broadcast (start : Gateway) : List Router.Operation → Gateway → Prop where
  | start : Broadcast start [] start
  | subscribe {operations : List Router.Operation} {gateway : Gateway}
      (run : Broadcast start operations gateway) (listener : ListenerId) :
      Broadcast start (operations ++ [.subscribe listener]) (gateway.route (·.subscribe listener))
  | unsubscribe {operations : List Router.Operation} {gateway : Gateway}
      (run : Broadcast start operations gateway) (listener : ListenerId) :
      Broadcast start (operations ++ [.unsubscribe listener])
        (gateway.route (·.unsubscribe listener))
  | publish {operations : List Router.Operation} {gateway : Gateway}
      (run : Broadcast start operations gateway) (event : Event) :
      Broadcast start (operations ++ [.publish event]) (gateway.tell event).1
  | shutDown {operations : List Router.Operation} {gateway : Gateway}
      (run : Broadcast start operations gateway) :
      Broadcast start (operations ++ [.shutDown]) gateway.shutDown
  | submit {operations : List Router.Operation} {gateway : Gateway}
      (run : Broadcast start operations gateway) (command : Command) (now : Instant) :
      Broadcast start
        (operations ++
          Effect.routed (gateway.tracker.submit command now gateway.outlet.refuses).effects)
        (gateway.submit command now).1
  | sendUntracked {operations : List Router.Operation} {gateway : Gateway}
      (run : Broadcast start operations gateway) (frame : Frame) :
      Broadcast start operations (gateway.sendUntracked frame).1
  | receive {operations : List Router.Operation} {gateway : Gateway}
      (run : Broadcast start operations gateway) (frame : Frame) :
      Broadcast start (operations ++ Effect.routed (gateway.tracker.receive frame).effects)
        (gateway.receive frame).1
  | sweep {operations : List Router.Operation} {gateway : Gateway}
      (run : Broadcast start operations gateway) {now : Instant} {expiry : Expiry}
      (sweep : gateway.tracker.Sweep now expiry) :
      Broadcast start (operations ++ Effect.routed expiry.effects) (gateway.afterSweep expiry).1
  | drop {operations : List Router.Operation} {gateway : Gateway}
      (run : Broadcast start operations gateway) (id : TransactionId) :
      Broadcast start operations (gateway.dropHandle id).1
  | refuse {operations : List Router.Operation} {gateway : Gateway}
      (run : Broadcast start operations gateway) (words : Option String) :
      Broadcast start operations (gateway.refuseWith words)

variable {start gateway : Gateway} {operations : List Router.Operation}

/-! ## The listeners, step by step -/

/-- Nobody has anything to say, the router is as operations leave it, and the deliveries made are
theirs. -/
structure Routed (operations : List Router.Operation) (gateway : Gateway) : Prop where
  quiet : gateway.audience.reactions = []
  router : gateway.audience.router.After operations
  told : gateway.record.deliveries = told operations

namespace Routed

variable (routed : Routed operations gateway)

include routed

theorem of_same {after : Gateway} (audience : after.audience = gateway.audience)
    (deliveries : after.record.deliveries = gateway.record.deliveries) :
    Routed operations after where
  quiet := audience ▸ routed.quiet
  router := audience ▸ routed.router
  told := deliveries.trans routed.told

/-- Publishing an event delivers it to its recipients, and counts them. -/
theorem tell (event : Event) :
    Routed (operations ++ [.publish event]) (gateway.tell event).1 ∧
      (gateway.tell event).1.record.deliveries =
        gateway.record.deliveries ++ (recipients operations event).map (⟨·, event⟩) ∧
      (gateway.tell event).2 = (recipients operations event).length := by
  obtain ⟨kept, due⟩ := routed.router.publish event
  have announced := Audience.announce_of_quiet routed.quiet event
  have made : (gateway.audience.publish event).2 =
      (recipients operations event).map (⟨·, event⟩) := congrArg _ due
  have deliveries : (gateway.tell event).1.record.deliveries =
      gateway.record.deliveries ++ (recipients operations event).map (⟨·, event⟩) := by
    simp only [Gateway.tell, announced, made]
  refine ⟨⟨?_, ?_, ?_⟩, deliveries, ?_⟩
  · simp only [Gateway.tell, announced]
    exact routed.quiet
  · simp only [Gateway.tell, announced]
    exact kept
  · rw [deliveries, routed.told, told_concat]
    rfl
  · simp only [Gateway.tell, announced, made, List.length_map]

theorem performAll (effects : List Effect) :
    Routed (operations ++ Effect.routed effects) (gateway.performAll effects) := by
  induction effects generalizing operations gateway with
  | nil =>
      rw [Effect.routed, List.filterMap_nil, List.append_nil]
      exact routed
  | cons effect rest later =>
      cases effect with
      | tell event =>
          have published := later (routed.tell event).1
          rwa [List.append_assoc] at published
      | log line => exact later (routed.of_same rfl rfl)
      | settle id outcome =>
          refine later (routed.of_same ?_ ?_)
          · simp only [Gateway.perform, Gateway.settle]
            split <;> rfl
          · simp only [Gateway.perform, Gateway.settle]
            split <;> rfl

/-- What the tracker wants done is done after it has changed. -/
theorem act (tracker : Tracker) (effects : List Effect) :
    Routed (operations ++ Effect.routed effects) ({ gateway with tracker }.performAll effects) := by
  have changed : Routed operations { gateway with tracker } := routed.of_same rfl rfl
  exact changed.performAll effects

theorem submit (command : Command) (now : Instant) :
    Routed
      (operations ++
        Effect.routed (gateway.tracker.submit command now gateway.outlet.refuses).effects)
      (gateway.submit command now).1 := by
  unfold Gateway.submit
  simp only []
  split
  · exact routed.act _ _
  · exact (routed.act _ _).of_same (audience_carry _ _) (deliveries_carry _ _)

theorem sendUntracked (frame : Frame) :
    Routed operations (gateway.sendUntracked frame).1 := by
  unfold Gateway.sendUntracked
  split
  · exact routed
  · exact routed.of_same (audience_carry _ _) (deliveries_carry _ _)

end Routed

namespace Broadcast

/-- Every run leaves the listeners as what was done with the router says. -/
theorem routed (unheard : start.Unheard) (run : Broadcast start operations gateway) :
    Routed operations gateway := by
  induction run with
  | start => exact ⟨unheard.quiet, unheard.router ▸ Router.after_fresh, unheard.deliveries⟩
  | subscribe run listener before =>
      exact ⟨before.quiet, before.router.subscribe listener,
        before.told.trans (told_of_silent rfl).symm⟩
  | unsubscribe run listener before =>
      exact ⟨before.quiet, before.router.unsubscribe listener,
        before.told.trans (told_of_silent rfl).symm⟩
  | publish run event before => exact (before.tell event).1
  | shutDown run before =>
      exact ⟨before.quiet, before.router.shutDown, before.told.trans (told_of_silent rfl).symm⟩
  | submit run command now before => exact before.submit command now
  | sendUntracked run frame before => exact before.sendUntracked frame
  | receive run frame before => exact before.act _ _
  | sweep run sweep before => exact before.act _ _
  | drop run id before => exact before.of_same rfl rfl
  | refuse run words before => exact before.of_same rfl rfl

/-- The tracker of such a run makes a run of its own. -/
theorem tracked (unheard : start.Unheard) (run : Broadcast start operations gateway) :
    ∃ history, Tracker.Run start.tracker.timeout history gateway.tracker := by
  induction run with
  | start =>
      rw [unheard.tracker]
      exact ⟨[], .fresh⟩
  | subscribe run listener before => exact before
  | unsubscribe run listener before => exact before
  | publish run event before => exact before
  | shutDown run before => exact before
  | submit run command now before =>
      obtain ⟨history, tracked⟩ := before
      rw [tracker_submit]
      exact ⟨_, tracked.submit command now _⟩
  | sendUntracked run frame before =>
      rw [tracker_sendUntracked]
      exact before
  | receive run frame before =>
      obtain ⟨history, tracked⟩ := before
      rw [tracker_receive]
      exact ⟨_, tracked.receive frame⟩
  | @sweep operations gateway run now expiry sweep before =>
      obtain ⟨history, tracked⟩ := before
      have left : (gateway.afterSweep expiry).1.tracker = expiry.tracker := tracker_performAll _ _
      rw [left]
      exact ⟨_, tracked.sweep sweep⟩
  | drop run id before => exact before
  | refuse run words before => exact before

end Broadcast

/-- The controller's list of its network answers nothing that is in flight. -/
private theorem receive_initData {tracker : Tracker}
    (coherent : tracker.inFlight.Coherent tracker.lastId) {frame : Frame}
    (lists : frame.messageClass = .initData) :
    (tracker.receive frame).effects = [.tell (Event.ofFrame frame)] ∧
      (tracker.receive frame).result = .ok .unsolicited := by
  have unrelated (command : Command) : command.judge frame = .ok .unrelated := by
    unfold Command.judge
    rw [lists]
  have outcome := Tracker.received coherent frame
  generalize tracker.receive frame = receipt at outcome
  cases outcome with
  | passedOn useless => exact ⟨rfl, rfl⟩
  | completed waiting addressed judged => cases (unrelated _).symm.trans judged
  | acknowledged waiting addressed judged => cases (unrelated _).symm.trans judged
  | malformed waiting addressed judged => cases (unrelated _).symm.trans judged
  | faulted waiting addressed judged => cases (unrelated _).symm.trans judged

theorem Routed.latched (routed : Routed operations gateway)
    (coherent : gateway.tracker.inFlight.Coherent gateway.tracker.lastId)
    (opened : .shutDown ∉ operations) {frame : Frame} (lists : frame.messageClass = .initData)
    (responds : frame.frameType = .response) :
    (gateway.receive frame).2 = .ok .unsolicited ∧
      (gateway.receive frame).1.audience.router.networkReady = true := by
  obtain ⟨effects, result⟩ := receive_initData coherent lists
  refine ⟨result, ?_⟩
  have news : Event.ofFrame frame = .networkReady := by
    unfold Event.ofFrame
    rw [lists, responds]
  have received : Routed _ (gateway.receive frame).1 := routed.act _ _
  rw [effects, news] at received
  exact received.router.ready.mpr (ready_concat.mpr (.inr ⟨rfl, opened⟩))

/-- What a run comes to for those who listen.

The registrations are those that stand. Whatever was published has been told to the recipients it
had then, and so will the next event be; who takes registrations back takes back all of a listener
and no others, and learns whether there were any. The router knows whether the network was ever
said to be ready; a listener has been told of it as often as it was registered when this was first
said, and never again. The controller's list of its network says so, whatever is in flight. -/
structure Delivers (operations : List Router.Operation) (gateway : Gateway) : Prop where
  registered : gateway.audience.router.registered = standing operations
  told : gateway.record.deliveries = told operations
  publishes : ∀ event,
    (gateway.tell event).1.record.deliveries =
        gateway.record.deliveries ++ (recipients operations event).map (⟨·, event⟩) ∧
      (gateway.tell event).2 = (recipients operations event).length
  takesBack : ∀ name listener, gateway.audience.named? name = some listener →
    (gateway.unsubscribe name).1.audience.router.registered =
        (standing operations).filter (· != listener) ∧
      ((gateway.unsubscribe name).2 = true ↔ listener ∈ standing operations)
  ready : gateway.audience.router.networkReady = true ↔ Ready operations
  once : ∀ before later, operations = before ++ .publish .networkReady :: later →
    .shutDown ∉ before → .publish .networkReady ∉ before →
      ∀ listener, gateway.record.deliveries.count ⟨listener, .networkReady⟩ =
        (standing before).count listener
  never : ¬Ready operations →
    ∀ listener, ⟨listener, .networkReady⟩ ∉ gateway.record.deliveries
  latches : .shutDown ∉ operations → ∀ frame : Frame, frame.messageClass = .initData →
    frame.frameType = .response →
      (gateway.receive frame).2 = .ok .unsolicited ∧
        (gateway.receive frame).1.audience.router.networkReady = true

/-- A listener is told of an event once for each of its registrations. -/
private theorem count_deliveries (registrations : List ListenerId) (listener : ListenerId)
    (event : Event) :
    (registrations.map (⟨·, event⟩ : ListenerId → Delivery)).count ⟨listener, event⟩ =
      registrations.count listener := by
  rw [List.count_eq_countP, List.countP_map, List.count_eq_countP]
  refine List.countP_congr fun other _ => ?_
  rw [Function.comp_apply, beq_iff_eq, beq_iff_eq, Delivery.mk.injEq, and_iff_left rfl]

/-- **Events reach the registrations that stand.** After every run, with listeners that only listen,
those have been told what was published while they were registered, as `Delivers` says. -/
theorem Broadcast.delivers (unheard : start.Unheard) (run : Broadcast start operations gateway) :
    Delivers operations gateway := by
  have routed := run.routed unheard
  obtain ⟨history, tracked⟩ := run.tracked unheard
  refine ⟨routed.router.registered, routed.told, fun event => (routed.tell event).2, ?_,
    routed.router.ready, ?_, ?_, ?_⟩
  · intro name listener named
    simp only [Gateway.unsubscribe, named]
    rw [← routed.router.registered]
    exact ⟨rfl, List.contains_iff_mem⟩
  · rintro before later rfl opened first listener
    have ready : ((⟨listener, .networkReady⟩ : Delivery).event == .networkReady) = true := BEq.rfl
    rw [routed.told, ← List.count_filter (p := (·.event == .networkReady)) ready,
      told_networkReady opened first]
    exact count_deliveries _ listener .networkReady
  · intro unready listener heard
    have none := told_networkReady_of_not_ready unready
    rw [← routed.told] at none
    exact List.filter_eq_nil_iff.mp none _ heard BEq.rfl
  · intro opened frame lists responds
    exact routed.latched tracked.accounts.coherent opened lists responds

/-- A gateway with two listeners, who are not yet registered. -/
def twoListeners : Gateway :=
  { fresh Directory.empty ⟨1⟩ ⟨10⟩ none true with
    audience :=
      (Audience.empty.introduce "first" .recorder none).introduce "second" .recorder none }

theorem unheard_twoListeners : twoListeners.Unheard :=
  ⟨rfl, rfl, rfl, rfl⟩

/-- The controller lists its network twice while a question for its version waits, which is told
once; the second listener leaves, and nobody hears of what comes after the router is shut down. -/
theorem Broadcast.delivers_of_listed_twice :
    ∃ operations gateway, twoListeners.Unheard ∧ Broadcast twoListeners operations gateway ∧
      gateway.tracker.inFlight.ids = [⟨1⟩] ∧
      gateway.record.deliveries =
        [⟨⟨0⟩, .networkReady⟩, ⟨⟨1⟩, .networkReady⟩, ⟨⟨0⟩, .nodeFailed ⟨2⟩⟩] ∧
      Delivers operations gateway := by
  let listing : Frame := .inbound .initData .response none [5, 0]
  have both := ((@Broadcast.start twoListeners).subscribe ⟨0⟩).subscribe ⟨1⟩
  have asked := both.submit .controllerVersion ⟨0⟩
  have listed := ((asked.receive listing).receive listing).unsubscribe ⟨1⟩
  have run := ((listed.publish (.nodeFailed ⟨2⟩)).shutDown).publish (.nodeFailed ⟨3⟩)
  have delivers := Broadcast.delivers unheard_twoListeners run
  exact ⟨_, _, unheard_twoListeners, run, by decide +kernel,
    delivers.told.trans (by decide +kernel), delivers⟩

/-- A listener that is registered twice hears twice that the network is ready. -/
theorem networkReady_heard_twice :
    ∃ operations gateway, twoListeners.Unheard ∧ Broadcast twoListeners operations gateway ∧
      operations = [.subscribe ⟨0⟩, .subscribe ⟨0⟩, .publish .networkReady] ∧
      gateway.record.deliveries.count ⟨⟨0⟩, .networkReady⟩ = 2 := by
  have doubled := ((@Broadcast.start twoListeners).subscribe ⟨0⟩).subscribe ⟨0⟩
  have run := doubled.receive (.inbound .initData .response none [5, 0])
  refine ⟨_, _, unheard_twoListeners, run, by decide +kernel, ?_⟩
  rw [(run.routed unheard_twoListeners).told]
  decide +kernel

end Gateway

end ZWaveGateway
