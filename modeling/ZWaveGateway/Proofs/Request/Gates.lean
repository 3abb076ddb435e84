import ZWaveGateway.Proofs.Command.WireForm
import ZWaveGateway.Proofs.Request.FailedDispatch
import ZWaveGateway.Proofs.Request.Planning

/-!
# The gates of a dispatch

A request passes one gate after another, and the first that stops it gives its error. The gates are
stated here in terms of what the request says (`ZWaveGateway.Request.Admitted`,
`ZWaveGateway.Request.TurnedAway`), and the last one, submission, in terms of what was in flight
before the dispatch began (`ZWaveGateway.Tracker.Takes`): the commands of one plan have different
keys, so none of them stands in another's way.

`ZWaveGateway.Tracker.Run.dispatch_gated` says what a dispatch comes to after every run.
-/

namespace ZWaveGateway

namespace Request

variable {request : Request} {directory : Directory} {controller : NodeId} {control : Control}
  {commandClass : CommandClass} {device : Device} {plan : Plan} {error : RequestError}

/-- The request names a control by its token, whatever the case and the blanks around it. -/
def Names (request : Request) (control : Control) : Prop :=
  control ≠ .unknown ∧
    (Text.trim request.control).map Char.toLower = control.token.map Char.toLower

/-- The request names a device of the directory by its id in decimal, with blanks around it. -/
def Finds (request : Request) (directory : Directory) (device : Device) : Prop :=
  device ∈ directory.devices ∧
    Text.Numeral.Writes (Text.trim request.device) device.id.number.toNat

/-- The request passes all gates but the last. -/
structure Admitted (request : Request) (directory : Directory) (controller : NodeId)
    (control : Control) (commandClass : CommandClass) (device : Device) (plan : Plan) : Prop where
  named : request.Names control
  found : request.Finds directory device
  drives : control.commandClass? = some commandClass
  supported : device.supports commandClass = true
  planned : control.plan request.form device.id controller = .ok plan

/-- The first gate but the last that stops the request, with its error: each one is reached past
those before it. -/
inductive TurnedAway (request : Request) (directory : Directory) (controller : NodeId) :
    RequestError → Prop where
  | unrecognized (nothing : ∀ control, ¬request.Names control) :
      TurnedAway request directory controller (.unrecognizedControl request.control)
  | unknownDevice {control : Control} (named : request.Names control)
      (nobody : ∀ device, ¬request.Finds directory device) :
      TurnedAway request directory controller (.deviceNotFound request.device)
  | incapable {control : Control} {device : Device} {commandClass : CommandClass}
      (named : request.Names control) (found : request.Finds directory device)
      (drives : control.commandClass? = some commandClass)
      (lacks : device.supports commandClass = false) :
      TurnedAway request directory controller (.capabilityNotPresent device.id)
  | invalid {control : Control} {device : Device} {commandClass : CommandClass}
      {error : RequestError} (named : request.Names control)
      (found : request.Finds directory device)
      (drives : control.commandClass? = some commandClass)
      (supported : device.supports commandClass = true)
      (refused : control.plan request.form device.id controller = .error error) :
      TurnedAway request directory controller error

theorem names_iff : request.Names control ↔ control ≠ .unknown ∧ request.named = control := by
  refine and_congr_right fun known => ?_
  exact (Control.ofToken_eq_iff known).symm

theorem target?_eq_some_iff :
    request.target? directory = some device ↔ request.Finds directory device := by
  simp only [target?, Finds, Option.bind_eq_bind, Option.bind_eq_some_iff,
    Text.Numeral.natural?_eq_some_iff, Directory.lookup?_eq_some_iff]
  constructor
  · rintro ⟨number, ⟨written, small⟩, member, same⟩
    have whole : (UInt8.ofNat number).toNat = number := by
      rw [UInt8.toNat_ofNat', Nat.mod_eq_of_lt (by omega)]
    rw [same, whole]
    exact ⟨member, written⟩
  · rintro ⟨member, written⟩
    refine ⟨device.id.number.toNat, ⟨written, ?_⟩, member, ?_⟩
    · have := device.id.number.toNat_lt
      omega
    · rw [UInt8.ofNat_toNat]

theorem target?_eq_none_iff :
    request.target? directory = none ↔ ∀ device, ¬request.Finds directory device := by
  rw [Option.eq_none_iff_forall_ne_some]
  exact forall_congr' fun device => not_congr target?_eq_some_iff

theorem capability?_isNone (drives : control.commandClass? = some commandClass) :
    (device.capability? control).isNone = !device.supports commandClass := by
  rw [Bool.eq_iff_iff, Option.isNone_iff_eq_none, Device.capability?_eq_none_iff, drives,
    Bool.not_eq_true']
  exact ⟨fun lacks => lacks commandClass rfl, fun lacks _ same => Option.some.inj same ▸ lacks⟩

/-- Past the first gates the request is for the control and the device that it names. -/
theorem resolve_of_named (named : request.Names control) (found : request.Finds directory device)
    (drives : control.commandClass? = some commandClass) :
    request.resolve directory controller =
      if device.supports commandClass then
        (control.plan request.form device.id controller).map (device.id, ·)
      else .error (.capabilityNotPresent device.id) := by
  obtain ⟨known, rfl⟩ := names_iff.mp named
  rw [resolve, if_neg known, target?_eq_some_iff.mpr found]
  simp only [capability?_isNone drives]
  cases device.supports commandClass <;> rfl

theorem resolve_of_admitted
    (admitted : request.Admitted directory controller control commandClass device plan) :
    request.resolve directory controller = .ok (device.id, plan) := by
  rw [resolve_of_named admitted.named admitted.found admitted.drives, if_pos admitted.supported,
    admitted.planned]
  rfl

theorem resolve_of_turnedAway (stopped : request.TurnedAway directory controller error) :
    request.resolve directory controller = .error error := by
  cases stopped with
  | unrecognized nothing =>
      have unknown : request.named = .unknown := by
        by_contra known
        exact nothing _ (names_iff.mpr ⟨known, rfl⟩)
      rw [resolve, if_pos unknown]
  | unknownDevice named nobody =>
      obtain ⟨known, rfl⟩ := names_iff.mp named
      rw [resolve, if_neg known, target?_eq_none_iff.mpr nobody]
  | incapable named found drives lacks =>
      rw [resolve_of_named named found drives, lacks]
      rfl
  | invalid named found drives supported refused =>
      rw [resolve_of_named named found drives, if_pos supported, refused]
      rfl

/-- A request is turned away or admitted. -/
theorem turnedAway_or_admitted (request : Request) (directory : Directory) (controller : NodeId) :
    (∃ error, request.TurnedAway directory controller error) ∨
      ∃ control commandClass device plan,
        request.Admitted directory controller control commandClass device plan := by
  by_cases named : ∃ control, request.Names control
  swap
  · exact .inl ⟨_, .unrecognized (not_exists.mp named)⟩
  obtain ⟨control, named⟩ := named
  by_cases found : ∃ device, request.Finds directory device
  swap
  · exact .inl ⟨_, .unknownDevice named (not_exists.mp found)⟩
  obtain ⟨device, found⟩ := found
  obtain ⟨commandClass, drives⟩ : ∃ commandClass, control.commandClass? = some commandClass := by
    have known := named.1
    cases control <;> first | exact ⟨_, rfl⟩ | exact (known rfl).elim
  cases supported : device.supports commandClass with
  | false => exact .inl ⟨_, .incapable named found drives supported⟩
  | true =>
      cases planned : control.plan request.form device.id controller with
      | error error => exact .inl ⟨error, .invalid named found drives supported planned⟩
      | ok plan =>
          exact .inr ⟨control, commandClass, device, plan, named, found, drives, supported, planned⟩

end Request

/-! ## Submission -/

namespace Tracker

open InFlight

variable {tracker : Tracker} {command : Command} {commands : List Command} {now : Instant}
  {refuses : Frame → Option String} {error : RequestError}

/-- Nothing stands in the way of a command. -/
structure Takes (tracker : Tracker) (refuses : Frame → Option String) (command : Command) :
    Prop where
  free : tracker.inFlight.contains (Key.ofCommand command) = false
  taken : refuses command.frame = none

/-- What stands in the way of a command: its key is taken, or the transport refuses its frame. -/
inductive Stops (tracker : Tracker) (refuses : Frame → Option String) (command : Command) :
    RequestError → Prop where
  | duplicate (taken : tracker.inFlight.contains (Key.ofCommand command) = true) :
      Stops tracker refuses command (.duplicateInFlight (Key.ofCommand command))
  | refused {words : String} (free : tracker.inFlight.contains (Key.ofCommand command) = false)
      (refusal : refuses command.frame = some words) :
      Stops tracker refuses command (.transport words)

theorem Takes.of_same {after : Tracker}
    (same : after.inFlight.contains (Key.ofCommand command) =
      tracker.inFlight.contains (Key.ofCommand command))
    (takes : after.Takes refuses command) : tracker.Takes refuses command :=
  ⟨same ▸ takes.free, takes.taken⟩

theorem Stops.of_same {after : Tracker}
    (same : after.inFlight.contains (Key.ofCommand command) =
      tracker.inFlight.contains (Key.ofCommand command))
    (stops : after.Stops refuses command error) : tracker.Stops refuses command error := by
  cases stops with
  | duplicate taken => exact .duplicate (same ▸ taken)
  | refused free refusal => exact .refused (same ▸ free) refusal

theorem Stops.not_takes (stops : tracker.Stops refuses command error) :
    ¬tracker.Takes refuses command := by
  rintro ⟨free, taken⟩
  cases stops with
  | duplicate occupied =>
      rw [free] at occupied
      cases occupied
  | refused _ refusal =>
      rw [taken] at refusal
      cases refusal

/-- The tickets of commands, by the ids after the last one given out. -/
def ticketsAfter (last : Nat) (commands : List Command) : List Ticket :=
  (commands.zipIdx (last + 1)).map fun (command, number) => ⟨⟨number⟩, Key.ofCommand command⟩

theorem map_key_ticketsAfter (last : Nat) (commands : List Command) :
    (ticketsAfter last commands).map (·.key) = commands.map Key.ofCommand := by
  induction commands generalizing last with
  | nil => rfl
  | cons command rest ih => exact congrArg (Key.ofCommand command :: ·) (ih (last + 1))

theorem lt_of_mem_ticketsAfter {last : Nat} {ticket : Ticket}
    (member : ticket ∈ ticketsAfter last commands) : last < ticket.id.number := by
  obtain ⟨numbered, listed, rfl⟩ := List.mem_map.mp member
  exact List.le_snd_of_mem_zipIdx listed

theorem pairwise_ticketsAfter (last : Nat) (commands : List Command) :
    (ticketsAfter last commands).Pairwise fun first second =>
      first.id.number < second.id.number := by
  induction commands generalizing last with
  | nil => exact .nil
  | cons command rest ih =>
      exact List.pairwise_cons.mpr ⟨fun ticket later => lt_of_mem_ticketsAfter later, ih (last + 1)⟩

/-- What a batch comes to, in terms of what was in flight before it: all its commands are taken, or
the first that is not stops it. -/
inductive Batched (tracker : Tracker) (refuses : Frame → Option String) (commands : List Command)
    (batch : Batch) : Prop where
  | whole (takes : ∀ command ∈ commands, tracker.Takes refuses command)
      (clean : batch.failure = none) (sent : batch.sent = commands.map Command.frame)
      (tickets : batch.tickets = ticketsAfter tracker.lastId commands)
  | cut {done : List Command} {command : Command} {undone : List Command} {error : RequestError}
      (split : commands = done ++ command :: undone)
      (takes : ∀ earlier ∈ done, tracker.Takes refuses earlier)
      (stops : tracker.Stops refuses command error) (failed : batch.failure = some error)
      (sent : batch.sent = done.map Command.frame)

theorem Submitted.stops {submission : Submission}
    (came : Submitted tracker command now refuses submission)
    (failed : submission.result = .error error) : tracker.Stops refuses command error := by
  cases came with
  | duplicate taken =>
      cases failed
      exact .duplicate taken
  | refused free refusal =>
      cases failed
      exact .refused free refusal
  | accepted free taken => cases failed

theorem Submitted.ticket_eq {submission : Submission} {ticket : Ticket}
    (came : Submitted tracker command now refuses submission)
    (accepted : submission.result = .ok ticket) :
    ticket = ⟨⟨tracker.lastId + 1⟩, Key.ofCommand command⟩ := by
  cases came with
  | duplicate taken => cases accepted
  | refused free refusal => cases accepted
  | accepted free taken => exact (Except.ok.inj accepted).symm

theorem batched (coherent : tracker.inFlight.Coherent tracker.lastId)
    (distinct : (commands.map Key.ofCommand).Nodup) :
    Batched tracker refuses commands (tracker.submitAll now refuses commands) := by
  induction commands generalizing tracker with
  | nil => exact .whole (fun _ member => nomatch member) rfl rfl rfl
  | cons command rest ih =>
      have came := submitted coherent command now refuses
      cases result : (tracker.submit command now refuses).result with
      | error error =>
          rw [submitAll_of_error result]
          exact .cut (List.nil_append _).symm (fun _ member => nomatch member)
            (came.stops result) rfl rfl
      | ok ticket =>
          obtain ⟨free, taken, registered, -⟩ := came.of_ok result
          obtain ⟨other, distinct⟩ := List.nodup_cons.mp distinct
          -- The new transaction bears none of the keys that are still to come.
          have same : ∀ later ∈ rest,
              (tracker.submit command now refuses).tracker.inFlight.contains
                  (Key.ofCommand later) =
                tracker.inFlight.contains (Key.ofCommand later) := by
            intro later member
            have apart : Key.ofCommand command ≠ Key.ofCommand later := by
              intro equal
              exact other (equal ▸ List.mem_map_of_mem member)
            rw [registered, contains_add]
            exact (congrArg _ (beq_false_of_ne apart)).trans (Bool.or_false _)
          have first : tracker.Takes refuses command := ⟨free, taken⟩
          have kept : (tracker.submit command now refuses).tracker.inFlight.Coherent
              (tracker.submit command now refuses).tracker.lastId := by
            rw [registered]
            exact coherent.add free
          have further := ih kept distinct
          rw [submitAll_of_ok result]
          cases further with
          | whole takes clean sent tickets =>
              have next : (tracker.submit command now refuses).tracker.lastId =
                  tracker.lastId + 1 := by
                rw [registered]
              rw [next] at tickets
              rw [came.ticket_eq result]
              refine .whole (List.forall_mem_cons.mpr ⟨first, fun later member => ?_⟩) clean
                (congrArg _ sent) (congrArg (_ :: ·) tickets)
              exact (takes later member).of_same (same later member)
          | @cut done stopped undone error split takes stops failed sent =>
              subst split
              have listed : stopped ∈ done ++ stopped :: undone :=
                List.mem_append_right done List.mem_cons_self
              refine .cut rfl (List.forall_mem_cons.mpr ⟨first, fun later member => ?_⟩)
                (stops.of_same (same stopped listed)) failed (congrArg _ sent)
              exact (takes later member).of_same (same later (List.mem_append_left _ member))

end Tracker

/-! ## Dispatches -/

/-- The frame sends data to a node, and its command bytes begin with a command class. -/
structure Frame.Instructs (frame : Frame) (node : NodeId) (commandClass : CommandClass) : Prop where
  sendsData : frame.messageClass = .sendData
  requests : frame.frameType = .request
  named : frame.node = some node
  addressed : frame.payload.head? = some node.number
  bytes : ∃ rest, frame.commandBytes? = some (commandClass.code :: rest)

theorem Command.instructs_frame {command : Command} {node : NodeId} {commandClass : CommandClass}
    (named : command.node? = some node) (drives : command.commandClass? = some commandClass) :
    command.frame.Instructs node commandClass := by
  have bytes := command.commandBytes?_frame
  cases command with
  | query asked target =>
      cases named
      cases drives
      exact ⟨rfl, rfl, rfl, rfl, _, bytes⟩
  | set asked action =>
      cases named
      cases drives
      exact ⟨rfl, rfl, rfl, rfl, _, bytes⟩
  | _ => cases drives

theorem Plan.IsFor.nodup_keys {plan : Plan} {node : NodeId} (planFor : plan.IsFor node) :
    (plan.commands.map Key.ofCommand).Nodup := by
  obtain ⟨query, set, notices⟩ := plan
  obtain ⟨asks, sets⟩ := planFor
  rcases asks with rfl | ⟨target, rfl⟩ <;> rcases sets with rfl | ⟨action, rfl⟩
  · exact List.nodup_nil
  · exact List.nodup_singleton _
  · exact List.nodup_singleton _
  · refine List.nodup_cons.mpr ⟨fun same => ?_, List.nodup_singleton _⟩
    cases congrArg Key.messageClass (List.mem_singleton.mp same)

/-- What dispatching a request comes to. It is turned away, and nothing has happened; or some of the
commands of its plan are sent, up to the first that something stood in the way of before the
dispatch began; or all of them are sent, a question before a setting, each as a frame to the node
with the command class of the control, and each with a ticket of its own under a new id. -/
inductive Request.Gated (request : Request) (directory : Directory) (controller : NodeId)
    (history : History) (tracker : Tracker) (refuses : Frame → Option String)
    (dispatched : Dispatched) : Prop where
  | turnedAway {error : RequestError}
      (turned : request.TurnedAway directory controller error)
      (result : dispatched.result = .error error) (sent : dispatched.sent = [])
      (kept : dispatched.tracker = tracker)
  | stopped {control : Control} {commandClass : CommandClass} {device : Device} {plan : Plan}
      {done : List Command} {command : Command} {undone : List Command} {error : RequestError}
      (admitted : request.Admitted directory controller control commandClass device plan)
      (split : plan.commands = done ++ command :: undone)
      (takes : ∀ earlier ∈ done, tracker.Takes refuses earlier)
      (stops : tracker.Stops refuses command error)
      (result : dispatched.result = .error error)
      (sent : dispatched.sent = done.map Command.frame)
  | accepted {control : Control} {commandClass : CommandClass} {device : Device} {plan : Plan}
      {tickets : List Ticket}
      (admitted : request.Admitted directory controller control commandClass device plan)
      (takes : ∀ command ∈ plan.commands, tracker.Takes refuses command)
      (result : dispatched.result = .ok ⟨control, device.id, tickets, plan.notices⟩)
      (sent : dispatched.sent = plan.commands.map Command.frame)
      (nonempty : plan.commands ≠ []) (planFor : plan.IsFor device.id)
      (instructs : ∀ frame ∈ dispatched.sent, frame.Instructs device.id commandClass)
      (keys : tickets.map (·.key) = plan.commands.map Key.ofCommand)
      (distinct : (tickets.map (·.key)).Nodup)
      (increasing : tickets.Pairwise fun first second => first.id.number < second.id.number)
      (new : ∀ ticket ∈ tickets, ∀ id ∈ history.acceptedIds, id.number < ticket.id.number)

namespace Tracker

open InFlight

variable {tracker : Tracker} {history : History} {timeout : Duration} {request : Request}
  {directory : Directory} {controller : NodeId} {now : Instant}
  {refuses : Frame → Option String}

private theorem Run.batched_of_admitted (run : Run timeout history tracker) {control : Control}
    {commandClass : CommandClass} {device : Device} {plan : Plan}
    (admitted : request.Admitted directory controller control commandClass device plan) :
    Batched tracker refuses plan.commands (tracker.submitAll now refuses plan.commands) := by
  have planFor := Request.isFor_resolve (Request.resolve_of_admitted admitted)
  exact batched run.accounts.coherent planFor.nodup_keys

private theorem Run.gated (run : Run timeout history tracker) :
    request.Gated directory controller history tracker refuses
      (request.dispatch directory controller tracker now refuses) := by
  rcases request.turnedAway_or_admitted directory controller with
    ⟨error, turned⟩ | ⟨control, commandClass, device, plan, admitted⟩
  · have resolved := Request.resolve_of_turnedAway turned
    have dispatched : request.dispatch directory controller tracker now refuses =
        ⟨tracker, [.log (request.errorLine error)], [], .error error⟩ := by
      rw [Request.dispatch, resolved]
    rw [dispatched]
    exact .turnedAway turned rfl rfl rfl
  · have resolved := Request.resolve_of_admitted admitted
    have came : Batched tracker refuses plan.commands
        (tracker.submitAll now refuses plan.commands) := run.batched_of_admitted admitted
    rw [Request.dispatch, resolved]
    cases came with
    | cut split takes stops failed sent =>
        simp only [failed]
        exact .stopped admitted split takes stops rfl sent
    | whole takes clean sent tickets =>
        have named : request.named = control := (Request.names_iff.mp admitted.named).2
        have checked := Control.checked_plan admitted.drives request.form device.id controller
        rw [admitted.planned] at checked
        obtain ⟨planFor, nonempty, drives⟩ := checked
        simp only [clean]
        refine .accepted admitted takes (by rw [named]) sent nonempty planFor ?_ ?_ ?_ ?_ ?_
        · intro frame member
          rw [sent] at member
          obtain ⟨command, listed, rfl⟩ := List.mem_map.mp member
          exact Command.instructs_frame (drives command listed).1 (drives command listed).2
        · rw [tickets, map_key_ticketsAfter]
        · rw [tickets, map_key_ticketsAfter]
          exact planFor.nodup_keys
        · rw [tickets]
          exact pairwise_ticketsAfter tracker.lastId plan.commands
        · rw [tickets]
          intro ticket member id old
          exact Nat.lt_of_le_of_lt (run.accounts.known id old) (lt_of_mem_ticketsAfter member)

private theorem Run.accepted_of_takes (run : Run timeout history tracker) {control : Control}
    {commandClass : CommandClass} {device : Device} {plan : Plan}
    (admitted : request.Admitted directory controller control commandClass device plan)
    (takes : ∀ command ∈ plan.commands, tracker.Takes refuses command) :
    ∃ accepted, (request.dispatch directory controller tracker now refuses).result =
      .ok accepted := by
  have came : Batched tracker refuses plan.commands
      (tracker.submitAll now refuses plan.commands) := run.batched_of_admitted admitted
  rw [Request.dispatch, Request.resolve_of_admitted admitted]
  cases came with
  | whole _ clean sent tickets =>
      simp only [clean]
      exact ⟨_, rfl⟩
  | cut split _ stops failed sent =>
      have listed := split ▸ List.mem_append_right _ List.mem_cons_self
      exact (stops.not_takes (takes _ listed)).elim

/-- A request is never turned away for what is in flight: that is looked at on submission only. -/
private theorem not_turnedAway_duplicate {key : Key} :
    ¬request.TurnedAway directory controller (.duplicateInFlight key) := by
  intro turned
  cases turned with
  | @invalid control device commandClass error named found drives supported refused =>
      have checked := Control.checked_plan drives request.form device.id controller
      rw [refused] at checked
      cases checked

private theorem contains_of_duplicate {dispatched : Dispatched} {key : Key}
    (gated : request.Gated directory controller history tracker refuses dispatched)
    (failed : dispatched.result = .error (.duplicateInFlight key)) :
    tracker.inFlight.contains key = true := by
  cases gated with
  | turnedAway turned result sent kept =>
      rw [failed] at result
      cases result
      exact (not_turnedAway_duplicate turned).elim
  | stopped admitted split takes stops result sent =>
      rw [failed] at result
      cases result
      cases stops with
      | duplicate taken => exact taken
  | accepted admitted takes result =>
      rw [failed] at result
      cases result

/-- **What a dispatch comes to.** After every run, the first gate that stops a request gives its
error, and a request that no gate stops is accepted. It fails for a key in flight only if that key
was taken before the dispatch began: the question and the setting of one request do not stand in
each other's way. -/
theorem Run.dispatch_gated (run : Run timeout history tracker) (request : Request)
    (directory : Directory) (controller : NodeId) (now : Instant)
    (refuses : Frame → Option String) :
    request.Gated directory controller history tracker refuses
      (request.dispatch directory controller tracker now refuses) ∧
    (∀ control commandClass device plan,
      request.Admitted directory controller control commandClass device plan →
      (∀ command ∈ plan.commands, tracker.Takes refuses command) →
        ∃ accepted, (request.dispatch directory controller tracker now refuses).result =
          .ok accepted) ∧
    ∀ key, (request.dispatch directory controller tracker now refuses).result =
        .error (.duplicateInFlight key) →
      tracker.inFlight.contains key = true := by
  refine ⟨run.gated, ?_, ?_⟩
  · intro control commandClass device plan admitted takes
    exact run.accepted_of_takes admitted takes
  · intro key failed
    exact contains_of_duplicate run.gated failed

/-- A level is asked for and set: two frames are sent, in this order, for ids after the one that is
waiting. -/
theorem Run.dispatch_gated_of_level :
    ∃ history tracker, Run ⟨10⟩ history tracker ∧
      let request : Request := ⟨" Basic", "5", ⟨[("update", "1"), ("value", "6")]⟩⟩
      let directory := Directory.empty.register (Device.ofClasses ⟨5⟩ none [.basic])
      let dispatched := request.dispatch directory ⟨1⟩ tracker ⟨0⟩ fun _ => none
      dispatched.sent =
          [(Command.query ⟨5⟩ .basic).frame, (Command.set ⟨5⟩ (.basic 6)).frame] ∧
        request.Gated directory ⟨1⟩ history tracker (fun _ => none) dispatched := by
  have run := (@Run.fresh ⟨10⟩).submit .controllerVersion ⟨0⟩ fun _ => none
  exact ⟨_, _, run, by decide +kernel, (Run.dispatch_gated run _ _ _ _ _).1⟩

end Tracker

end ZWaveGateway
