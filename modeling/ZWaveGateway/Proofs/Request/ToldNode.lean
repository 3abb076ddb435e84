import ZWaveGateway.Proofs.Request.Acceptance
import ZWaveGateway.Proofs.Request.Gates
import ZWaveGateway.Settings

/-!
# The nodes that devices are told about

Two settings tell a device about another node: joining or leaving a group names the member, and a
wake-up interval names the controller as the node to be notified. The member is checked when the
form is read, so it is a node that a network can assign. The controller's own node comes from a
variable, and nothing checks it on its way to the device: whatever number of one byte the variable
gives is sent (`ZWaveGateway.Settings.tells_controller_node`), also one that no network assigns
(`ZWaveGateway.Settings.tells_unassignable_node`).
-/

namespace ZWaveGateway

/-! ## What a command tells -/

/-- The node that a device is told about by an action, if it is told about one. -/
def SetAction.toldNode? : SetAction → Option NodeId
  | .associationSet association | .associationRemove association => some association.target
  | .wakeUpInterval _ notified => some notified
  | _ => none

/-- The node besides its own that a device is told about by a command. -/
def Command.toldNode? : Command → Option NodeId
  | .set _ action => action.toldNode?
  | _ => none

/-- The node that a device is told about comes last. -/
theorem SetAction.bytes_of_toldNode? {action : SetAction} {told : NodeId}
    (tells : action.toldNode? = some told) : ∃ front, action.bytes = front ++ [told.number] := by
  cases action with
  | associationSet association =>
      cases tells
      exact ⟨[_, _, association.group], rfl⟩
  | associationRemove association =>
      cases tells
      exact ⟨[_, _, association.group], rfl⟩
  | wakeUpInterval interval notified =>
      cases tells
      exact ⟨_ :: _ :: interval.bytes, rfl⟩
  | _ => cases tells

theorem Command.commandBytes?_of_toldNode? {command : Command} {told : NodeId}
    (tells : command.toldNode? = some told) :
    ∃ front, command.frame.commandBytes? = some (front ++ [told.number]) := by
  cases command with
  | set node action =>
      obtain ⟨front, bytes⟩ := SetAction.bytes_of_toldNode? tells
      exact ⟨front, (commandBytes?_frame _).trans (congrArg some bytes)⟩
  | _ => cases tells

/-! ## What is sent for a request -/

theorem exists_of_map_eq_ok {α β : Type} {read : Except RequestError α} {change : α → β}
    {result : β} (changed : read.map change = .ok result) :
    ∃ value, read = .ok value ∧ change value = result := by
  cases read with
  | error error => cases changed
  | ok value => exact ⟨value, rfl, Except.ok.inj changed⟩

namespace Plan

variable {form : Form} {plan : Plan} {query command : Command} {set : Except RequestError Command}

theorem mem_queryThenSet (planned : queryThenSet form query set = .ok plan)
    (listed : command ∈ plan.commands) : command = query ∨ set = .ok command := by
  unfold queryThenSet at planned
  split at planned
  · obtain ⟨chosen, rfl, rfl⟩ := exists_of_map_eq_ok planned
    exact .inr (congrArg _ (List.mem_singleton.mp listed).symm)
  · split at planned
    · cases planned
      exact .inl (List.mem_singleton.mp listed)
    · obtain ⟨chosen, rfl, rfl⟩ := exists_of_map_eq_ok planned
      obtain first | second := List.mem_cons.mp listed
      · exact .inl first
      · exact .inr (congrArg _ (List.mem_singleton.mp second).symm)

theorem mem_setOnly (planned : setOnly form set = .ok plan) (listed : command ∈ plan.commands) :
    set = .ok command := by
  unfold setOnly at planned
  split at planned
  · obtain ⟨chosen, rfl, rfl⟩ := exists_of_map_eq_ok planned
    exact congrArg _ (List.mem_singleton.mp listed).symm
  · split at planned
    · cases planned
    · obtain ⟨chosen, rfl, rfl⟩ := exists_of_map_eq_ok planned
      exact congrArg _ (List.mem_singleton.mp listed).symm

end Plan

/-- What a plan lists is a question of a control that can ask, or a setting that carries what the
form says. -/
theorem Control.asks_or_carries {control : Control} {form : Form} {node controller : NodeId}
    {plan : Plan} {command : Command} (planned : control.plan form node controller = .ok plan)
    (listed : command ∈ plan.commands) :
    ((control.asks?.isSome = true ∨ control = .version) ∧
      ∃ target, command = .query node target) ∨
    ∃ action, command = .set node action ∧ form.Carries controller control action := by
  cases takes : control.takesRequests with
  | false =>
      rw [plan_of_takes_none takes] at planned
      cases planned
  | true =>
      obtain ⟨setting, reads⟩ | rfl := reads_or_version takes form controller
      · have carried (sets : setting.map (.set node) = .ok command) :
            ∃ action, command = .set node action ∧ form.Carries controller control action := by
          obtain ⟨action, accepted, same⟩ := exists_of_map_eq_ok sets
          exact ⟨action, same.symm, ((Form.follows_setting reads).met_all accepted).1⟩
        rw [plan_of_reads reads] at planned
        split at planned
        · next target asks =>
            obtain rfl | sets := Plan.mem_queryThenSet planned listed
            · exact .inl ⟨.inl (Option.isSome_of_eq_some asks), target, rfl⟩
            · exact .inr (carried sets)
        · exact .inr (carried (Plan.mem_setOnly planned listed))
      · change form.versionPlan (.query node .version) = .ok plan at planned
        unfold Form.versionPlan at planned
        split at planned
        · cases planned
          exact .inl ⟨.inr rfl, .version, List.mem_singleton.mp listed⟩
        · cases planned

/-- The frames of a batch are frames of its commands. -/
theorem Tracker.mem_sent_submitAll {tracker : Tracker} {now : Instant}
    {refuses : Frame → Option String} {commands : List Command} {frame : Frame}
    (sent : frame ∈ (tracker.submitAll now refuses commands).sent) :
    ∃ command ∈ commands, command.frame = frame := by
  induction commands generalizing tracker with
  | nil => cases sent
  | cons command rest later =>
      cases result : (tracker.submit command now refuses).result with
      | error error =>
          rw [submitAll_of_error result] at sent
          cases sent
      | ok ticket =>
          rw [submitAll_of_ok result] at sent
          obtain rfl | sent := List.mem_cons.mp sent
          · exact ⟨command, List.mem_cons_self, rfl⟩
          · obtain ⟨command, listed, same⟩ := later sent
            exact ⟨command, List.mem_cons_of_mem _ listed, same⟩

namespace Request

variable {request : Request} {directory : Directory} {controller : NodeId} {tracker : Tracker}
  {now : Instant} {refuses : Frame → Option String} {frame : Frame}

/-- Which node the device is told about for a request: the controller with a wake-up interval, the
member that the form gives with an association, and none otherwise. -/
inductive Tells (request : Request) (controller : NodeId) : Option NodeId → Prop where
  | notified (named : request.Names .wakeUp) : Tells request controller (some controller)
  | member {target : NodeId} (named : request.Names .association)
      (given : request.form.Gives Form.targetKeys target.number.toNat)
      (assignable : target.Assignable) : Tells request controller (some target)
  | nobody {control : Control} (named : request.Names control) (notWakeUp : control ≠ .wakeUp)
      (notAssociation : control ≠ .association) : Tells request controller none

/-- What is sent for a request was planned for it. -/
theorem mem_sent_dispatch
    (sent : frame ∈ (request.dispatch directory controller tracker now refuses).sent) :
    ∃ control commandClass device plan,
      request.Admitted directory controller control commandClass device plan ∧
        ∃ command ∈ plan.commands, command.frame = frame := by
  obtain ⟨error, turned⟩ | ⟨control, commandClass, device, plan, admitted⟩ :=
    request.turnedAway_or_admitted directory controller
  · rw [dispatch, resolve_of_turnedAway turned] at sent
    cases sent
  · refine ⟨control, commandClass, device, plan, admitted, ?_⟩
    apply Tracker.mem_sent_submitAll
    rw [dispatch, resolve_of_admitted admitted] at sent
    dsimp only at sent
    split at sent <;> exact sent

theorem tells_of_sent
    (sent : frame ∈ (request.dispatch directory controller tracker now refuses).sent) :
    ∃ command : Command, command.frame = frame ∧
      request.Tells controller command.toldNode? := by
  obtain ⟨control, commandClass, device, plan, admitted, command, listed, same⟩ :=
    mem_sent_dispatch sent
  have named := admitted.named
  refine ⟨command, same, ?_⟩
  obtain ⟨asks, target, rfl⟩ | ⟨action, rfl, carries⟩ :=
    Control.asks_or_carries admitted.planned listed
  · apply Tells.nobody named
    all_goals
      rintro rfl
      obtain asks | version := asks
      · cases asks
      · cases version
  · cases carries with
    | @associationSet association action group target =>
        exact .member named target association.assignable
    | @associationRemove association action group target =>
        exact .member named target association.assignable
    | wakeUp seconds => exact .notified named
    | _ => exact .nobody named (by decide) (by decide)

end Request

/-! ## What a variable says -/

namespace Settings

variable {lookup : String → Option String} {key raw : String} {most value : Nat}

/-- The variable of the controller's own node. -/
def nodeVariable : String := "ZWAVE_CONTROLLER_NODE"

/-- A variable gives a number: it writes it in decimal, with blanks around it. -/
def Gives (lookup : String → Option String) (key : String) (value : Nat) : Prop :=
  ∃ raw, lookup key = some raw ∧ Text.Numeral.Writes (Text.trim raw) value

/-- A number is taken from a variable exactly if the variable gives it and it is not too large. -/
theorem number_eq_some_iff :
    (number lookup key most).1 = some value ↔ Gives lookup key value ∧ value ≤ most := by
  unfold number Gives
  split
  · next unset => simp only [unset, reduceCtorEq, false_and, exists_false]
  · next raw set =>
      simp only [set, Option.some.injEq, exists_eq_left', ← Text.Numeral.natural?_eq_some_iff]
      split <;> simp_all only [reduceCtorEq]

theorem number_eq_none_iff :
    (number lookup key most).1 = none ↔ ∀ value, Gives lookup key value → most < value := by
  simp only [Option.eq_none_iff_forall_ne_some, ne_eq, number_eq_some_iff, not_and, Nat.not_le]

/-- A variable is warned about exactly if it is set and no number is taken from it. -/
theorem mem_number_iff {line : LogLine} :
    line ∈ (number lookup key most).2 ↔
      ∃ raw, lookup key = some raw ∧ (number lookup key most).1 = none ∧
        line = ignored key raw := by
  unfold number
  split
  · next unset => simp [unset]
  · next raw set =>
      split <;> simp [set]

/-- A warning names its variable in front of the first sign of equality. -/
theorem eq_of_ignored_eq {other text : String} (plain : '=' ∉ key.toList)
    (plainOther : '=' ∉ other.toList) (same : ignored key raw = ignored other text) :
    key = other := by
  have front (name : String) (plain : '=' ∉ name.toList) (rest : List Char) :
      (name.toList ++ '=' :: rest).takeWhile (· != '=') = name.toList := by
    rw [List.takeWhile_append_of_pos, List.takeWhile_cons_of_neg (by decide), List.append_nil]
    intro c member
    exact bne_iff_ne.mpr fun equal => plain (equal ▸ member)
  have words := congrArg (String.toList ∘ LogLine.text) same
  simp only [ignored, Function.comp_apply, String.toList_append, List.append_assoc,
    List.append_cancel_left_eq] at words
  have names := congrArg (List.takeWhile (· != '=')) words
  exact String.toList_inj.mp
    (((front key plain _).symm.trans names).trans (front other plainOther _))

/-- The warnings are those about the single variables. -/
theorem lines_ofLookup (lookup : String → Option String) :
    ∃ speed timeout interval, (ofLookup lookup).2 =
      (number lookup "ZWAVE_BAUD_RATE" speed).2 ++ (number lookup nodeVariable 255).2 ++
        (number lookup "ZWAVE_TRANSACTION_TIMEOUT_MS" timeout).2 ++
        (number lookup "ZWAVE_SWEEP_INTERVAL_MS" interval).2 := by
  unfold ofLookup nodeVariable
  exact ⟨_, _, _, rfl⟩

/-- No warning about another variable can be taken for one about the controller's node. -/
theorem ignored_mem_ofLookup_iff (set : lookup nodeVariable = some raw) :
    ignored nodeVariable raw ∈ (ofLookup lookup).2 ↔
      (number lookup nodeVariable 255).1 = none := by
  have foreign {other : String} {bound : Nat} (plain : '=' ∉ other.toList)
      (apart : nodeVariable ≠ other) :
      ignored nodeVariable raw ∉ (number lookup other bound).2 := by
    intro warned
    obtain ⟨text, -, -, same⟩ := mem_number_iff.mp warned
    exact apart (eq_of_ignored_eq (by decide) plain same)
  obtain ⟨_, _, _, lines⟩ := lines_ofLookup lookup
  rw [lines]
  simp only [List.mem_append]
  constructor
  · rintro (((baud | node) | timeout) | sweep)
    · exact (foreign (by decide) (by decide) baud).elim
    · obtain ⟨text, -, missing, -⟩ := mem_number_iff.mp node
      exact missing
    · exact (foreign (by decide) (by decide) timeout).elim
    · exact (foreign (by decide) (by decide) sweep).elim
  · intro missing
    exact .inl (.inl (.inr (mem_number_iff.mpr ⟨raw, set, missing, rfl⟩)))

theorem controllerNode_ofLookup (lookup : String → Option String) :
    (ofLookup lookup).1.controllerNode =
      ((number lookup nodeVariable 255).1.map fun number => NodeId.mk (UInt8.ofNat number)).getD
        ⟨1⟩ := by
  unfold ofLookup nodeVariable
  rfl

theorem assignable_ofNat_iff (small : value ≤ 255) :
    NodeId.Assignable ⟨UInt8.ofNat value⟩ ↔ value ≠ 0 ∧ ¬(233 ≤ value ∧ value ≤ 255) := by
  have whole : (UInt8.ofNat value).toNat = value :=
    UInt8.toNat_ofNat_of_lt' (Nat.lt_succ_of_le small)
  have greatest : NodeId.greatest.toNat = 232 := rfl
  simp only [NodeId.Assignable, UInt8.le_iff_toNat_le, whole, greatest, UInt8.toNat_one]
  omega

/-- **The controller's node is told unchecked.** The controller's node is what its variable gives in
one byte, and is 1 if it gives nothing of the kind, which is warned about. So it is a node that a
network assigns unless the variable gives 0 or a number from 233 to 255, and about these nobody is
warned. Whatever it is, a request for a wake-up interval sends it to the device as the last command
byte, while the member of a group is always one that a network assigns. -/
theorem tells_controller_node (lookup : String → Option String) :
    (∀ value, Gives lookup nodeVariable value → value ≤ 255 →
      (ofLookup lookup).1.controllerNode = ⟨UInt8.ofNat value⟩) ∧
    ((∀ value, Gives lookup nodeVariable value → 255 < value) →
      (ofLookup lookup).1.controllerNode = ⟨1⟩) ∧
    (∀ raw, lookup nodeVariable = some raw →
      (ignored nodeVariable raw ∈ (ofLookup lookup).2 ↔
        ∀ value, Gives lookup nodeVariable value → 255 < value)) ∧
    ((ofLookup lookup).1.controllerNode.Assignable ↔
      ∀ value, Gives lookup nodeVariable value → value ≠ 0 ∧ ¬(233 ≤ value ∧ value ≤ 255)) ∧
    ∀ (request : Request) (directory : Directory) (tracker : Tracker) (now : Instant)
      (refuses : Frame → Option String),
      ∀ frame ∈ (request.dispatch directory (ofLookup lookup).1.controllerNode tracker now
          refuses).sent,
        ∃ command : Command, command.frame = frame ∧
          request.Tells (ofLookup lookup).1.controllerNode command.toldNode? ∧
          ∀ told, command.toldNode? = some told →
            ∃ front, frame.commandBytes? = some (front ++ [told.number]) := by
  refine ⟨fun value gives small => ?_, fun large => ?_,
    fun raw set => (ignored_mem_ofLookup_iff set).trans number_eq_none_iff, ?_, ?_⟩
  · rw [controllerNode_ofLookup, number_eq_some_iff.mpr ⟨gives, small⟩]
    rfl
  · rw [controllerNode_ofLookup, number_eq_none_iff.mpr large]
    rfl
  · rw [controllerNode_ofLookup]
    cases read : (number lookup nodeVariable 255).1 with
    | none =>
        refine iff_of_true (by decide) fun value gives => ?_
        have large := number_eq_none_iff.mp read value gives
        omega
    | some value =>
        obtain ⟨gives, small⟩ := number_eq_some_iff.mp read
        refine (assignable_ofNat_iff small).trans ⟨fun within other otherGives => ?_,
          fun within => within value gives⟩
        by_cases fits : other ≤ 255
        · -- A variable gives one number only.
          have both := number_eq_some_iff.mpr ⟨otherGives, fits⟩
          rw [read] at both
          exact Option.some.inj both ▸ within
        · omega
  · intro request directory tracker now refuses frame sent
    obtain ⟨command, rfl, tells⟩ := Request.tells_of_sent sent
    exact ⟨command, rfl, tells, fun told tellsNode => Command.commandBytes?_of_toldNode? tellsNode⟩

/-- The variable gives 0, which no network assigns, and nobody is warned; a device that is asked to
wake up every hour is told to notify node 0. -/
theorem tells_unassignable_node :
    let lookup := fun key => if key = nodeVariable then some "0" else none
    let request : Request := ⟨"wakeup", "5", ⟨[("interval", "3600")]⟩⟩
    let directory := Directory.empty.register (Device.ofClasses ⟨5⟩ none [.wakeUp])
    let settings := (ofLookup lookup).1
    settings.controllerNode = ⟨0⟩ ∧ ¬settings.controllerNode.Assignable ∧
      (ofLookup lookup).2 = [] ∧
      let dispatched := request.dispatch directory settings.controllerNode
        (.fresh settings.transactionTimeout) ⟨0⟩ fun _ => none
      dispatched.sent.map Frame.commandBytes? = [some [0x84, 0x04, 0x00, 0x0E, 0x10, 0x00]] := by
  decide +kernel

end Settings

end ZWaveGateway
