import ZWaveGateway.Request.Plan

/-!
# What a plan can be

Ten controls read ten forms, each in its own way, and a command class stands in four places: with the
control, with the question, with the setting, and in the bytes that are sent. A plan is made of
checked values (`ZWaveGateway.Checked`), and whatever the form says, it comes to a command or two for
the node, of the class that its control drives; what can be wrong with a form is found before
anything is sent (`ZWaveGateway.Control.checked_plan`).
-/

namespace ZWaveGateway

/-- What a form can be refused for, whatever else is in flight. -/
inductive RequestError.OfForm : RequestError → Prop where
  | invalid (field : String) (complaint : Complaint) : OfForm (.invalidParameter field complaint)
  | unimplemented (feature : String) : OfForm (.notImplemented feature)
  | unsupported : OfForm .unsupportedControl

/-- What was read from a form has a property, or the form is refused. -/
def Checked {α : Type} (P : α → Prop) : Except RequestError α → Prop
  | .ok value => P value
  | .error error => error.OfForm

section Checked

variable {α β : Type} {P : α → Prop} {Q : β → Prop} {read : Except RequestError α}

theorem Checked.bind {further : α → Except RequestError β} (checked : Checked P read)
    (later : ∀ value, P value → Checked Q (further value)) : Checked Q (read >>= further) := by
  cases read with
  | error error => exact checked
  | ok value => exact later value checked

end Checked

/-! ## Fields -/

theorem checked_assignable? (field : String) (number : Int) :
    Checked (fun _ => True) (NodeId.assignable? field number) := by
  unfold NodeId.assignable?
  split
  · trivial
  · exact .invalid _ _

theorem ConfigurationParameter.checked_ofNumbers (index value size : Int) :
    Checked (fun _ => True) (ofNumbers index value size) := by
  unfold ofNumbers
  split
  · exact .invalid _ _
  · split
    · exact .invalid _ _
    · split
      · trivial
      · exact .invalid _ _

theorem Association.checked_ofNumbers (group target : Int) :
    Checked (fun _ => True) (ofNumbers group target) := by
  unfold ofNumbers
  split
  · split
    · next error refused =>
        have checked := checked_assignable? "target" target
        rw [refused] at checked
        exact checked
    · trivial
  · exact .invalid _ _

theorem WakeUpInterval.checked_ofSeconds (seconds : Int) :
    Checked (fun _ => True) (ofSeconds seconds) := by
  unfold ofSeconds
  split
  · trivial
  · exact .invalid _ _

theorem Setpoint.checked_read (field text : String) : Checked (fun _ => True) (read field text) := by
  unfold read
  split
  · exact .invalid _ _
  · exact .invalid _ _
  · exact .invalid _ _
  · split
    · exact .invalid _ _
    · split
      · trivial
      · exact .invalid _ _

theorem TemperatureScale.checked_ofNumber (number : Int) :
    Checked (fun _ => True) (ofNumber number) := by
  unfold ofNumber
  split
  · trivial
  · split
    · trivial
    · exact .invalid _ _

theorem SetpointType.checked_ofNumber (number : Int) :
    Checked (fun _ => True) (ofNumber number) := by
  unfold ofNumber
  dsimp only
  split
  · trivial
  · exact .invalid _ _

namespace Form

variable (form : Form)

theorem checked_integerOfAny (field : String) (keys : List String) :
    Checked (fun _ => True) (form.integerOfAny field keys) := by
  unfold integerOfAny
  split
  · exact .invalid _ _
  · split
    · exact .invalid _ _
    · trivial

theorem checked_integer (field : String) : Checked (fun _ => True) (form.integer field) :=
  form.checked_integerOfAny field [field]

theorem checked_level (field : String) : Checked (fun _ => True) (form.level field) := by
  refine (form.checked_integer field).bind fun value _ => ?_
  split
  · trivial
  · exact .invalid _ _

theorem checked_text (field : String) : Checked (fun _ => True) (form.text field) := by
  unfold text
  split
  · exact .invalid _ _
  · trivial

theorem checked_modeCode : Checked (fun _ => True) form.modeCode := by
  refine (form.checked_integer "mode").bind fun mode _ => ?_
  split
  · trivial
  · exact .invalid _ _

/-! ## Settings -/

theorem checked_basicSetting : Checked (·.commandClass = .basic) form.basicSetting :=
  (form.checked_level "value").bind fun _ _ => rfl

theorem checked_binarySwitchSetting :
    Checked (·.commandClass = .switchBinary) form.binarySwitchSetting :=
  (form.checked_integer "value").bind fun _ _ => rfl

theorem checked_multilevelSwitchSetting :
    Checked (·.commandClass = .switchMultilevel) form.multilevelSwitchSetting :=
  (form.checked_level "value").bind fun _ _ => rfl

theorem checked_configurationSetting :
    Checked (·.commandClass = .configuration) form.configurationSetting := by
  refine (form.checked_integer "index").bind fun index _ => ?_
  refine (form.checked_integer "value").bind fun value _ => ?_
  refine (form.checked_integer "size").bind fun size _ => ?_
  exact (ConfigurationParameter.checked_ofNumbers index value size).bind fun _ _ => rfl

theorem checked_associationSetting :
    Checked (·.commandClass = .association) form.associationSetting := by
  have joined (join : Bool) : Checked (·.commandClass = .association) (do
      let group ← form.integerOfAny "group" ["group", "assoc_group"]
      let target ← form.integerOfAny "target" ["target", "assoc_node"]
      let association ← Association.ofNumbers group target
      return if join then SetAction.associationSet association
        else .associationRemove association) := by
    refine (form.checked_integerOfAny _ _).bind fun group _ => ?_
    refine (form.checked_integerOfAny _ _).bind fun target _ => ?_
    refine (Association.checked_ofNumbers group target).bind fun association _ => ?_
    cases join <;> rfl
  unfold associationSetting
  dsimp only
  split
  · exact joined true
  · exact joined false
  · exact .invalid _ _

theorem checked_thermostatModeSetting :
    Checked (·.commandClass = .thermostatMode) form.thermostatModeSetting := by
  refine form.checked_modeCode.bind fun mode _ => ?_
  split
  · rfl
  · exact .invalid _ _

theorem checked_thermostatFanModeSetting :
    Checked (·.commandClass = .thermostatFanMode) form.thermostatFanModeSetting := by
  refine form.checked_modeCode.bind fun mode _ => ?_
  split
  · rfl
  · exact .invalid _ _

theorem checked_thermostatSetpointSetting :
    Checked (·.commandClass = .thermostatSetpoint) form.thermostatSetpointSetting := by
  refine (form.checked_integer "mode").bind fun mode _ => ?_
  refine (form.checked_integer "scale").bind fun scale _ => ?_
  refine (form.checked_text "setpoint").bind fun text _ => ?_
  refine (Setpoint.checked_read "setpoint" text).bind fun value _ => ?_
  refine (TemperatureScale.checked_ofNumber scale).bind fun scale _ => ?_
  exact (SetpointType.checked_ofNumber mode).bind fun _ _ => rfl

theorem checked_wakeUpSetting (controller : NodeId) :
    Checked (·.commandClass = .wakeUp) (form.wakeUpSetting controller) := by
  refine (form.checked_integer "interval").bind fun seconds _ => ?_
  exact (WakeUpInterval.checked_ofSeconds seconds).bind fun _ _ => rfl

end Form

/-! ## Plans -/

namespace Plan

variable {node : NodeId} {commandClass : CommandClass} {form : Form}

/-- The plan asks and sets nothing but the node it was made for. -/
structure IsFor (plan : Plan) (node : NodeId) : Prop where
  asks : plan.query = none ∨ ∃ target, plan.query = some (.query node target)
  sets : plan.set = none ∨ ∃ action, plan.set = some (.set node action)

/-- The plan comes to a command or two for a node, each of the command class. -/
structure Drives (node : NodeId) (commandClass : CommandClass) (plan : Plan) : Prop where
  planFor : plan.IsFor node
  nonempty : plan.commands ≠ []
  classed : ∀ command ∈ plan.commands,
    command.node? = some node ∧ command.commandClass? = some commandClass

theorem drives_query {target : QueryTarget} (asks : target.commandClass = commandClass) :
    Drives node commandClass ⟨some (.query node target), none, []⟩ where
  planFor := ⟨.inr ⟨target, rfl⟩, .inl rfl⟩
  nonempty := List.cons_ne_nil _ _
  classed := List.forall_mem_singleton.mpr ⟨rfl, congrArg some asks⟩

theorem drives_set {action : SetAction} (sets : action.commandClass = commandClass)
    (notices : List RequestError) :
    Drives node commandClass ⟨none, some (.set node action), notices⟩ where
  planFor := ⟨.inl rfl, .inr ⟨action, rfl⟩⟩
  nonempty := List.cons_ne_nil _ _
  classed := List.forall_mem_singleton.mpr ⟨rfl, congrArg some sets⟩

theorem drives_both {target : QueryTarget} {action : SetAction}
    (asks : target.commandClass = commandClass) (sets : action.commandClass = commandClass) :
    Drives node commandClass ⟨some (.query node target), some (.set node action), []⟩ where
  planFor := ⟨.inr ⟨target, rfl⟩, .inr ⟨action, rfl⟩⟩
  nonempty := List.cons_ne_nil _ _
  classed := List.forall_mem_cons.mpr ⟨⟨rfl, congrArg some asks⟩,
    List.forall_mem_singleton.mpr ⟨rfl, congrArg some sets⟩⟩

theorem checked_queryThenSet {target : QueryTarget} {setting : Except RequestError SetAction}
    (asks : target.commandClass = commandClass)
    (checked : Checked (·.commandClass = commandClass) setting) :
    Checked (Drives node commandClass)
      (queryThenSet form (.query node target) (setting.map (.set node))) := by
  unfold queryThenSet
  split
  · cases setting with
    | error error => exact checked
    | ok action => exact drives_set checked []
  · split
    · exact drives_query asks
    · cases setting with
      | error error => exact checked
      | ok action => exact drives_both asks checked

theorem checked_setOnly {setting : Except RequestError SetAction}
    (checked : Checked (·.commandClass = commandClass) setting) :
    Checked (Drives node commandClass) (setOnly form (setting.map (.set node))) := by
  unfold setOnly
  split
  · cases setting with
    | error error => exact checked
    | ok action => exact drives_set checked []
  · split
    · exact .unimplemented _
    · cases setting with
      | error error => exact checked
      | ok action => exact drives_set checked [noUpdate]

theorem checked_versionPlan {target : QueryTarget} (asks : target.commandClass = commandClass) :
    Checked (Drives node commandClass) (form.versionPlan (.query node target)) := by
  unfold Form.versionPlan
  split
  · exact drives_query asks
  · exact .invalid _ _

end Plan

/-- Whatever a form says, its plan drives the class of its control on the node. -/
theorem Control.checked_plan {control : Control} {commandClass : CommandClass}
    (drives : control.commandClass? = some commandClass) (form : Form) (node controller : NodeId) :
    Checked (Plan.Drives node commandClass) (control.plan form node controller) := by
  cases control <;> cases drives
  case basic => exact Plan.checked_queryThenSet rfl form.checked_basicSetting
  case binarySwitch => exact Plan.checked_queryThenSet rfl form.checked_binarySwitchSetting
  case multilevelSwitch => exact Plan.checked_queryThenSet rfl form.checked_multilevelSwitchSetting
  case association => exact Plan.checked_setOnly form.checked_associationSetting
  case configuration => exact Plan.checked_setOnly form.checked_configurationSetting
  case thermostatFanMode => exact Plan.checked_setOnly form.checked_thermostatFanModeSetting
  case thermostatMode => exact Plan.checked_setOnly form.checked_thermostatModeSetting
  case thermostatSetpoint => exact Plan.checked_setOnly form.checked_thermostatSetpointSetting
  case wakeUp => exact Plan.checked_setOnly (form.checked_wakeUpSetting controller)
  case version => exact Plan.checked_versionPlan rfl
  all_goals exact .unsupported

theorem Control.isFor_plan {control : Control} {form : Form} {node controller : NodeId}
    {plan : Plan} (planned : control.plan form node controller = .ok plan) : plan.IsFor node := by
  cases drives : control.commandClass? with
  | none =>
      cases control <;> cases drives
      cases planned
  | some commandClass =>
      have checked := Control.checked_plan drives form node controller
      rw [planned] at checked
      exact checked.planFor

end ZWaveGateway
