import ZWaveGateway.Proofs.Request.Fields

/-!
# What a form has to say

Without an update wanted, a form comes to one setting or to none, and what decides is a list of
demands on its fields (`ZWaveGateway.Form.demands`), in the order in which they are looked at.

`ZWaveGateway.Control.settles_exactly` gives for every control that takes requests the forms that it
accepts, what it makes of them, and which field it blames otherwise.
-/

namespace ZWaveGateway

namespace Form

/-! ## What the controls demand -/

/-- The keys of an association's group and target. -/
def groupKeys : List String := ["group", "assoc_group"]

/-- Second names count only where the first one is missing. -/
def targetKeys : List String := ["target", "assoc_node"]

/-- What a control demands of a form for which no update is wanted, in the order in which it is
looked at. A demand that speaks of a number is met only if there is one. -/
def demands (form : Form) : Control → List (String × Prop)
  | .association => [
      ("action", form.Has ["action"] "set" ∨ form.Has ["action"] "remove"),
      ("group", form.GivesOne groupKeys fun _ => True),
      ("target", form.GivesOne targetKeys fun _ => True),
      ("group", form.GivesOne groupKeys fun group => 1 ≤ group ∧ group ≤ 255),
      ("target", form.GivesOne targetKeys fun target => 1 ≤ target ∧ target ≤ 232)]
  | .basic | .multilevelSwitch => [
      ("value", form.GivesOne ["value"] fun value => 0 ≤ value ∧ value ≤ 255)]
  | .binarySwitch => [("value", form.GivesOne ["value"] fun _ => True)]
  | .configuration => [
      ("index", form.GivesOne ["index"] fun _ => True),
      ("value", form.GivesOne ["value"] fun _ => True),
      ("size", form.GivesOne ["size"] fun _ => True),
      ("size", form.GivesOne ["size"] fun size => size = 1 ∨ size = 2 ∨ size = 4),
      ("index", form.GivesOne ["index"] fun index => 0 ≤ index ∧ index ≤ 255),
      ("value", form.GivesOne ["value"] fun value =>
        form.GivesOne ["size"] fun size => FitsBytes size value)]
  | .thermostatFanMode => [
      ("mode", form.GivesOne ["mode"] fun mode => 0 ≤ mode ∧ mode ≤ 7)]
  | .thermostatMode => [
      ("mode", form.GivesOne ["mode"] fun mode => 0 ≤ mode ∧ mode ≤ 13 ∨ mode = 15)]
  | .thermostatSetpoint => [
      ("mode", form.GivesOne ["mode"] fun _ => True),
      ("scale", form.GivesOne ["scale"] fun _ => True),
      ("setpoint", ∃ text, form.Has ["setpoint"] text ∧
        ∃ value, Setpoint.read "setpoint" text = .ok value),
      ("scale", form.GivesOne ["scale"] fun scale => scale = 0 ∨ scale = 1),
      ("mode", form.GivesOne ["mode"] fun mode => mode = 1 ∨ mode = 2 ∨ 7 ≤ mode ∧ mode ≤ 13)]
  | .version => [(updateKey, ∃ raw, form.raw? updateKey = some raw)]
  | .wakeUp => [
      ("interval", form.GivesOne ["interval"] fun seconds => 0 ≤ seconds ∧ seconds ≤ 16777215)]
  | _ => []

/-- A setting carries exactly what the form says. -/
inductive Carries (form : Form) (controller : NodeId) : Control → SetAction → Prop where
  | basic {level : UInt8} (value : form.Gives ["value"] level.toNat) :
      Carries form controller .basic (.basic level)
  | binarySwitch {number : Int} (value : form.Gives ["value"] number) :
      Carries form controller .binarySwitch (.binarySwitch (number != 0))
  | multilevelSwitch {level : UInt8} (value : form.Gives ["value"] level.toNat) :
      Carries form controller .multilevelSwitch (.multilevelSwitch level)
  | configuration {parameter : ConfigurationParameter}
      (index : form.Gives ["index"] parameter.index.toNat)
      (value : form.Gives ["value"] parameter.value)
      (size : form.Gives ["size"] parameter.width.bytes) :
      Carries form controller .configuration (.configuration parameter)
  | associationSet {association : Association} (action : form.Has ["action"] "set")
      (group : form.Gives groupKeys association.group.toNat)
      (target : form.Gives targetKeys association.target.number.toNat) :
      Carries form controller .association (.associationSet association)
  | associationRemove {association : Association} (action : form.Has ["action"] "remove")
      (group : form.Gives groupKeys association.group.toNat)
      (target : form.Gives targetKeys association.target.number.toNat) :
      Carries form controller .association (.associationRemove association)
  | thermostatMode {mode : ThermostatMode} (given : form.Gives ["mode"] mode.code.toNat) :
      Carries form controller .thermostatMode (.thermostatMode mode)
  | thermostatFanMode {mode : FanMode} (given : form.Gives ["mode"] mode.code.toNat) :
      Carries form controller .thermostatFanMode (.thermostatFanMode mode)
  | thermostatSetpoint {setpointType : SetpointType} {scale : TemperatureScale} {text : String}
      {value : Setpoint} (mode : form.Gives ["mode"] setpointType.code.toNat)
      (unit : form.Gives ["scale"] scale.code.toNat) (setpoint : form.Has ["setpoint"] text)
      (read : Setpoint.read "setpoint" text = .ok value) :
      Carries form controller .thermostatSetpoint (.thermostatSetpoint setpointType scale value)
  | wakeUp {interval : WakeUpInterval} (seconds : form.Gives ["interval"] interval.seconds) :
      Carries form controller .wakeUp (.wakeUpInterval interval controller)

/-! ## The controls follow their demands -/

variable (form : Form) (controller : NodeId)

theorem follows_basicSetting :
    Follows (form.Carries controller .basic) (form.demands .basic) form.basicSetting :=
  (form.follows_level "value").bind fun _ given => .done (.basic given)

theorem follows_binarySwitchSetting :
    Follows (form.Carries controller .binarySwitch) (form.demands .binarySwitch)
      form.binarySwitchSetting :=
  (form.follows_integer "value").bind fun _ given => .done (.binarySwitch given)

theorem follows_multilevelSwitchSetting :
    Follows (form.Carries controller .multilevelSwitch) (form.demands .multilevelSwitch)
      form.multilevelSwitchSetting :=
  (form.follows_level "value").bind fun _ given => .done (.multilevelSwitch given)

theorem follows_configurationSetting :
    Follows (form.Carries controller .configuration) (form.demands .configuration)
      form.configurationSetting := by
  refine (form.follows_integer "index").bind fun index indexGiven => ?_
  refine (form.follows_integer "value").bind fun value valueGiven => ?_
  refine (form.follows_integer "size").bind fun size sizeGiven => ?_
  simp only [indexGiven.one_iff, valueGiven.one_iff, sizeGiven.one_iff]
  refine (ConfigurationParameter.follows_ofNumbers index value size).bind_pure ?_
  rintro parameter ⟨rfl, rfl, rfl⟩
  exact .configuration indexGiven valueGiven sizeGiven

theorem follows_associationSetting :
    Follows (form.Carries controller .association) (form.demands .association)
      form.associationSetting := by
  have joined (join : Bool) (action : form.Has ["action"] (if join then "set" else "remove")) :
      Follows (form.Carries controller .association) (form.demands .association).tail (do
        let group ← form.integerOfAny "group" ["group", "assoc_group"]
        let target ← form.integerOfAny "target" ["target", "assoc_node"]
        let association ← Association.ofNumbers group target
        return if join then SetAction.associationSet association
          else .associationRemove association) := by
    refine (form.follows_integerOfAny "group" groupKeys).bind fun group groupGiven => ?_
    refine (form.follows_integerOfAny "target" targetKeys).bind fun target targetGiven => ?_
    simp only [groupGiven.one_iff, targetGiven.one_iff]
    refine (Association.follows_ofNumbers group target).bind_pure ?_
    rintro association ⟨rfl, rfl⟩
    cases join with
    | true => exact .associationSet action groupGiven targetGiven
    | false => exact .associationRemove action groupGiven targetGiven
  unfold associationSetting
  dsimp only
  split
  · next found =>
      have action := get?_eq_some_iff.mp found
      exact .met (.inl action) (joined true action)
  · next found =>
      have action := get?_eq_some_iff.mp found
      exact .met (.inr action) (joined false action)
  · next notSet notRemove =>
      refine .unmet _ ?_
      rintro (action | action)
      · exact notSet (get?_eq_some_iff.mpr action)
      · exact notRemove (get?_eq_some_iff.mpr action)

theorem follows_thermostatModeSetting :
    Follows (form.Carries controller .thermostatMode) (form.demands .thermostatMode)
      form.thermostatModeSetting := by
  refine Follows.merge (form.follows_modeCode.bind fun code given => ?_) ?_
  · rw [given.one_iff]
    apply Follows.of_lookup (ThermostatMode.ofCode? code)
    · exact ThermostatMode.isSome_ofCode?_iff.trans (by omega)
    · intro mode found
      obtain rfl := ThermostatMode.ofCode?_eq_some_iff.mp found
      rw [found]
      exact ⟨_, rfl, .thermostatMode given⟩
    · intro missing
      rw [missing]
      exact ⟨_, rfl⟩
  · rintro ⟨mode, given, within⟩
    exact ⟨mode, given, by omega⟩

theorem follows_thermostatFanModeSetting :
    Follows (form.Carries controller .thermostatFanMode) (form.demands .thermostatFanMode)
      form.thermostatFanModeSetting := by
  refine Follows.merge (form.follows_modeCode.bind fun code given => ?_) ?_
  · rw [given.one_iff]
    apply Follows.of_lookup (FanMode.ofCode? code)
    · exact FanMode.isSome_ofCode?_iff.trans (by omega)
    · intro mode found
      obtain rfl := FanMode.ofCode?_eq_some_iff.mp found
      rw [found]
      exact ⟨_, rfl, .thermostatFanMode given⟩
    · intro missing
      rw [missing]
      exact ⟨_, rfl⟩
  · rintro ⟨mode, given, within⟩
    exact ⟨mode, given, by omega⟩

theorem follows_thermostatSetpointSetting :
    Follows (form.Carries controller .thermostatSetpoint) (form.demands .thermostatSetpoint)
      form.thermostatSetpointSetting := by
  refine (form.follows_integer "mode").bind fun mode modeGiven => ?_
  refine (form.follows_integer "scale").bind fun scale scaleGiven => ?_
  refine Follows.merge ((form.follows_text "setpoint").bind fun text has => ?_)
    fun ⟨text, has, _⟩ => ⟨text, has⟩
  have only {wanted : String → Prop} :
      (∃ other, form.Has ["setpoint"] other ∧ wanted other) ↔ wanted text :=
    ⟨fun ⟨other, again, holds⟩ => has.unique again ▸ holds, fun holds => ⟨text, has, holds⟩⟩
  simp only [modeGiven.one_iff, scaleGiven.one_iff, only]
  refine (Setpoint.follows_read "setpoint" text).bind fun value read => ?_
  refine (TemperatureScale.follows_ofNumber scale).bind ?_
  rintro unit rfl
  refine (SetpointType.follows_ofNumber mode).bind_pure ?_
  rintro setpointType rfl
  exact .thermostatSetpoint modeGiven scaleGiven has read

theorem follows_wakeUpSetting :
    Follows (form.Carries controller .wakeUp) (form.demands .wakeUp)
      (form.wakeUpSetting controller) := by
  refine Follows.merge ((form.follows_integer "interval").bind fun seconds given => ?_) ?_
  · rw [given.one_iff]
    refine (WakeUpInterval.follows_ofSeconds seconds).bind_pure ?_
    rintro interval rfl
    exact .wakeUp given
  · rintro ⟨seconds, given, -⟩
    exact ⟨seconds, given, trivial⟩

/-- The settings that the controls read from a form. -/
def setting? : Control → Option (Except RequestError SetAction)
  | .association => some form.associationSetting
  | .basic => some form.basicSetting
  | .binarySwitch => some form.binarySwitchSetting
  | .configuration => some form.configurationSetting
  | .multilevelSwitch => some form.multilevelSwitchSetting
  | .thermostatFanMode => some form.thermostatFanModeSetting
  | .thermostatMode => some form.thermostatModeSetting
  | .thermostatSetpoint => some form.thermostatSetpointSetting
  | .wakeUp => some (form.wakeUpSetting controller)
  | _ => none

variable {form controller}

theorem follows_setting {control : Control} {setting : Except RequestError SetAction}
    (reads : form.setting? controller control = some setting) :
    Follows (form.Carries controller control) (form.demands control) setting := by
  unfold setting? at reads
  split at reads
  · exact Option.some.inj reads ▸ form.follows_associationSetting controller
  · exact Option.some.inj reads ▸ form.follows_basicSetting controller
  · exact Option.some.inj reads ▸ form.follows_binarySwitchSetting controller
  · exact Option.some.inj reads ▸ form.follows_configurationSetting controller
  · exact Option.some.inj reads ▸ form.follows_multilevelSwitchSetting controller
  · exact Option.some.inj reads ▸ form.follows_thermostatFanModeSetting controller
  · exact Option.some.inj reads ▸ form.follows_thermostatModeSetting controller
  · exact Option.some.inj reads ▸ form.follows_thermostatSetpointSetting controller
  · exact Option.some.inj reads ▸ form.follows_wakeUpSetting controller
  · cases reads

theorem wantsUpdate_eq_false_iff : form.wantsUpdate = false ↔ form.raw? updateKey = none := by
  rw [wantsUpdate, Option.isSome_eq_false_iff, Option.isNone_iff_eq_none]

end Form

/-! ## Plans without an update -/

namespace Plan

variable {form : Form} {set : Except RequestError Command}

theorem queryThenSet_of_plain (plain : form.wantsUpdate = false) (query : Command) :
    queryThenSet form query set = set.map fun command => ⟨none, some command, []⟩ := by
  rw [queryThenSet, plain]
  rfl

theorem setOnly_of_plain (plain : form.wantsUpdate = false) :
    setOnly form set = set.map fun command => ⟨none, some command, []⟩ := by
  rw [setOnly, plain]
  rfl

end Plan

namespace Control

variable {control : Control} {form : Form} {node controller : NodeId}

/-- The report that a control can ask for next to a setting. -/
def asks? : Control → Option QueryTarget
  | .basic => some .basic
  | .binarySwitch => some .binarySwitch
  | .multilevelSwitch => some .multilevelSwitch
  | _ => none

/-- A control that takes requests reads a setting, or it is the one that cannot be set. -/
theorem reads_or_version (takes : control.takesRequests = true) (form : Form)
    (controller : NodeId) :
    (∃ setting, form.setting? controller control = some setting) ∨ control = .version := by
  cases control <;> first | exact .inl ⟨_, rfl⟩ | exact .inr rfl | cases takes

theorem plan_of_takes_none (takesNone : control.takesRequests = false) :
    control.plan form node controller = .error .unsupportedControl := by
  rw [takesRequests, Option.isSome_eq_false_iff, Option.isNone_iff_eq_none] at takesNone
  rw [plan, takesNone]

/-- Controls that read a setting plan it in one of two ways: they can ask as well, or they cannot. -/
theorem plan_of_reads {setting : Except RequestError SetAction}
    (reads : form.setting? controller control = some setting) :
    control.plan form node controller =
      match control.asks? with
      | some target => Plan.queryThenSet form (.query node target) (setting.map (.set node))
      | none => Plan.setOnly form (setting.map (.set node)) := by
  unfold Form.setting? at reads
  split at reads <;> cases reads <;> rfl

theorem plan_of_plain {setting : Except RequestError SetAction}
    (reads : form.setting? controller control = some setting) (plain : form.wantsUpdate = false) :
    control.plan form node controller =
      setting.map fun action => ⟨none, some (.set node action), []⟩ := by
  have composed : ((setting.map (.set node)).map fun command => ⟨none, some command, []⟩) =
      setting.map fun action => (⟨none, some (.set node action), []⟩ : Plan) := by
    cases setting <;> rfl
  rw [plan_of_reads reads, ← composed]
  split
  · exact Plan.queryThenSet_of_plain plain _
  · exact Plan.setOnly_of_plain plain

theorem follows_plan (takes : control.takesRequests = true)
    (plain : form.raw? Form.updateKey = none) (node controller : NodeId) :
    Follows (fun plan => ∃ action, plan = ⟨none, some (.set node action), []⟩ ∧
        form.Carries controller control action)
      (form.demands control) (control.plan form node controller) := by
  have unwanted := Form.wantsUpdate_eq_false_iff.mpr plain
  obtain ⟨setting, reads⟩ | rfl := reads_or_version takes form controller
  · rw [plan_of_plain reads unwanted]
    exact (Form.follows_setting reads).map fun action carries => ⟨action, rfl, carries⟩
  · have refused : version.plan form node controller =
        .error (.invalidParameter Form.updateKey .readOnly) := by
      simp only [plan, planner?, Form.versionPlan, unwanted, Bool.false_eq_true, if_false]
    rw [refused]
    refine .unmet _ ?_
    rintro ⟨raw, found⟩
    cases plain.symm.trans found

end Control

end ZWaveGateway
