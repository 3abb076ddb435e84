import ZWaveGateway.Proofs.Request.Acceptance

/-!
# Asking for an update

A reader of a form looks at the keys that it names and at no others, so two forms that agree on
their settings come to the same setting (`ZWaveGateway.Form.SameSettings.setting?`). Addresses and
the key that asks for an update are no settings, and every key besides them is one, also a key that
nobody reads.

`ZWaveGateway.Control.update_only_adds` gives what asking for an update adds to the plan of each
control, and what a plan does not depend on.
-/

namespace ZWaveGateway

namespace Form

variable {one other : Form}

theorem isSetting_iff {key : String} :
    isSetting key = true ↔ key ≠ updateKey ∧ key ∉ addressKeys := by
  simp only [isSetting, Bool.and_eq_true, bne_iff_ne, Bool.not_eq_true', List.contains_eq_mem,
    decide_eq_false_iff_not]

theorem hasSettings_iff {form : Form} :
    form.hasSettings = true ↔
      ∃ key, isSetting key = true ∧ ∃ raw, form.raw? key = some raw := by
  rw [hasSettings, List.any_eq_true]
  constructor
  · rintro ⟨⟨key, text⟩, entered, setting⟩
    refine ⟨key, setting, Option.isSome_iff_exists.mp ?_⟩
    exact List.lookup_isSome_iff.mpr ⟨_, entered, BEq.rfl⟩
  · rintro ⟨key, setting, raw, found⟩
    obtain ⟨entry, entered, same⟩ :=
      List.lookup_isSome_iff.mp (Option.isSome_iff_exists.mpr ⟨raw, found⟩)
    obtain rfl := eq_of_beq same
    exact ⟨entry, entered, setting⟩

theorem raw?_cons_of_ne {key filled text : String} {entries : List (String × String)}
    (other : key ≠ filled) : raw? ⟨(filled, text) :: entries⟩ key = raw? ⟨entries⟩ key := by
  rw [raw?, List.lookup_cons, beq_false_of_ne other]
  rfl

/-- Two forms agree on what is to be set. -/
def SameSettings (one other : Form) : Prop :=
  ∀ key, isSetting key = true → one.raw? key = other.raw? key

namespace SameSettings

variable (same : one.SameSettings other)

include same

theorem hasSettings : one.hasSettings = other.hasSettings := by
  rw [Bool.eq_iff_iff, hasSettings_iff, hasSettings_iff]
  refine exists_congr fun key => and_congr_right fun setting => ?_
  rw [same key setting]

theorem get? (key : String) (setting : isSetting key = true) : one.get? key = other.get? key :=
  congrArg (Option.map Text.trim) (same key setting)

theorem integerOfAny (field : String) {keys : List String}
    (settings : ∀ key ∈ keys, isSetting key = true) :
    one.integerOfAny field keys = other.integerOfAny field keys := by
  have found : one.getAny? keys = other.getAny? keys := by
    induction keys with
    | nil => rfl
    | cons key others alike =>
        rw [List.forall_mem_cons] at settings
        rw [getAny?, getAny?, List.findSome?_cons, List.findSome?_cons, same.get? key settings.1]
        split
        · rfl
        · exact alike settings.2
  rw [Form.integerOfAny, Form.integerOfAny, found]

theorem integer (field : String) (setting : isSetting field = true) :
    one.integer field = other.integer field :=
  same.integerOfAny field (List.forall_mem_singleton.mpr setting)

theorem level (field : String) (setting : isSetting field = true) :
    one.level field = other.level field := by
  rw [Form.level, Form.level, same.integer field setting]

theorem text (field : String) (setting : isSetting field = true) :
    one.text field = other.text field := by
  rw [Form.text, Form.text, same.get? field setting]

theorem modeCode : one.modeCode = other.modeCode := by
  rw [Form.modeCode, Form.modeCode, same.integer "mode" rfl]

/-- What a form comes to depends on its settings only. -/
theorem setting? (controller : NodeId) (control : Control) :
    one.setting? controller control = other.setting? controller control := by
  cases control with
  | association =>
      have group := same.integerOfAny "group" (by decide : ∀ key ∈ groupKeys, _)
      have target := same.integerOfAny "target" (by decide : ∀ key ∈ targetKeys, _)
      simp only [groupKeys, targetKeys] at group target
      simp only [Form.setting?, associationSetting, same.get? "action" rfl, group, target]
  | basic => simp only [Form.setting?, basicSetting, same.level "value" rfl]
  | binarySwitch => simp only [Form.setting?, binarySwitchSetting, same.integer "value" rfl]
  | configuration =>
      simp only [Form.setting?, configurationSetting, same.integer "index" rfl,
        same.integer "value" rfl, same.integer "size" rfl]
  | multilevelSwitch => simp only [Form.setting?, multilevelSwitchSetting, same.level "value" rfl]
  | thermostatFanMode => simp only [Form.setting?, thermostatFanModeSetting, same.modeCode]
  | thermostatMode => simp only [Form.setting?, thermostatModeSetting, same.modeCode]
  | thermostatSetpoint =>
      simp only [Form.setting?, thermostatSetpointSetting, same.integer "mode" rfl,
        same.integer "scale" rfl, same.text "setpoint" rfl]
  | wakeUp => simp only [Form.setting?, wakeUpSetting, same.integer "interval" rfl]
  | _ => rfl

end SameSettings

/-- Two forms agree on every key but the addresses and the text under which an update is asked for,
and either both ask for one or neither. -/
structure SameRequest (one other : Form) : Prop where
  settings : ∀ key, key ≠ updateKey → key ∉ addressKeys → one.raw? key = other.raw? key
  update : (one.raw? updateKey).isSome = (other.raw? updateKey).isSome

theorem SameRequest.sameSettings (same : one.SameRequest other) : one.SameSettings other :=
  fun key setting => same.settings key (isSetting_iff.mp setting).1 (isSetting_iff.mp setting).2

/-- A form with an update asked for besides, under whatever text. -/
structure AddsUpdate (plain asking : Form) (text : String) : Prop where
  absent : plain.raw? updateKey = none
  asked : asking.raw? updateKey = some text
  same : ∀ key, key ≠ updateKey → asking.raw? key = plain.raw? key

/-- An update is asked for by one more entry. -/
theorem AddsUpdate.of_absent {plain : Form} (absent : plain.raw? updateKey = none)
    (text : String) : plain.AddsUpdate ⟨(updateKey, text) :: plain.entries⟩ text :=
  ⟨absent, List.lookup_cons_self, fun _ other => raw?_cons_of_ne other⟩

/-- The form has a key besides the addresses. -/
def GoesOn (form : Form) : Prop :=
  ∃ key, key ∉ addressKeys ∧ ∃ raw, form.raw? key = some raw

namespace AddsUpdate

variable {plain asking : Form} {text : String} (adds : plain.AddsUpdate asking text)

include adds

theorem sameSettings : plain.SameSettings asking :=
  fun key setting => (adds.same key (isSetting_iff.mp setting).1).symm

theorem wantsUpdate : asking.wantsUpdate = true :=
  Option.isSome_iff_exists.mpr ⟨text, adds.asked⟩

theorem hasSettings_iff_goesOn : asking.hasSettings = true ↔ plain.GoesOn := by
  rw [← adds.sameSettings.hasSettings, hasSettings_iff]
  refine exists_congr fun key => ?_
  rw [isSetting_iff, and_assoc]
  -- The key of an update is none that the form without one has.
  refine ⟨And.right, fun ⟨besides, raw, found⟩ => ⟨?_, besides, raw, found⟩⟩
  rintro rfl
  cases adds.absent.symm.trans found

end AddsUpdate

end Form

namespace Plan

variable {form : Form} {set : Except RequestError Command}

theorem queryThenSet_of_asked (asked : form.wantsUpdate = true) (query : Command) :
    queryThenSet form query set =
      if form.hasSettings then set.map fun command => ⟨some query, some command, []⟩
      else .ok ⟨some query, none, []⟩ := by
  rw [queryThenSet, asked]
  cases form.hasSettings <;> rfl

theorem setOnly_of_asked (asked : form.wantsUpdate = true) :
    setOnly form set =
      if form.hasSettings then set.map fun command => ⟨none, some command, [noUpdate]⟩
      else .error noUpdate := by
  rw [setOnly, asked]
  cases form.hasSettings <;> rfl

end Plan

namespace Control

variable {control : Control} {node controller : NodeId}

theorem plan_congr {one other : Form} (same : one.SameRequest other) :
    control.plan one node controller = control.plan other node controller := by
  by_cases takes : control.takesRequests = true
  · have update : one.wantsUpdate = other.wantsUpdate := same.update
    obtain ⟨setting, reads⟩ | rfl := reads_or_version takes one controller
    · have alike := (same.sameSettings.setting? controller control).symm.trans reads
      rw [plan_of_reads reads, plan_of_reads alike]
      simp only [Plan.queryThenSet, Plan.setOnly, update, same.sameSettings.hasSettings]
    · simp only [plan, planner?, Form.versionPlan, update]
  · have takesNone := Bool.eq_false_iff.mpr takes
    rw [plan_of_takes_none takesNone, plan_of_takes_none takesNone]

section Added

variable {plain asking : Form} {text : String} {setting : Except RequestError SetAction}

theorem plan_of_asks (adds : plain.AddsUpdate asking text)
    (reads : plain.setting? controller control = some setting) {target : QueryTarget}
    (asks : control.asks? = some target) :
    (plain.GoesOn → control.plan asking node controller =
      (control.plan plain node controller).map
        fun plan => { plan with query := some (.query node target) }) ∧
    (¬plain.GoesOn →
      control.plan asking node controller = .ok ⟨some (.query node target), none, []⟩) := by
  have alike := (adds.sameSettings.setting? controller control).symm.trans reads
  have unwanted := Form.wantsUpdate_eq_false_iff.mpr adds.absent
  -- Both plans are made of the setting that the two forms have in common.
  rw [plan_of_reads alike, plan_of_plain reads unwanted, asks]
  dsimp only
  rw [Plan.queryThenSet_of_asked adds.wantsUpdate, ← adds.hasSettings_iff_goesOn]
  constructor
  · intro goesOn
    rw [if_pos goesOn]
    cases setting <;> rfl
  · intro stops
    exact if_neg stops

theorem plan_of_cannot_ask (adds : plain.AddsUpdate asking text)
    (reads : plain.setting? controller control = some setting) (asks : control.asks? = none) :
    (plain.GoesOn → control.plan asking node controller =
      (control.plan plain node controller).map
        fun plan => { plan with notices := plan.notices ++ [Plan.noUpdate] }) ∧
    (¬plain.GoesOn → control.plan asking node controller = .error Plan.noUpdate) := by
  have alike := (adds.sameSettings.setting? controller control).symm.trans reads
  have unwanted := Form.wantsUpdate_eq_false_iff.mpr adds.absent
  rw [plan_of_reads alike, plan_of_plain reads unwanted, asks]
  dsimp only
  rw [Plan.setOnly_of_asked adds.wantsUpdate, ← adds.hasSettings_iff_goesOn]
  constructor
  · intro goesOn
    rw [if_pos goesOn]
    cases setting <;> rfl
  · intro stops
    exact if_neg stops

end Added

end Control

end ZWaveGateway
