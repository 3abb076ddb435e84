import ZWaveGateway.Command.Basic
import ZWaveGateway.Control
import ZWaveGateway.Request.Form

/-!
# From a form to commands

Each control that takes requests reads its own fields from the form, in an order of its own, and
plans at most one question and one setting; the question goes first. A form that asks for an update
asks the question, and sets something only if it says what. Some controls can set but not ask: for
them an update next to a setting is noted as a failure that does not stop the setting, and an
update alone fails.
-/

namespace ZWaveGateway

/-- What a request comes to. -/
structure Plan where
  query : Option Command
  set : Option Command
  /-- What was asked for and is left out. -/
  notices : List RequestError
  deriving DecidableEq

namespace Plan

/-- The commands in the order in which they are submitted. -/
def commands (plan : Plan) : List Command :=
  plan.query.toList ++ plan.set.toList

/-- Fresh reports of this kind cannot be asked for. -/
def noUpdate : RequestError := .notImplemented "Cache updating"

/-- The plan of a control whose value can be asked for. -/
def queryThenSet (form : Form) (query : Command) (set : Except RequestError Command) :
    Except RequestError Plan :=
  if !form.wantsUpdate then set.map fun command => ⟨none, some command, []⟩
  else if !form.hasSettings then .ok ⟨some query, none, []⟩
  else set.map fun command => ⟨some query, some command, []⟩

/-- The plan of a control whose value can only be set. -/
def setOnly (form : Form) (set : Except RequestError Command) : Except RequestError Plan :=
  if !form.wantsUpdate then set.map fun command => ⟨none, some command, []⟩
  else if !form.hasSettings then .error noUpdate
  else set.map fun command => ⟨none, some command, [noUpdate]⟩

end Plan

namespace Form

/-- The setting of a level. -/
def basicSetting (form : Form) : Except RequestError SetAction :=
  return .basic (← form.level "value")

/-- The setting of a switch: on for every number but zero. -/
def binarySwitchSetting (form : Form) : Except RequestError SetAction :=
  return .binarySwitch ((← form.integer "value") != 0)

/-- The setting of a dimmer. -/
def multilevelSwitchSetting (form : Form) : Except RequestError SetAction :=
  return .multilevelSwitch (← form.level "value")

/-- The setting of a configuration parameter. All three numbers are read before any is checked. -/
def configurationSetting (form : Form) : Except RequestError SetAction := do
  let index ← form.integer "index"
  let value ← form.integer "value"
  let size ← form.integer "size"
  return .configuration (← ConfigurationParameter.ofNumbers index value size)

/-- Joining or leaving a group. Group and target may be given under second names. -/
def associationSetting (form : Form) : Except RequestError SetAction := do
  let join ← match form.get? "action" with
    | some "set" => .ok true
    | some "remove" => .ok false
    | _ => .error (.invalidParameter "action" (.notAmong "'set' or 'remove'"))
  let group ← form.integerOfAny "group" ["group", "assoc_group"]
  let target ← form.integerOfAny "target" ["target", "assoc_node"]
  let association ← Association.ofNumbers group target
  return if join then .associationSet association else .associationRemove association

/-- The byte of a mode. -/
def modeCode (form : Form) : Except RequestError UInt8 := do
  let mode ← form.integer "mode"
  if 0 ≤ mode ∧ mode ≤ 255 then .ok (UInt8.ofNat mode.toNat)
  else .error (.invalidParameter "mode" .unsupportedMode)

/-- The setting of a thermostat's mode. -/
def thermostatModeSetting (form : Form) : Except RequestError SetAction := do
  match ThermostatMode.ofCode? (← form.modeCode) with
  | some mode => return .thermostatMode mode
  | none => .error (.invalidParameter "mode" (.notAmong "0-13 or 15"))

/-- The setting of a thermostat's fan mode. -/
def thermostatFanModeSetting (form : Form) : Except RequestError SetAction := do
  match FanMode.ofCode? (← form.modeCode) with
  | some mode => return .thermostatFanMode mode
  | none => .error (.invalidParameter "mode" (.outside 0 7))

end Form

/-- The scale of a given number. -/
def TemperatureScale.ofNumber (number : Int) : Except RequestError TemperatureScale :=
  if number = 0 then .ok .celsius
  else if number = 1 then .ok .fahrenheit
  else .error (.invalidParameter "scale" (.notAmong "either 0 or 1"))

/-- The setpoint type of a given number. -/
def SetpointType.ofNumber (number : Int) : Except RequestError SetpointType :=
  let found := if 0 ≤ number ∧ number ≤ 255 then SetpointType.ofCode? (UInt8.ofNat number.toNat)
    else none
  match found with
  | some setpointType => .ok setpointType
  | none => .error (.invalidParameter "mode" (.notAmong "1, 2, or 7-13"))

namespace Form

/-- The setting of a setpoint. All three fields are read before scale and type are checked. -/
def thermostatSetpointSetting (form : Form) : Except RequestError SetAction := do
  let mode ← form.integer "mode"
  let scale ← form.integer "scale"
  let value ← Setpoint.read "setpoint" (← form.text "setpoint")
  let scale ← TemperatureScale.ofNumber scale
  return .thermostatSetpoint (← SetpointType.ofNumber mode) scale value

/-- The setting of a wake-up interval, with the controller as the node to be notified. -/
def wakeUpSetting (form : Form) (controller : NodeId) : Except RequestError SetAction :=
  return .wakeUpInterval (← WakeUpInterval.ofSeconds (← form.integer "interval")) controller

/-- What a form for a version comes to: there is nothing to set. -/
def versionPlan (form : Form) (query : Command) : Except RequestError Plan :=
  if form.wantsUpdate then .ok ⟨some query, none, []⟩
  else .error (.invalidParameter updateKey .readOnly)

end Form

namespace Control

/-- How a control turns a form into a plan, given the node it is for and the controller's own node.
Only some controls take requests. -/
def planner? : Control → Option (Form → NodeId → NodeId → Except RequestError Plan)
  | .association => some fun form node _ =>
      Plan.setOnly form (form.associationSetting.map (.set node))
  | .basic => some fun form node _ =>
      Plan.queryThenSet form (.query node .basic) (form.basicSetting.map (.set node))
  | .binarySwitch => some fun form node _ =>
      Plan.queryThenSet form (.query node .binarySwitch)
        (form.binarySwitchSetting.map (.set node))
  | .configuration => some fun form node _ =>
      Plan.setOnly form (form.configurationSetting.map (.set node))
  | .multilevelSwitch => some fun form node _ =>
      Plan.queryThenSet form (.query node .multilevelSwitch)
        (form.multilevelSwitchSetting.map (.set node))
  | .thermostatFanMode => some fun form node _ =>
      Plan.setOnly form (form.thermostatFanModeSetting.map (.set node))
  | .thermostatMode => some fun form node _ =>
      Plan.setOnly form (form.thermostatModeSetting.map (.set node))
  | .thermostatSetpoint => some fun form node _ =>
      Plan.setOnly form (form.thermostatSetpointSetting.map (.set node))
  | .version => some fun form node _ => form.versionPlan (.query node .version)
  | .wakeUp => some fun form node controller =>
      Plan.setOnly form ((form.wakeUpSetting controller).map (.set node))
  | _ => none

/-- The control takes requests. -/
def takesRequests (control : Control) : Bool :=
  control.planner?.isSome

/-- Plan a request. -/
def plan (control : Control) (form : Form) (node controller : NodeId) :
    Except RequestError Plan :=
  match control.planner? with
  | some planner => planner form node controller
  | none => .error .unsupportedControl

end Control

end ZWaveGateway
