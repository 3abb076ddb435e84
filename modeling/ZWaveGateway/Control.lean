import ZWaveGateway.Capability.CommandClass
import ZWaveGateway.Text.Blank

/-!
# The catalogue of controls

A control is what a request is about: one capability of a device, under a token and a label of its
own. Each control drives one command class, and each command class has one control. Tokens are
recognised without regard to the case of ASCII letters and to blanks around them; whatever is no
token names the unknown control, which drives nothing.
-/

namespace ZWaveGateway

/-- The controls, and the one that stands for all others. -/
inductive Control where
  | alarm
  | alarmSensor
  | association
  | basic
  | battery
  | binarySensor
  | binarySwitch
  | configuration
  | hail
  | manufacturerSpecific
  | meter
  | multilevelSensor
  | multilevelSwitch
  | noOperation
  | sceneActivation
  | thermostatFanMode
  | thermostatFanState
  | thermostatMode
  | thermostatOperatingState
  | thermostatSetpoint
  | version
  | wakeUp
  | unknown
  deriving DecidableEq, Repr

namespace Control

/-- The catalogue, in its order. -/
def all : List Control := [
  .alarm, .alarmSensor, .association, .basic, .battery, .binarySensor, .binarySwitch,
  .configuration, .hail, .manufacturerSpecific, .meter, .multilevelSensor, .multilevelSwitch,
  .noOperation, .sceneActivation, .thermostatFanMode, .thermostatFanState, .thermostatMode,
  .thermostatOperatingState, .thermostatSetpoint, .version, .wakeUp, .unknown]

/-- The word a request names the control by. -/
def token : Control → String
  | .alarm => "alarm"
  | .alarmSensor => "alarmsensor"
  | .association => "association"
  | .basic => "basic"
  | .battery => "battery"
  | .binarySensor => "binarysensor"
  | .binarySwitch => "binaryswitch"
  | .configuration => "configuration"
  | .hail => "hail"
  | .manufacturerSpecific => "manufacturerspecific"
  | .meter => "meter"
  | .multilevelSensor => "multilevelsensor"
  | .multilevelSwitch => "multilevelswitch"
  | .noOperation => "nooperation"
  | .sceneActivation => "sceneactivation"
  | .thermostatFanMode => "thermostatfanmode"
  | .thermostatFanState => "thermostatfanstate"
  | .thermostatMode => "thermostatmode"
  | .thermostatOperatingState => "thermostatoperatingstate"
  | .thermostatSetpoint => "thermostatsetpoint"
  | .version => "version"
  | .wakeUp => "wakeup"
  | .unknown => "unknown"

/-- The words people know the control by. -/
def label : Control → String
  | .alarm => "Alarm"
  | .alarmSensor => "Alarm Sensor"
  | .association => "Association"
  | .basic => "Basic"
  | .battery => "Battery"
  | .binarySensor => "Binary Sensor"
  | .binarySwitch => "Binary Switch"
  | .configuration => "Configuration"
  | .hail => "Hail"
  | .manufacturerSpecific => "Manufacturer-Specific"
  | .meter => "Meter"
  | .multilevelSensor => "Multi-Level Sensor"
  | .multilevelSwitch => "Multi-Level Switch"
  | .noOperation => "No Operation"
  | .sceneActivation => "Scene Activation"
  | .thermostatFanMode => "Thermostat Fan Mode"
  | .thermostatFanState => "Thermostat Fan State"
  | .thermostatMode => "Thermostat Mode"
  | .thermostatOperatingState => "Thermostat Operating State"
  | .thermostatSetpoint => "Thermostat Setpoint"
  | .version => "Version"
  | .wakeUp => "Wake Up"
  | .unknown => "Unknown"

/-- The command class the control drives. -/
def commandClass? : Control → Option CommandClass
  | .alarm => some .alarm
  | .alarmSensor => some .sensorAlarm
  | .association => some .association
  | .basic => some .basic
  | .battery => some .battery
  | .binarySensor => some .sensorBinary
  | .binarySwitch => some .switchBinary
  | .configuration => some .configuration
  | .hail => some .hail
  | .manufacturerSpecific => some .manufacturerSpecific
  | .meter => some .meter
  | .multilevelSensor => some .sensorMultilevel
  | .multilevelSwitch => some .switchMultilevel
  | .noOperation => some .noOperation
  | .sceneActivation => some .sceneActivation
  | .thermostatFanMode => some .thermostatFanMode
  | .thermostatFanState => some .thermostatFanState
  | .thermostatMode => some .thermostatMode
  | .thermostatOperatingState => some .thermostatOperatingState
  | .thermostatSetpoint => some .thermostatSetpoint
  | .version => some .version
  | .wakeUp => some .wakeUp
  | .unknown => none

/-- The control a token names. -/
def ofToken (text : String) : Control :=
  let wanted := (Text.trim text).map Char.toLower
  (all.find? (·.token == wanted)).getD .unknown

theorem find?_token (control : Control) :
    all.find? (·.token == control.token) = some control := by
  cases control <;> rfl

theorem map_toLower_token (control : Control) :
    control.token.map Char.toLower = control.token := by
  apply String.toList_injective
  rw [String.toList_map]
  cases control <;> rfl

/-- A control is named by its token, with no regard to case and to blanks around it. -/
theorem ofToken_eq_iff {text : String} {control : Control} (known : control ≠ .unknown) :
    ofToken text = control ↔
      (Text.trim text).map Char.toLower = control.token.map Char.toLower := by
  rw [control.map_toLower_token, ofToken]
  constructor
  · intro named
    cases found : all.find? (·.token == (Text.trim text).map Char.toLower) with
    | none =>
        rw [found] at named
        exact (known named.symm).elim
    | some first =>
        rw [found] at named
        obtain rfl : first = control := named
        have same := List.find?_some found
        exact (eq_of_beq same).symm
  · intro same
    simp only [same, find?_token, Option.getD_some]

/-- The control that drives a command class. -/
def ofCommandClass (commandClass : CommandClass) : Control :=
  (all.find? (·.commandClass? == some commandClass)).getD .unknown

/-- The control of a command class drives that class. -/
@[simp]
theorem commandClass?_ofCommandClass (commandClass : CommandClass) :
    (ofCommandClass commandClass).commandClass? = some commandClass := by
  cases commandClass <;> rfl

end Control

end ZWaveGateway
