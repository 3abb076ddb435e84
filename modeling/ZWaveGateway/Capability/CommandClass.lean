import ZWaveGateway.CodeTable

/-!
# Command classes

What a node can do is divided into command classes, each with commands of its own. A command class
and a command within it are one byte each.
-/

namespace ZWaveGateway

/-- The command classes a node may support. -/
inductive CommandClass where
  | noOperation
  | basic
  | switchBinary
  | switchMultilevel
  | sceneActivation
  | sensorBinary
  | sensorMultilevel
  | meter
  | thermostatMode
  | thermostatOperatingState
  | thermostatSetpoint
  | thermostatFanMode
  | thermostatFanState
  | configuration
  | alarm
  | manufacturerSpecific
  | battery
  | hail
  | wakeUp
  | association
  | version
  | sensorAlarm
  deriving DecidableEq, Repr

namespace CommandClass

/-- Every command class, by ascending code. -/
def all : List CommandClass := [
  .noOperation, .basic, .switchBinary, .switchMultilevel, .sceneActivation, .sensorBinary,
  .sensorMultilevel, .meter, .thermostatMode, .thermostatOperatingState, .thermostatSetpoint,
  .thermostatFanMode, .thermostatFanState, .configuration, .alarm, .manufacturerSpecific,
  .battery, .hail, .wakeUp, .association, .version, .sensorAlarm]

/-- The byte that stands for it in frames. -/
def code : CommandClass → UInt8
  | .noOperation => 0x00
  | .basic => 0x20
  | .switchBinary => 0x25
  | .switchMultilevel => 0x26
  | .sceneActivation => 0x2B
  | .sensorBinary => 0x30
  | .sensorMultilevel => 0x31
  | .meter => 0x32
  | .thermostatMode => 0x40
  | .thermostatOperatingState => 0x42
  | .thermostatSetpoint => 0x43
  | .thermostatFanMode => 0x44
  | .thermostatFanState => 0x45
  | .configuration => 0x70
  | .alarm => 0x71
  | .manufacturerSpecific => 0x72
  | .battery => 0x80
  | .hail => 0x82
  | .wakeUp => 0x84
  | .association => 0x85
  | .version => 0x86
  | .sensorAlarm => 0x9C

/-- The name it is printed with. -/
def name : CommandClass → String
  | .noOperation => "NoOperation"
  | .basic => "Basic"
  | .switchBinary => "SwitchBinary"
  | .switchMultilevel => "SwitchMultilevel"
  | .sceneActivation => "SceneActivation"
  | .sensorBinary => "SensorBinary"
  | .sensorMultilevel => "SensorMultilevel"
  | .meter => "Meter"
  | .thermostatMode => "ThermostatMode"
  | .thermostatOperatingState => "ThermostatOperatingState"
  | .thermostatSetpoint => "ThermostatSetpoint"
  | .thermostatFanMode => "ThermostatFanMode"
  | .thermostatFanState => "ThermostatFanState"
  | .configuration => "Configuration"
  | .alarm => "Alarm"
  | .manufacturerSpecific => "ManufacturerSpecific"
  | .battery => "Battery"
  | .hail => "Hail"
  | .wakeUp => "WakeUp"
  | .association => "Association"
  | .version => "Version"
  | .sensorAlarm => "SensorAlarm"

/-- The one with a given byte, if there is one. -/
def ofCode? (code : UInt8) : Option CommandClass :=
  CodeTable.read? all CommandClass.code code

@[simp]
theorem ofCode?_code (kind : CommandClass) : ofCode? kind.code = some kind := by
  cases kind <;> rfl

/-- Reading a byte finds exactly the one written with it. -/
theorem ofCode?_eq_some_iff {code : UInt8} {kind : CommandClass} :
    ofCode? code = some kind ↔ kind.code = code :=
  CodeTable.read?_eq_some_iff ofCode?_code

/-- The commands that ask for the current value and that report it, where the gateway can ask. -/
def query? : CommandClass → Option (UInt8 × UInt8)
  | .basic | .switchBinary | .switchMultilevel => some (0x02, 0x03)
  | .version => some (0x11, 0x12)
  | _ => none

end CommandClass

end ZWaveGateway
