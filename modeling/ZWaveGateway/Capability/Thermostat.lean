import ZWaveGateway.CodeTable

/-!
# Thermostat vocabulary

The operating modes, fan modes, setpoint types and temperature scales of the thermostat command
classes, each a byte on the wire. Codes that are not listed are reserved.
-/

namespace ZWaveGateway

/-- Operating modes of a thermostat. -/
inductive ThermostatMode where
  | off
  | heat
  | cool
  | auto
  | auxiliary
  | resume
  | fanOnly
  | furnace
  | dryAir
  | moistAir
  | autoChangeover
  | energySaveHeat
  | energySaveCool
  | away
  | fullPower
  deriving DecidableEq, Repr

namespace ThermostatMode

/-- Every mode, by ascending code. -/
def all : List ThermostatMode := [
  .off, .heat, .cool, .auto, .auxiliary, .resume, .fanOnly, .furnace, .dryAir, .moistAir,
  .autoChangeover, .energySaveHeat, .energySaveCool, .away, .fullPower]

/-- The byte that stands for it in frames. -/
def code : ThermostatMode → UInt8
  | .off => 0
  | .heat => 1
  | .cool => 2
  | .auto => 3
  | .auxiliary => 4
  | .resume => 5
  | .fanOnly => 6
  | .furnace => 7
  | .dryAir => 8
  | .moistAir => 9
  | .autoChangeover => 10
  | .energySaveHeat => 11
  | .energySaveCool => 12
  | .away => 13
  | .fullPower => 15

/-- The name it is printed with. -/
def name : ThermostatMode → String
  | .off => "Off"
  | .heat => "Heat"
  | .cool => "Cool"
  | .auto => "Auto"
  | .auxiliary => "Auxiliary"
  | .resume => "Resume"
  | .fanOnly => "FanOnly"
  | .furnace => "Furnace"
  | .dryAir => "DryAir"
  | .moistAir => "MoistAir"
  | .autoChangeover => "AutoChangeover"
  | .energySaveHeat => "EnergySaveHeat"
  | .energySaveCool => "EnergySaveCool"
  | .away => "Away"
  | .fullPower => "FullPower"

/-- The one with a given byte, if there is one. -/
def ofCode? (code : UInt8) : Option ThermostatMode :=
  CodeTable.read? all ThermostatMode.code code

@[simp]
theorem ofCode?_code (kind : ThermostatMode) : ofCode? kind.code = some kind := by
  cases kind <;> rfl

/-- Reading a byte finds exactly the one written with it. -/
theorem ofCode?_eq_some_iff {code : UInt8} {kind : ThermostatMode} :
    ofCode? code = some kind ↔ kind.code = code :=
  CodeTable.read?_eq_some_iff ofCode?_code

theorem isSome_ofCode?_iff {code : UInt8} :
    (ofCode? code).isSome = true ↔ code.toNat ≤ 13 ∨ code.toNat = 15 := by
  refine CodeTable.isSome_read?_iff.trans ?_
  change code.toNat ∈ [0, 1, 2, 3, 4, 5, 6, 7, 8, 9, 10, 11, 12, 13, 15] ↔ _
  simp only [List.mem_cons, List.not_mem_nil, or_false]
  omega

end ThermostatMode

/-- Fan modes of a thermostat. -/
inductive FanMode where
  | autoLow
  | onLow
  | autoHigh
  | onHigh
  | autoMedium
  | onMedium
  | circulation
  | humidity
  deriving DecidableEq, Repr

namespace FanMode

/-- Every fan mode, by ascending code. -/
def all : List FanMode := [
  .autoLow, .onLow, .autoHigh, .onHigh, .autoMedium, .onMedium, .circulation, .humidity]

/-- The byte that stands for it in frames. -/
def code : FanMode → UInt8
  | .autoLow => 0
  | .onLow => 1
  | .autoHigh => 2
  | .onHigh => 3
  | .autoMedium => 4
  | .onMedium => 5
  | .circulation => 6
  | .humidity => 7

/-- The name it is printed with. -/
def name : FanMode → String
  | .autoLow => "AutoLow"
  | .onLow => "OnLow"
  | .autoHigh => "AutoHigh"
  | .onHigh => "OnHigh"
  | .autoMedium => "AutoMedium"
  | .onMedium => "OnMedium"
  | .circulation => "Circulation"
  | .humidity => "Humidity"

/-- The one with a given byte, if there is one. -/
def ofCode? (code : UInt8) : Option FanMode :=
  CodeTable.read? all FanMode.code code

@[simp]
theorem ofCode?_code (kind : FanMode) : ofCode? kind.code = some kind := by
  cases kind <;> rfl

/-- Reading a byte finds exactly the one written with it. -/
theorem ofCode?_eq_some_iff {code : UInt8} {kind : FanMode} :
    ofCode? code = some kind ↔ kind.code = code :=
  CodeTable.read?_eq_some_iff ofCode?_code

theorem isSome_ofCode?_iff {code : UInt8} :
    (ofCode? code).isSome = true ↔ code.toNat ≤ 7 := by
  refine CodeTable.isSome_read?_iff.trans ?_
  change code.toNat ∈ [0, 1, 2, 3, 4, 5, 6, 7] ↔ _
  simp only [List.mem_cons, List.not_mem_nil, or_false]
  omega

end FanMode

/-- What a thermostat setpoint is the target of. -/
inductive SetpointType where
  | heating
  | cooling
  | furnace
  | dryAir
  | moistAir
  | autoChangeover
  | heatingEcon
  | coolingEcon
  | awayHeating
  deriving DecidableEq, Repr

namespace SetpointType

/-- Every setpoint type, by ascending code. -/
def all : List SetpointType := [
  .heating, .cooling, .furnace, .dryAir, .moistAir, .autoChangeover, .heatingEcon, .coolingEcon,
  .awayHeating]

/-- The byte that stands for it in frames. -/
def code : SetpointType → UInt8
  | .heating => 1
  | .cooling => 2
  | .furnace => 7
  | .dryAir => 8
  | .moistAir => 9
  | .autoChangeover => 10
  | .heatingEcon => 11
  | .coolingEcon => 12
  | .awayHeating => 13

/-- The name it is printed with. -/
def name : SetpointType → String
  | .heating => "Heating"
  | .cooling => "Cooling"
  | .furnace => "Furnace"
  | .dryAir => "DryAir"
  | .moistAir => "MoistAir"
  | .autoChangeover => "AutoChangeover"
  | .heatingEcon => "HeatingEcon"
  | .coolingEcon => "CoolingEcon"
  | .awayHeating => "AwayHeating"

/-- The one with a given byte, if there is one. -/
def ofCode? (code : UInt8) : Option SetpointType :=
  CodeTable.read? all SetpointType.code code

@[simp]
theorem ofCode?_code (kind : SetpointType) : ofCode? kind.code = some kind := by
  cases kind <;> rfl

/-- Reading a byte finds exactly the one written with it. -/
theorem ofCode?_eq_some_iff {code : UInt8} {kind : SetpointType} :
    ofCode? code = some kind ↔ kind.code = code :=
  CodeTable.read?_eq_some_iff ofCode?_code

theorem isSome_ofCode?_iff {code : UInt8} :
    (ofCode? code).isSome = true ↔
      code.toNat = 1 ∨ code.toNat = 2 ∨ 7 ≤ code.toNat ∧ code.toNat ≤ 13 := by
  refine CodeTable.isSome_read?_iff.trans ?_
  change code.toNat ∈ [1, 2, 7, 8, 9, 10, 11, 12, 13] ↔ _
  simp only [List.mem_cons, List.not_mem_nil, or_false]
  omega

end SetpointType

/-- Scales a setpoint may be given in. -/
inductive TemperatureScale where
  | celsius
  | fahrenheit
  deriving DecidableEq, Repr

namespace TemperatureScale

/-- Both scales, by ascending code. -/
def all : List TemperatureScale := [
  .celsius, .fahrenheit]

/-- The byte that stands for it in frames. -/
def code : TemperatureScale → UInt8
  | .celsius => 0
  | .fahrenheit => 1

/-- The name it is printed with. -/
def name : TemperatureScale → String
  | .celsius => "Celsius"
  | .fahrenheit => "Fahrenheit"

/-- The one with a given byte, if there is one. -/
def ofCode? (code : UInt8) : Option TemperatureScale :=
  CodeTable.read? all TemperatureScale.code code

@[simp]
theorem ofCode?_code (kind : TemperatureScale) : ofCode? kind.code = some kind := by
  cases kind <;> rfl

/-- Reading a byte finds exactly the one written with it. -/
theorem ofCode?_eq_some_iff {code : UInt8} {kind : TemperatureScale} :
    ofCode? code = some kind ↔ kind.code = code :=
  CodeTable.read?_eq_some_iff ofCode?_code

end TemperatureScale

end ZWaveGateway
