import ZWaveGateway.Log
import ZWaveGateway.Node
import ZWaveGateway.Text.Blank
import ZWaveGateway.Text.Numeral
import ZWaveGateway.Text.Quoted
import ZWaveGateway.Time

/-!
# Settings

The gateway's settings have defaults, and variables that replace them. A variable that cannot be
read is ignored with a warning; one that asks for no time at all is ignored without.
-/

namespace ZWaveGateway

-- Powers of numbers are the built-in ones, whatever is imported.
attribute [local instance (high)] instPowNat

/-- How the gateway is set up. -/
structure Settings where
  /-- The serial device of the controller. -/
  serialPort : String
  baudRate : Nat
  /-- The node the controller is on its own network. -/
  controllerNode : NodeId
  /-- How long a transaction may wait for its answer. -/
  transactionTimeout : Duration
  /-- How often overdue transactions are looked for. -/
  sweepInterval : Duration
  deriving DecidableEq, Repr

namespace Settings

/-- The timeout, in milliseconds, unless a variable says otherwise. -/
def defaultTimeout : Nat := 5000

/-- The interval between sweeps, in milliseconds, unless a variable says otherwise. -/
def defaultSweepInterval : Nat := 250

/-- The speed of every controller stick. -/
def defaultBaudRate : Nat := 115200

/-- The settings without any variable. -/
def standard : Settings where
  serialPort := "/dev/ttyUSB0"
  baudRate := defaultBaudRate
  controllerNode := ⟨1⟩
  transactionTimeout := .ofMilliseconds defaultTimeout
  sweepInterval := .ofMilliseconds defaultSweepInterval

/-- The warning that a variable cannot be read. -/
def ignored (key raw : String) : LogLine :=
  ⟨.warn, "Ignoring " ++ key ++ "=" ++ Text.Quoted.encode raw ++ ": not a valid value"⟩

/-- The number in a variable, up to the most it may be, and the warning if there is none in it. -/
def number (lookup : String → Option String) (key : String) (most : Nat) :
    Option Nat × List LogLine :=
  match lookup key with
  | none => (none, [])
  | some raw =>
      match Text.Numeral.natural? most (Text.trim raw) with
      | some value => (some value, [])
      | none => (none, [ignored key raw])

/-- The time in a variable, unless that is zero. -/
def time (value : Option Nat) (standard : Duration) : Duration :=
  match value with
  | none | some 0 => standard
  | some milliseconds => .ofMilliseconds milliseconds

/-- The serial device in a variable, unless that is blank. -/
def serialDevice (value : Option String) (standard : String) : String :=
  match value.map Text.trim with
  | none | some "" => standard
  | some device => device

/-- The settings that variables make, and the warnings about them. -/
def ofLookup (lookup : String → Option String) : Settings × List LogLine :=
  let (baud, baudLines) := number lookup "ZWAVE_BAUD_RATE" (2 ^ (32 : Nat) - 1)
  let (node, nodeLines) := number lookup "ZWAVE_CONTROLLER_NODE" 255
  let (timeout, timeoutLines) := number lookup "ZWAVE_TRANSACTION_TIMEOUT_MS" (2 ^ (64 : Nat) - 1)
  let (sweep, sweepLines) := number lookup "ZWAVE_SWEEP_INTERVAL_MS" (2 ^ (64 : Nat) - 1)
  ({ serialPort := serialDevice (lookup "ZWAVE_SERIAL_PORT") standard.serialPort
     baudRate := baud.getD standard.baudRate
     controllerNode := (node.map fun number => ⟨UInt8.ofNat number⟩).getD standard.controllerNode
     transactionTimeout := time timeout standard.transactionTimeout
     sweepInterval := time sweep standard.sweepInterval },
    baudLines ++ nodeLines ++ timeoutLines ++ sweepLines)

end Settings

end ZWaveGateway
