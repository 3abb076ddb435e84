import ZWaveGateway.Text.Hexadecimal

/-!
# Protocol libraries

Controllers and nodes report which flavour of the protocol library they run, as one byte.
-/

namespace ZWaveGateway

/-- The flavour of a protocol library. Flavours without a name of their own keep their code. -/
inductive Library where
  | staticController
  | controller
  | enhancedSlave
  | slave
  | installer
  | routingSlave
  | bridgeController
  | deviceUnderTest
  | other (code : UInt8)
  deriving DecidableEq, Repr

namespace Library

/-- The flavour a byte stands for. -/
def ofCode (code : UInt8) : Library :=
  match code with
  | 0x01 => .staticController
  | 0x02 => .controller
  | 0x03 => .enhancedSlave
  | 0x04 => .slave
  | 0x05 => .installer
  | 0x06 => .routingSlave
  | 0x07 => .bridgeController
  | 0x08 => .deviceUnderTest
  | code => .other code

/-- The identifier of the flavour, as logs name it. -/
def name : Library → String
  | .staticController => "StaticController"
  | .controller => "Controller"
  | .enhancedSlave => "EnhancedSlave"
  | .slave => "Slave"
  | .installer => "Installer"
  | .routingSlave => "RoutingSlave"
  | .bridgeController => "BridgeController"
  | .deviceUnderTest => "DeviceUnderTest"
  | .other code => "Other(" ++ toString code.toNat ++ ")"

/-- The flavour in words. -/
def text : Library → String
  | .staticController => "Static Controller"
  | .controller => "Controller"
  | .enhancedSlave => "Enhanced Slave"
  | .slave => "Slave"
  | .installer => "Installer"
  | .routingSlave => "Routing Slave"
  | .bridgeController => "Bridge Controller"
  | .deviceUnderTest => "Device Under Test"
  | .other code => "Unknown (0x" ++ Text.Hexadecimal.byte code ++ ")"

end Library

end ZWaveGateway
