import ZWaveGateway.Control
import ZWaveGateway.Node

/-!
# Devices

A device is a node with a name and the command classes it supports. A class is listed once, where
it was first named.
-/

namespace ZWaveGateway

/-- A command class that a device supports, in one of its versions. -/
structure Capability where
  commandClass : CommandClass
  version : Nat
  deriving DecidableEq, Repr

/-- The control that drives the capability. -/
def Capability.control (capability : Capability) : Control :=
  Control.ofCommandClass capability.commandClass

/-- A node as the gateway knows it. -/
structure Device where
  id : NodeId
  name : String
  capabilities : List Capability
  deriving DecidableEq, Repr

namespace Device

/-- The name of a device that was given none. -/
def defaultName (id : NodeId) : String :=
  "Z-Wave Node " ++ id.text

/-- The device supports a command class. -/
def supports (device : Device) (commandClass : CommandClass) : Bool :=
  device.capabilities.any (·.commandClass == commandClass)

/-- Add a command class in its first version, unless the device has it. -/
def addClass (device : Device) (commandClass : CommandClass) : Device :=
  if device.supports commandClass then device
  else { device with capabilities := device.capabilities ++ [⟨commandClass, 1⟩] }

/-- A device with the given command classes. -/
def ofClasses (id : NodeId) (name : Option String) (classes : List CommandClass) : Device :=
  classes.foldl addClass ⟨id, name.getD (defaultName id), []⟩

/-- The capability that a control drives on the device. -/
def capability? (device : Device) (control : Control) : Option Capability :=
  device.capabilities.find? fun capability =>
    control.commandClass? == some capability.commandClass

/-- The controls that drive something on the device, in the order of the catalogue. -/
def controls (device : Device) : List Control :=
  Control.all.filter fun control => (device.capability? control).isSome

/-- A control drives nothing on a device exactly if the device does not support its class. -/
theorem capability?_eq_none_iff {device : Device} {control : Control} :
    device.capability? control = none ↔
      ∀ commandClass, control.commandClass? = some commandClass →
        device.supports commandClass = false := by
  simp only [capability?, supports, List.find?_eq_none, List.any_eq_false, beq_iff_eq]
  constructor
  · intro lacks commandClass drives capability member same
    exact lacks capability member (drives.trans (congrArg some same.symm))
  · intro lacks capability member drives
    exact lacks capability.commandClass drives capability member rfl

end Device

end ZWaveGateway
