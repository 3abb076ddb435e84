import ZWaveGateway.Node.Device

/-!
# The directory of devices

The devices the gateway knows, in ascending order of their node ids. There is one device per id: a
device that is registered takes the place of the one with its id. Main statements: a device that was
registered is found, and registering it changes what is found under no other id.
-/

namespace ZWaveGateway

namespace Device

/-- The first device has the smaller id. -/
def Before (first second : Device) : Prop :=
  first.id.number < second.id.number

instance (first second : Device) : Decidable (first.Before second) :=
  inferInstanceAs (Decidable (_ < _))

theorem Before.trans {first second third : Device} (left : first.Before second)
    (right : second.Before third) : first.Before third :=
  UInt8.lt_trans left right

/-- Of two devices with different ids one is before the other. -/
theorem before_or_before {first second : Device} (other : first.id ≠ second.id) :
    first.Before second ∨ second.Before first := by
  have apart : first.id.number.toNat ≠ second.id.number.toNat := by
    intro same
    apply other
    have numbers := UInt8.toNat_inj.mp same
    revert numbers
    cases first.id
    cases second.id
    exact congrArg NodeId.mk
  simp only [Before, UInt8.lt_iff_toNat_lt]
  omega

end Device

/-- The known devices, ordered by id. -/
structure Directory where
  devices : List Device
  ascending : devices.Pairwise Device.Before

namespace Directory

/-- No devices. -/
def empty : Directory := ⟨[], .nil⟩

/-- Put a device in its place among devices in ascending order. -/
def insert (device : Device) : List Device → List Device
  | [] => [device]
  | first :: rest =>
      if first.id = device.id then device :: rest
      else if first.Before device then first :: insert device rest
      else device :: first :: rest

/-- Inserting adds no device but the one inserted. -/
theorem eq_or_mem_of_mem_insert {device known : Device} {devices : List Device}
    (member : known ∈ insert device devices) : known = device ∨ known ∈ devices := by
  induction devices with
  | nil => simpa [insert] using member
  | cons first rest ih =>
      unfold insert at member
      split at member
      · rcases List.mem_cons.mp member with rfl | behind
        · exact .inl rfl
        · exact .inr (List.mem_cons_of_mem _ behind)
      · split at member
        · rcases List.mem_cons.mp member with rfl | behind
          · exact .inr List.mem_cons_self
          · exact (ih behind).imp_right (List.mem_cons_of_mem _)
        · exact List.mem_cons.mp member

/-- Inserting keeps devices in ascending order. -/
theorem pairwise_insert {device : Device} {devices : List Device}
    (ascending : devices.Pairwise Device.Before) :
    (insert device devices).Pairwise Device.Before := by
  induction devices with
  | nil => simp [insert]
  | cons first rest ih =>
      obtain ⟨least, later⟩ := List.pairwise_cons.mp ascending
      unfold insert
      split
      · next same =>
          refine List.pairwise_cons.mpr ⟨fun known behind => ?_, later⟩
          have := least known behind
          rwa [Device.Before, same] at this
      · next other =>
          split
          · next before =>
              refine List.pairwise_cons.mpr ⟨fun known behind => ?_, ih later⟩
              rcases eq_or_mem_of_mem_insert behind with rfl | old
              · exact before
              · exact least known old
          · next notBefore =>
              have after := (Device.before_or_before other).resolve_left notBefore
              refine List.pairwise_cons.mpr ⟨fun known behind => ?_, ascending⟩
              rcases List.mem_cons.mp behind with rfl | old
              · exact after
              · exact after.trans (least known old)

/-- Add a device, or replace the one with its id. -/
def register (directory : Directory) (device : Device) : Directory :=
  ⟨insert device directory.devices, pairwise_insert directory.ascending⟩

/-- The device with an id. -/
def lookup? (directory : Directory) (id : NodeId) : Option Device :=
  directory.devices.find? (·.id == id)

/-- The directory without the device of an id. -/
def unregister (directory : Directory) (id : NodeId) : Directory :=
  ⟨directory.devices.filter (·.id != id), directory.ascending.filter _⟩

/-- The known ids, ascending. -/
def ids (directory : Directory) : List NodeId :=
  directory.devices.map (·.id)

/-- A device is found under its id, and under no other. -/
theorem lookup?_eq_some_iff (directory : Directory) {device : Device} {id : NodeId} :
    directory.lookup? id = some device ↔ device ∈ directory.devices ∧ device.id = id := by
  constructor
  · intro found
    exact ⟨List.mem_of_find?_eq_some found, by simpa using List.find?_some found⟩
  · rintro ⟨member, rfl⟩
    obtain ⟨before, after, split⟩ := List.append_of_mem member
    refine List.find?_eq_some_iff_append.mpr ⟨by simp, before, after, split, fun other earlier => ?_⟩
    have ascending := directory.ascending
    rw [split] at ascending
    have smaller : other.Before device :=
      (List.pairwise_append.mp ascending).2.2 other earlier device List.mem_cons_self
    simp only [Bool.not_eq_true', beq_eq_false_iff_ne]
    intro same
    rw [Device.Before, same] at smaller
    exact UInt8.lt_irrefl _ smaller

end Directory

end ZWaveGateway
