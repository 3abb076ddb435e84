import ZWaveGateway.Request.Error
import ZWaveGateway.Number.BigEndian

/-!
# The values that commands carry

Configuration parameters, associations and wake-up intervals. Each type holds only values that a
device can be sent; the constructors that take arbitrary numbers check them, in a fixed order, and
name the first one that is out of bounds.
-/

namespace ZWaveGateway

-- Powers of numbers are the built-in ones, whatever is imported.
attribute [local instance (high)] instPowNat

/-- The node with a given number, if a network can assign it. -/
def NodeId.assignable? (field : String) (number : Int) : Except RequestError NodeId :=
  if 1 ≤ number ∧ number ≤ NodeId.greatest.toNat then
    .ok ⟨UInt8.ofNat number.toNat⟩
  else .error (.invalidParameter field (.outside 1 NodeId.greatest.toNat))

/-- How many bytes a signed value takes on the wire. -/
inductive Width where
  | one
  | two
  | four
  deriving DecidableEq, Repr

namespace Width

/-- The number of bytes. -/
def bytes : Width → Nat
  | .one => 1
  | .two => 2
  | .four => 4

/-- The width of a given number of bytes. -/
def ofBytes? (count : Int) : Option Width :=
  if count = 1 then some .one
  else if count = 2 then some .two
  else if count = 4 then some .four
  else none

/-- The smallest value the width can hold. -/
def least (width : Width) : Int :=
  -(2 : Int) ^ (8 * width.bytes - 1)

/-- The largest value the width can hold. -/
def greatest (width : Width) : Int :=
  (2 : Int) ^ (8 * width.bytes - 1) - 1

/-- The value is one the width can hold. -/
def Holds (width : Width) (value : Int) : Prop :=
  width.least ≤ value ∧ value ≤ width.greatest

instance (width : Width) (value : Int) : Decidable (width.Holds value) :=
  inferInstanceAs (Decidable (_ ∧ _))

/-- The smallest width that holds a value; four bytes if none does. -/
def smallest (value : Int) : Width :=
  if Width.one.Holds value then .one
  else if Width.two.Holds value then .two
  else .four

/-- A value that four bytes can hold is held by its smallest width. -/
theorem holds_smallest {value : Int} (fits : Width.four.Holds value) :
    (smallest value).Holds value := by
  unfold smallest
  split
  · assumption
  · split
    · assumption
    · exact fits

theorem ofBytes?_bytes (width : Width) : ofBytes? width.bytes = some width := by
  cases width <;> rfl

theorem ofBytes?_eq_some_iff {count : Int} {width : Width} :
    ofBytes? count = some width ↔ count = width.bytes := by
  refine ⟨fun found => ?_, fun same => same ▸ ofBytes?_bytes width⟩
  unfold ofBytes? at found
  split at found
  · cases found
    assumption
  · split at found
    · cases found
      assumption
    · split at found
      · cases found
        assumption
      · cases found

/-- There are three widths. -/
theorem ofBytes?_eq_none_iff {count : Int} :
    ofBytes? count = none ↔ ¬(count = 1 ∨ count = 2 ∨ count = 4) := by
  rw [Option.eq_none_iff_forall_ne_some]
  simp only [ne_eq, ofBytes?_eq_some_iff]
  constructor
  · rintro nothing (one | two | four)
    · exact nothing .one one
    · exact nothing .two two
    · exact nothing .four four
  · rintro other width same
    cases width
    · exact other (.inl same)
    · exact other (.inr (.inl same))
    · exact other (.inr (.inr same))

/-- A value in two's complement survives the width that holds it. -/
theorem toInt_ofInt {width : Width} {value : Int} (fits : width.Holds value) :
    BigEndian.toInt (BigEndian.ofInt width.bytes value) = value := by
  obtain ⟨low, high⟩ := fits
  cases width <;>
    · simp only [least, greatest, bytes, Nat.reduceMul, Nat.reduceSub, Int.reducePow,
        Int.reduceNeg, Int.reduceSub] at low high
      apply BigEndian.toInt_ofInt <;>
        · simp only [bytes, Int.reducePow, Int.reduceNeg]
          omega

end Width

/-- A numbered setting of a device, with its value and the width the device keeps it in. -/
structure ConfigurationParameter where
  index : UInt8
  width : Width
  value : Int
  holds : width.Holds value
  deriving DecidableEq

namespace ConfigurationParameter

/-- Checks the size, then the index, then the value. -/
def ofNumbers (index value size : Int) : Except RequestError ConfigurationParameter :=
  match Width.ofBytes? size with
  | none => .error (.invalidParameter "size" (.notAmong "1, 2, or 4"))
  | some width =>
      if ¬(0 ≤ index ∧ index ≤ 255) then
        .error (.invalidParameter "index" (.outside 0 255))
      else if holds : width.Holds value then
        .ok ⟨UInt8.ofNat index.toNat, width, value, holds⟩
      else
        .error (.invalidParameter "value" (.overflows width.bytes width.least width.greatest))

/-- The value as the device is sent it. -/
def valueBytes (parameter : ConfigurationParameter) : List UInt8 :=
  BigEndian.ofInt parameter.width.bytes parameter.value

/-- The numbers of a parameter are accepted as that parameter. -/
theorem ofNumbers_self (parameter : ConfigurationParameter) :
    ofNumbers parameter.index.toNat parameter.value parameter.width.bytes = .ok parameter := by
  obtain ⟨index, width, value, holds⟩ := parameter
  have within : 0 ≤ (index.toNat : Int) ∧ (index.toNat : Int) ≤ 255 := by
    have := index.toNat_lt
    omega
  simp only [ofNumbers, Width.ofBytes?_bytes, within, and_self, not_true_eq_false, ↓reduceIte,
    holds, ↓reduceDIte, Int.toNat_natCast, UInt8.ofNat_toNat]

end ConfigurationParameter

/-- A node that a device reports to, as a member of one of the device's groups. -/
structure Association where
  group : UInt8
  target : NodeId
  group_pos : 1 ≤ group
  assignable : target.Assignable
  deriving DecidableEq

theorem NodeId.assignable_of_assignable? {field : String} {number : Int} {node : NodeId}
    (accepted : NodeId.assignable? field number = .ok node) : node.Assignable := by
  unfold NodeId.assignable? at accepted
  split at accepted
  · next within =>
      cases accepted
      obtain ⟨low, high⟩ := within
      have most : NodeId.greatest.toNat = 232 := rfl
      constructor
      · rw [UInt8.le_iff_toNat_le, UInt8.toNat_ofNat', Nat.mod_eq_of_lt (by omega)]
        change 1 ≤ number.toNat
        omega
      · rw [UInt8.le_iff_toNat_le, UInt8.toNat_ofNat', Nat.mod_eq_of_lt (by omega)]
        omega
  · cases accepted

theorem NodeId.assignable?_of_assignable {node : NodeId} (assignable : node.Assignable)
    (field : String) : NodeId.assignable? field node.number.toNat = .ok node := by
  obtain ⟨least, most⟩ := assignable
  have least : 1 ≤ node.number.toNat := UInt8.le_iff_toNat_le.mp least
  have most : node.number.toNat ≤ NodeId.greatest.toNat := UInt8.le_iff_toNat_le.mp most
  rw [assignable?, if_pos ⟨by omega, by omega⟩, Int.toNat_natCast, UInt8.ofNat_toNat]

namespace Association

/-- Checks the group, then the node. -/
def ofNumbers (group target : Int) : Except RequestError Association :=
  if within : 1 ≤ group ∧ group ≤ 255 then
    match accepted : NodeId.assignable? "target" target with
    | .error error => .error error
    | .ok node =>
        .ok {
          group := UInt8.ofNat group.toNat
          target := node
          group_pos := by
            rw [UInt8.le_iff_toNat_le, UInt8.toNat_ofNat', Nat.mod_eq_of_lt (by omega)]
            change 1 ≤ group.toNat
            omega
          assignable := NodeId.assignable_of_assignable? accepted }
  else .error (.invalidParameter "group" (.outside 1 255))

/-- The numbers of an association are accepted as that association. -/
theorem ofNumbers_self (association : Association) :
    ofNumbers association.group.toNat association.target.number.toNat = .ok association := by
  obtain ⟨group, target, positive, assignable⟩ := association
  have within : 1 ≤ (group.toNat : Int) ∧ (group.toNat : Int) ≤ 255 := by
    have least : 1 ≤ group.toNat := UInt8.le_iff_toNat_le.mp positive
    have most := group.toNat_lt
    omega
  rw [ofNumbers, dif_pos within]
  split
  · next error refused =>
      rw [NodeId.assignable?_of_assignable assignable] at refused
      cases refused
  · next node accepted =>
      rw [NodeId.assignable?_of_assignable assignable] at accepted
      cases accepted
      simp only [Int.toNat_natCast, UInt8.ofNat_toNat]

end Association

/-- The seconds between two times a sleeping device wakes up; three bytes on the wire. -/
structure WakeUpInterval where
  seconds : Nat
  fits : seconds < 256 ^ (3 : Nat)
  deriving DecidableEq

namespace WakeUpInterval

/-- The longest interval. -/
def greatest : Nat := 16777215

/-- The interval of a given number of seconds. -/
def ofSeconds (seconds : Int) : Except RequestError WakeUpInterval :=
  if within : 0 ≤ seconds ∧ seconds ≤ greatest then
    .ok ⟨seconds.toNat, by have : greatest = 16777215 := rfl; omega⟩
  else .error (.invalidParameter "interval" (.outside 0 greatest))

/-- The interval as the device is sent it. -/
def bytes (interval : WakeUpInterval) : List UInt8 :=
  BigEndian.ofNat 3 interval.seconds

/-- The seconds of an interval are accepted as that interval. -/
theorem ofSeconds_self (interval : WakeUpInterval) :
    ofSeconds interval.seconds = .ok interval := by
  obtain ⟨seconds, fits⟩ := interval
  have within : 0 ≤ (seconds : Int) ∧ (seconds : Int) ≤ greatest := by
    have : (256 : Nat) ^ (3 : Nat) = 16777216 := rfl
    have : greatest = 16777215 := rfl
    omega
  rw [ofSeconds, dif_pos within]
  simp only [Int.toNat_natCast]

end WakeUpInterval

end ZWaveGateway
