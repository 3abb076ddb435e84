/-!
# Whole numbers written in decimal

A numeral is one or more ASCII digits, with at most one sign before them. A numeral that is read
into a bounded range is refused when its value lies outside; one without a sign column refuses
the minus but takes the plus.
-/

namespace ZWaveGateway.Text.Numeral

-- Powers of numbers are the built-in ones, whatever is imported.
attribute [local instance (high)] instPowNat

/-- The value of an ASCII digit. -/
def digit? (c : Char) : Option Nat :=
  if '0' ≤ c ∧ c ≤ '9' then some (c.toNat - '0'.toNat) else none

/-- Read on from the value of the digits already seen; only digits may follow. -/
def continue? (value : Nat) : List Char → Option Nat
  | [] => some value
  | c :: rest => do continue? (10 * value + (← digit? c)) rest

/-- The value of a nonempty run of digits. -/
def magnitude? : List Char → Option Nat
  | [] => none
  | digits => continue? 0 digits

/-- The value of digits with an optional sign. -/
def integer? : List Char → Option Int
  | '+' :: digits => (magnitude? digits).map Int.ofNat
  | '-' :: digits => (magnitude? digits).map fun value => -Int.ofNat value
  | digits => (magnitude? digits).map Int.ofNat

/-- A number from zero to `most`, written without a minus. -/
def natural? (most : Nat) (text : String) : Option Nat :=
  let digits := match text.toList with
    | '+' :: digits => digits
    | digits => digits
  (magnitude? digits).filter (· ≤ most)

/-- A number that fits two's complement words of the given width. -/
def signed? (bits : Nat) (text : String) : Option Int :=
  (integer? text.toList).filter fun value =>
    -(2 : Int) ^ (bits - 1) ≤ value && value < (2 : Int) ^ (bits - 1)

/-- The text writes a number in decimal: one or more ASCII digits, with at most a plus before
them. -/
def Writes (text : String) (number : Nat) : Prop :=
  ∃ digits : List Char, digits ≠ [] ∧ (∀ c ∈ digits, '0' ≤ c ∧ c ≤ '9') ∧
    (text.toList = digits ∨ text.toList = '+' :: digits) ∧
    number = digits.foldl (fun value c => 10 * value + (c.toNat - '0'.toNat)) 0

theorem continue?_eq_some_iff {digits : List Char} {start value : Nat} :
    continue? start digits = some value ↔ (∀ c ∈ digits, '0' ≤ c ∧ c ≤ '9') ∧
      value = digits.foldl (fun value c => 10 * value + (c.toNat - '0'.toNat)) start := by
  induction digits generalizing start with
  | nil => simp [continue?, eq_comm]
  | cons c rest ih =>
      by_cases digit : '0' ≤ c ∧ c ≤ '9'
      · simp [continue?, digit?, digit, ih]
      · simp [continue?, digit?, digit]

theorem magnitude?_eq_some_iff {digits : List Char} {value : Nat} :
    magnitude? digits = some value ↔ digits ≠ [] ∧ (∀ c ∈ digits, '0' ≤ c ∧ c ≤ '9') ∧
      value = digits.foldl (fun value c => 10 * value + (c.toNat - '0'.toNat)) 0 := by
  cases digits with
  | nil => simp [magnitude?]
  | cons c rest =>
      change continue? 0 (c :: rest) = some value ↔ _
      simp [continue?_eq_some_iff]

/-- A natural number is read exactly from the texts that write it, up to the bound. -/
theorem natural?_eq_some_iff {most value : Nat} {text : String} :
    natural? most text = some value ↔ Writes text value ∧ value ≤ most := by
  unfold natural? Writes
  simp only [Option.filter_eq_some_iff, decide_eq_true_eq, magnitude?_eq_some_iff]
  refine and_congr_left fun _ => ?_
  generalize text.toList = chars
  constructor
  · rintro ⟨written, decimal, same⟩
    refine ⟨_, written, decimal, ?_, same⟩
    split
    · exact .inr rfl
    · exact .inl rfl
  · rintro ⟨digits, written, decimal, plain | plus, same⟩
    · -- A plus is no digit, so there is none to take off.
      subst plain
      split
      · next rest => exact absurd (decimal '+' List.mem_cons_self) (by decide)
      · exact ⟨written, decimal, same⟩
    · subst plus
      exact ⟨written, decimal, same⟩

/-- The text writes a whole number in decimal: one or more ASCII digits, with at most one sign before
them. -/
def WritesSigned (text : String) (number : Int) : Prop :=
  ∃ (digits : List Char) (size : Nat), digits ≠ [] ∧ (∀ c ∈ digits, '0' ≤ c ∧ c ≤ '9') ∧
    size = digits.foldl (fun value c => 10 * value + (c.toNat - '0'.toNat)) 0 ∧
    (((text.toList = digits ∨ text.toList = '+' :: digits) ∧ number = size) ∨
      (text.toList = '-' :: digits ∧ number = -(size : Int)))

theorem integer?_eq_some_iff {chars : List Char} {number : Int} :
    integer? chars = some number ↔ ∃ (digits : List Char) (size : Nat),
      magnitude? digits = some size ∧
        (((chars = digits ∨ chars = '+' :: digits) ∧ number = size) ∨
          (chars = '-' :: digits ∧ number = -(size : Int))) := by
  unfold integer?
  constructor
  · intro accepted
    split at accepted
    · next digits =>
        obtain ⟨size, read, same⟩ := Option.map_eq_some_iff.mp accepted
        exact ⟨digits, size, read, .inl ⟨.inr rfl, same.symm⟩⟩
    · next digits =>
        obtain ⟨size, read, same⟩ := Option.map_eq_some_iff.mp accepted
        exact ⟨digits, size, read, .inr ⟨rfl, same.symm⟩⟩
    · obtain ⟨size, read, same⟩ := Option.map_eq_some_iff.mp accepted
      exact ⟨chars, size, read, .inl ⟨.inl rfl, same.symm⟩⟩
  · rintro ⟨digits, size, read, ⟨plain | plus, rfl⟩ | ⟨minus, rfl⟩⟩
    · -- A sign is no digit, so there is none to take off.
      subst plain
      obtain ⟨-, decimal, -⟩ := magnitude?_eq_some_iff.mp read
      split
      · exact absurd (decimal '+' List.mem_cons_self) (by decide)
      · exact absurd (decimal '-' List.mem_cons_self) (by decide)
      · exact Option.map_eq_some_iff.mpr ⟨size, read, rfl⟩
    · subst plus
      exact Option.map_eq_some_iff.mpr ⟨size, read, rfl⟩
    · subst minus
      exact Option.map_eq_some_iff.mpr ⟨size, read, rfl⟩

/-- A signed word is read exactly from the texts that write it, within the word's range. -/
theorem signed?_eq_some_iff {bits : Nat} {text : String} {value : Int} :
    signed? bits text = some value ↔ WritesSigned text value ∧
      -(2 : Int) ^ (bits - 1) ≤ value ∧ value < (2 : Int) ^ (bits - 1) := by
  simp only [signed?, WritesSigned, Option.filter_eq_some_iff, integer?_eq_some_iff,
    magnitude?_eq_some_iff, Bool.and_eq_true, decide_eq_true_eq, and_assoc]

end ZWaveGateway.Text.Numeral
