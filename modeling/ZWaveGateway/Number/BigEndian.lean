/-!
# Big-endian words

A natural number in a fixed number of bytes, most significant byte first, and a whole number in
two's complement. Main statements: reading undoes writing for every value that fits the width.
-/

namespace ZWaveGateway.BigEndian

-- Powers of numbers are the built-in ones, whatever is imported.
attribute [local instance (high)] instPowNat

/-- The value of bytes, most significant first. -/
def toNat : List UInt8 → Nat
  | [] => 0
  | b :: rest => b.toNat * 256 ^ rest.length + toNat rest

/-- The last `size` bytes of a natural number. -/
def ofNat : Nat → Nat → List UInt8
  | 0, _ => []
  | size + 1, value => UInt8.ofNat (value / 256 ^ size) :: ofNat size (value % 256 ^ size)

/-- Two's complement in `size` bytes. -/
def ofInt (size : Nat) (value : Int) : List UInt8 :=
  ofNat size (value % (256 : Int) ^ size).toNat

/-- The two's complement value of bytes. -/
def toInt (bytes : List UInt8) : Int :=
  let value := toNat bytes
  if 2 * value < 256 ^ bytes.length then value else (value : Int) - (256 : Int) ^ bytes.length

@[simp]
theorem length_ofNat (size value : Nat) : (ofNat size value).length = size := by
  induction size generalizing value with
  | zero => rfl
  | succ size ih => simp [ofNat, ih]

@[simp]
theorem length_ofInt (size : Nat) (value : Int) : (ofInt size value).length = size :=
  length_ofNat _ _

/-- Reading a number that fits its width gives it back. -/
theorem toNat_ofNat {size value : Nat} (fits : value < 256 ^ size) :
    toNat (ofNat size value) = value := by
  induction size generalizing value with
  | zero =>
      have : value = 0 := by simpa using fits
      simp [ofNat, toNat, this]
  | succ size ih =>
      have positive : 0 < 256 ^ size := Nat.pow_pos (by decide)
      have top : value / 256 ^ size < 256 := by
        rw [Nat.div_lt_iff_lt_mul positive]
        rw [Nat.pow_succ] at fits
        omega
      simp only [ofNat, toNat, length_ofNat, ih (Nat.mod_lt _ positive)]
      rw [UInt8.toNat_ofNat', Nat.mod_eq_of_lt (show _ < 2 ^ 8 from top)]
      exact Nat.div_add_mod' value (256 ^ size)

/-- Reading a whole number that fits its width in two's complement gives it back. -/
theorem toInt_ofInt {size : Nat} {value : Int} (low : -(256 : Int) ^ size ≤ 2 * value)
    (high : 2 * value < (256 : Int) ^ size) : toInt (ofInt size value) = value := by
  have whole : (256 : Int) ^ size = ((256 ^ size : Nat) : Int) := (Int.natCast_pow 256 size).symm
  have positive : 0 < 256 ^ size := Nat.pow_pos (by decide)
  have reduced : (value % (256 : Int) ^ size).toNat < 256 ^ size := by
    have := Int.emod_lt_of_pos value (b := (256 : Int) ^ size) (by omega)
    omega
  unfold toInt ofInt
  simp only [length_ofNat, toNat_ofNat reduced]
  by_cases negative : value < 0
  · have wrapped : value % (256 : Int) ^ size = value + (256 : Int) ^ size := by
      rw [← Int.add_emod_right, Int.emod_eq_of_lt (by omega) (by omega)]
    rw [wrapped, if_neg (by omega)]
    omega
  · rw [Int.emod_eq_of_lt (by omega) (by omega), if_pos (by omega)]
    omega

end ZWaveGateway.BigEndian
