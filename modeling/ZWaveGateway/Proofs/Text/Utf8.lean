import ZWaveGateway.Text.Utf8

/-!
# Reading UTF-8 that is not damaged

The reader of damaged UTF-8 gives replacement characters for what it cannot read, so it has an
answer for all bytes. On the bytes of a text it gives the text: each character is read from its own
one to four bytes, and what stands behind them does not matter
(`ZWaveGateway.Text.Utf8.decode_utf8EncodeChar_append`, `ZWaveGateway.Text.Utf8.text_bytes`).

The byte zero stands for the character NUL and is part of no other character. So cutting the bytes
of a text at their first zero cuts the text at its first NUL
(`ZWaveGateway.Text.Utf8.takeWhile_flatMap_utf8EncodeChar`).
-/

namespace ZWaveGateway.Text.Utf8

variable {first second third fourth low high : UInt8} {behind : List UInt8}

/-! ## One reading -/

theorem not_ascii_of_lead {bounds : Nat × UInt8 × UInt8} (leads : lead? first = some bounds) :
    ¬first < 0x80 := by
  intro ascii
  have small : first.toNat < 0x80 := UInt8.lt_iff_toNat_lt.mp ascii
  have none : lead? first = none := by
    simp only [lead?, UInt8.le_iff_toNat_le, ← UInt8.toNat_inj, UInt8.reduceToNat]
    repeat rw [if_neg (by omega)]
  cases none.symm.trans leads

theorem next_of_ascii (ascii : first < 0x80) :
    next first behind = (Char.ofNat first.toNat, behind) :=
  if_pos ascii

theorem next_of_lead_two (leads : lead? first = some (2, low, high))
    (within : low ≤ second ∧ second ≤ high) :
    next first (second :: behind) =
      (Char.ofNat (extend (first.toNat % 32) second), behind) := by
  simp only [next, if_neg (not_ascii_of_lead leads), leads, if_neg (not_not_intro within),
    if_true]

theorem next_of_lead_three (leads : lead? first = some (3, low, high))
    (within : low ≤ second ∧ second ≤ high) (tail : isTail third = true) :
    next first (second :: third :: behind) =
      (Char.ofNat (extend (extend (first.toNat % 16) second) third), behind) := by
  simp only [next, if_neg (not_ascii_of_lead leads), leads, if_neg (not_not_intro within), tail,
    if_true, not_true, if_false, Nat.reduceEqDiff]

theorem next_of_lead_four (leads : lead? first = some (4, low, high))
    (within : low ≤ second ∧ second ≤ high) (tail : isTail third = true)
    (last : isTail fourth = true) :
    next first (second :: third :: fourth :: behind) =
      (Char.ofNat (extend (extend (extend (first.toNat % 8) second) third) fourth), behind) := by
  simp only [next, if_neg (not_ascii_of_lead leads), leads, if_neg (not_not_intro within), tail,
    last, not_true, if_false, Nat.reduceEqDiff]

/-! ## First bytes -/

theorem lead?_two (least : 0xC2 ≤ first.toNat) (most : first.toNat ≤ 0xDF) :
    lead? first = some (2, 0x80, 0xBF) :=
  if_pos ⟨UInt8.le_iff_toNat_le.mpr least, UInt8.le_iff_toNat_le.mpr most⟩

variable (first second) in
/-- A character of three bytes is not one of fewer, and no surrogate. -/
theorem lead?_three (least : 0xE0 ≤ first.toNat) (most : first.toNat ≤ 0xEF)
    (tail : 0x80 ≤ second.toNat ∧ second.toNat ≤ 0xBF)
    (shortest : first.toNat = 0xE0 → 0xA0 ≤ second.toNat)
    (scalar : first.toNat = 0xED → second.toNat ≤ 0x9F) :
    ∃ low high, lead? first = some (3, low, high) ∧ low ≤ second ∧ second ≤ high := by
  simp only [lead?, UInt8.le_iff_toNat_le, ← UInt8.toNat_inj, UInt8.reduceToNat]
  rw [if_neg (by omega)]
  by_cases e0 : first.toNat = 0xE0
  · exact ⟨0xA0, 0xBF, if_pos e0, shortest e0, tail.2⟩
  rw [if_neg e0]
  by_cases ed : first.toNat = 0xED
  · exact ⟨0x80, 0x9F, if_pos ed, tail.1, scalar ed⟩
  rw [if_neg ed]
  exact ⟨0x80, 0xBF, if_pos (by omega), tail⟩

variable (first second) in
/-- A character of four bytes is not one of fewer, and not past the last one. -/
theorem lead?_four (least : 0xF0 ≤ first.toNat) (most : first.toNat ≤ 0xF4)
    (tail : 0x80 ≤ second.toNat ∧ second.toNat ≤ 0xBF)
    (shortest : first.toNat = 0xF0 → 0x90 ≤ second.toNat)
    (scalar : first.toNat = 0xF4 → second.toNat ≤ 0x8F) :
    ∃ low high, lead? first = some (4, low, high) ∧ low ≤ second ∧ second ≤ high := by
  simp only [lead?, UInt8.le_iff_toNat_le, ← UInt8.toNat_inj, UInt8.reduceToNat]
  rw [if_neg (by omega), if_neg (by omega), if_neg (by omega), if_neg (by omega)]
  by_cases f0 : first.toNat = 0xF0
  · exact ⟨0x90, 0xBF, if_pos f0, shortest f0, tail.2⟩
  rw [if_neg f0]
  by_cases f4 : first.toNat = 0xF4
  · rw [if_neg (by omega), if_pos f4]
    exact ⟨0x80, 0x8F, rfl, tail.1, scalar f4⟩
  exact ⟨0x80, 0xBF, if_pos (by omega), tail⟩

/-! ## Continuing bytes -/

/-- The continuing byte that carries the lowest six bits of a number. -/
def tailByte (bits : Nat) : UInt8 := UInt8.ofNat (bits % 64 + 128)

theorem toNat_ofNat_of_le {code : Nat} (small : code ≤ 0xFF) : (UInt8.ofNat code).toNat = code :=
  UInt8.toNat_ofNat_of_lt' (Nat.lt_succ_of_le small)

theorem toNat_tailByte (bits : Nat) : (tailByte bits).toNat = bits % 64 + 128 :=
  toNat_ofNat_of_le (by omega)

theorem tailByte_within (bits : Nat) : 0x80 ≤ tailByte bits ∧ tailByte bits ≤ 0xBF := by
  have carried := toNat_tailByte bits
  simp only [UInt8.le_iff_toNat_le, UInt8.reduceToNat]
  omega

theorem isTail_tailByte (bits : Nat) : isTail (tailByte bits) = true := by
  simpa only [isTail, Bool.and_eq_true, decide_eq_true_iff] using tailByte_within bits

theorem extend_tailByte (value bits : Nat) :
    extend value (tailByte bits) = value * 64 + bits % 64 := by
  rw [extend, toNat_tailByte]
  omega

/-! ## Characters by the number of their bytes -/

variable {code : Nat}

theorem next_one_byte (most : code ≤ 0x7F) :
    next (UInt8.ofNat code) behind = (Char.ofNat code, behind) := by
  have written : (UInt8.ofNat code).toNat = code := toNat_ofNat_of_le (by omega)
  have ascii : UInt8.ofNat code < 0x80 := by
    rw [UInt8.lt_iff_toNat_lt, written]
    exact Nat.lt_succ_of_le most
  rw [next_of_ascii ascii, written]

theorem next_two_bytes (least : 0x80 ≤ code) (most : code ≤ 0x7FF) :
    next (UInt8.ofNat (code / 64 % 32 + 192)) (tailByte code :: behind) =
      (Char.ofNat code, behind) := by
  have written : (UInt8.ofNat (code / 64 % 32 + 192)).toNat = code / 64 % 32 + 192 :=
    toNat_ofNat_of_le (by omega)
  generalize UInt8.ofNat (code / 64 % 32 + 192) = first at written ⊢
  have leads : lead? first = some (2, 0x80, 0xBF) := lead?_two (by omega) (by omega)
  have value : extend (first.toNat % 32) (tailByte code) = code := by
    rw [extend_tailByte]
    omega
  rw [next_of_lead_two leads (tailByte_within code), value]

theorem next_three_bytes (least : 0x800 ≤ code) (most : code ≤ 0xFFFF)
    (scalar : code < 0xD800 ∨ 0xDFFF < code) :
    next (UInt8.ofNat (code / 4096 % 16 + 224))
        (tailByte (code / 64) :: tailByte code :: behind) = (Char.ofNat code, behind) := by
  have written : (UInt8.ofNat (code / 4096 % 16 + 224)).toNat = code / 4096 % 16 + 224 :=
    toNat_ofNat_of_le (by omega)
  generalize UInt8.ofNat (code / 4096 % 16 + 224) = first at written ⊢
  have carried := toNat_tailByte (code / 64)
  obtain ⟨low, high, leads, within⟩ := lead?_three first (tailByte (code / 64))
    (by omega) (by omega) (by omega) (by omega) (by omega)
  have value : extend (extend (first.toNat % 16) (tailByte (code / 64))) (tailByte code) =
      code := by
    rw [extend_tailByte, extend_tailByte]
    omega
  rw [next_of_lead_three leads within (isTail_tailByte code), value]

theorem next_four_bytes (least : 0x10000 ≤ code) (most : code ≤ 0x10FFFF) :
    next (UInt8.ofNat (code / 262144 % 8 + 240))
        (tailByte (code / 4096) :: tailByte (code / 64) :: tailByte code :: behind) =
      (Char.ofNat code, behind) := by
  have written : (UInt8.ofNat (code / 262144 % 8 + 240)).toNat = code / 262144 % 8 + 240 :=
    toNat_ofNat_of_le (by omega)
  generalize UInt8.ofNat (code / 262144 % 8 + 240) = first at written ⊢
  have carried := toNat_tailByte (code / 4096)
  obtain ⟨low, high, leads, within⟩ := lead?_four first (tailByte (code / 4096))
    (by omega) (by omega) (by omega) (by omega) (by omega)
  have value : extend (extend (extend (first.toNat % 8) (tailByte (code / 4096)))
      (tailByte (code / 64))) (tailByte code) = code := by
    rw [extend_tailByte, extend_tailByte, extend_tailByte]
    omega
  rw [next_of_lead_four leads within (isTail_tailByte (code / 64)) (isTail_tailByte code), value]

/-! ## Texts -/

/-- The bytes of a character are read as that character, whatever stands behind them. -/
theorem decode_utf8EncodeChar_append (c : Char) (behind : List UInt8) :
    decode (String.utf8EncodeChar c ++ behind) = c :: decode behind := by
  have scalar : c.toNat < 0xD800 ∨ 0xDFFF < c.toNat ∧ c.toNat < 0x110000 := c.valid
  have reads {first : UInt8} {rest : List UInt8}
      (taken : next first (rest ++ behind) = (Char.ofNat c.toNat, behind)) :
      decode (first :: rest ++ behind) = c :: decode behind := by
    rw [List.cons_append, decode, taken, Char.ofNat_toNat]
  unfold String.utf8EncodeChar
  dsimp only
  split
  · next most => exact reads (next_one_byte most)
  split
  · next least most => exact reads (next_two_bytes (Nat.lt_of_not_le least) most)
  split
  · next least most =>
      exact reads (next_three_bytes (Nat.lt_of_not_le least) most (scalar.imp_right And.left))
  · next least =>
      have most : c.toNat ≤ 0x10FFFF := by omega
      exact reads (next_four_bytes (Nat.lt_of_not_le least) most)

theorem decode_flatMap_utf8EncodeChar (chars : List Char) :
    decode (chars.flatMap String.utf8EncodeChar) = chars := by
  induction chars with
  | nil => rw [List.flatMap_nil, decode]
  | cons c rest ih => rw [List.flatMap_cons, decode_utf8EncodeChar_append, ih]

/-- The bytes of a text. -/
def bytes (text : String) : List UInt8 :=
  text.toUTF8.data.toList

theorem bytes_eq_flatMap (text : String) :
    bytes text = text.toList.flatMap String.utf8EncodeChar := by
  rw [bytes, String.toUTF8, ← String.utf8Encode_toList, List.utf8Encode,
    List.toList_data_toByteArray]

/-- **The bytes of a text are read as that text.** -/
theorem text_bytes (text : String) : Utf8.text (bytes text) = text := by
  rw [Utf8.text, bytes_eq_flatMap, decode_flatMap_utf8EncodeChar, String.ofList_toList]

/-! ## The byte zero -/

theorem ofNat_ne_zero {code : Nat} (least : 0 < code) (most : code ≤ 0xFF) :
    UInt8.ofNat code ≠ 0 := by
  intro zero
  have written := toNat_ofNat_of_le most
  rw [zero] at written
  exact Nat.ne_of_lt least written

/-- No byte of a character is zero, unless the character is NUL. -/
theorem forall_mem_utf8EncodeChar_ne_zero {c : Char} (other : c ≠ '\x00') :
    ∀ b ∈ String.utf8EncodeChar c, b ≠ 0 := by
  have positive : c.val.toNat ≠ 0 := fun zero => other (Char.toNat_inj.mp zero)
  unfold String.utf8EncodeChar
  dsimp only
  -- A character of one byte is its own code; every byte of a longer one has its highest bit.
  repeat' split
  all_goals
    simp only [List.forall_mem_cons, List.not_mem_nil, false_implies, implies_true, and_true]
    and_intros
  all_goals exact ofNat_ne_zero (by omega) (by omega)

/-- Cutting the bytes of a text at the first zero cuts the text at its first NUL. -/
theorem takeWhile_flatMap_utf8EncodeChar (chars : List Char) :
    (chars.flatMap String.utf8EncodeChar).takeWhile (· != 0) =
      (chars.takeWhile (· != '\x00')).flatMap String.utf8EncodeChar := by
  induction chars with
  | nil => rfl
  | cons c rest ih =>
      by_cases nul : c = '\x00'
      · subst nul
        rfl
      · have nonzero : ∀ b ∈ String.utf8EncodeChar c, (b != 0) = true := fun b part =>
          bne_iff_ne.mpr (forall_mem_utf8EncodeChar_ne_zero nul b part)
        have kept : (c != '\x00') = true := bne_iff_ne.mpr nul
        rw [List.flatMap_cons, List.takeWhile_append_of_pos nonzero, ih,
          List.takeWhile_cons, if_pos kept, List.flatMap_cons]

end ZWaveGateway.Text.Utf8
