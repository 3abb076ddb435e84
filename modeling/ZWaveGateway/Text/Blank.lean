/-!
# Blank characters and trimming

A character is blank exactly when it has the Unicode property White_Space. Trimming takes the
blank characters off both ends of a text and keeps everything between them.
-/

namespace ZWaveGateway.Text

/-- The Unicode property White_Space. -/
def isBlank (c : Char) : Bool :=
  let code := c.toNat
  (0x09 ≤ code && code ≤ 0x0D) || code == 0x20 || code == 0x85 || code == 0xA0 ||
    code == 0x1680 || (0x2000 ≤ code && code ≤ 0x200A) || code == 0x2028 || code == 0x2029 ||
    code == 0x202F || code == 0x205F || code == 0x3000

/-- Drop the blank characters at the start and at the end. -/
def trimChars (chars : List Char) : List Char :=
  ((chars.dropWhile isBlank).reverse.dropWhile isBlank).reverse

/-- The text without the blank characters at its two ends. -/
def trim (text : String) : String :=
  String.ofList (trimChars text.toList)

/-- A text that neither starts nor ends with a blank character is left as it is. -/
theorem trimChars_eq_self {chars : List Char} (starts : ∀ c ∈ chars.head?, isBlank c = false)
    (ends : ∀ c ∈ chars.getLast?, isBlank c = false) : trimChars chars = chars := by
  cases chars with
  | nil => rfl
  | cons first rest =>
      have opens : isBlank first = false := starts first rfl
      unfold trimChars
      rw [List.dropWhile_cons_of_neg (by simp [opens])]
      have closes : ∀ c ∈ (first :: rest).reverse.head?, isBlank c = false := by
        rwa [List.head?_reverse]
      cases turned : (first :: rest).reverse with
      | nil => simp at turned
      | cons last before =>
          have closed : isBlank last = false := closes last (by rw [turned]; rfl)
          rw [List.dropWhile_cons_of_neg (by simp [closed]), ← turned, List.reverse_reverse]

end ZWaveGateway.Text
