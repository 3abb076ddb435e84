/-!
# Reading UTF-8 that may be damaged

Bytes are read as UTF-8 characters. Where they are not UTF-8, the longest stretch that could have
begun a character, or else one byte, gives way to one replacement character, and reading goes on
behind it.
-/

namespace ZWaveGateway.Text.Utf8

/-- The character that stands for unreadable bytes. -/
def replacement : Char := '\uFFFD'

/-- Which second bytes may follow a first byte, and how many bytes the character has. -/
def lead? (first : UInt8) : Option (Nat × UInt8 × UInt8) :=
  if 0xC2 ≤ first ∧ first ≤ 0xDF then some (2, 0x80, 0xBF)
  else if first = 0xE0 then some (3, 0xA0, 0xBF)
  else if first = 0xED then some (3, 0x80, 0x9F)
  else if 0xE1 ≤ first ∧ first ≤ 0xEF then some (3, 0x80, 0xBF)
  else if first = 0xF0 then some (4, 0x90, 0xBF)
  else if 0xF1 ≤ first ∧ first ≤ 0xF3 then some (4, 0x80, 0xBF)
  else if first = 0xF4 then some (4, 0x80, 0x8F)
  else none

/-- A byte that continues a character. -/
def isTail (b : UInt8) : Bool := 0x80 ≤ b && b ≤ 0xBF

/-- The bits a continuing byte adds. -/
def extend (value : Nat) (b : UInt8) : Nat := value * 64 + b.toNat % 64

/-- The character at the front of nonempty bytes, or the replacement, with the bytes behind it. -/
def next (first : UInt8) (rest : List UInt8) : Char × List UInt8 :=
  if first < 0x80 then (Char.ofNat first.toNat, rest)
  else match lead? first with
    | none => (replacement, rest)
    | some (size, low, high) =>
      match rest with
      | [] => (replacement, [])
      | second :: behind =>
        if ¬(low ≤ second ∧ second ≤ high) then (replacement, rest)
        else if size = 2 then (Char.ofNat (extend (first.toNat % 32) second), behind)
        else match behind with
          | [] => (replacement, [])
          | third :: beyond =>
            if ¬isTail third then (replacement, behind)
            else if size = 3 then
              (Char.ofNat (extend (extend (first.toNat % 16) second) third), beyond)
            else match beyond with
              | [] => (replacement, [])
              | fourth :: end_ =>
                if ¬isTail fourth then (replacement, beyond)
                else (Char.ofNat
                  (extend (extend (extend (first.toNat % 8) second) third) fourth), end_)

/-- Reading a character never gives bytes back. -/
theorem next_length_le (first : UInt8) (rest : List UInt8) :
    (next first rest).2.length ≤ rest.length := by
  unfold next
  repeat' split
  all_goals simp only [List.length_cons, List.length_nil]
  all_goals omega

/-- All characters of the bytes. -/
def decode : List UInt8 → List Char
  | [] => []
  | first :: rest => (next first rest).1 :: decode (next first rest).2
termination_by bytes => bytes.length
decreasing_by
  have kept := next_length_le first rest
  simp only [List.length_cons]
  omega

/-- The bytes as text. -/
def text (bytes : List UInt8) : String :=
  String.ofList (decode bytes)

end ZWaveGateway.Text.Utf8
