/-!
# Instants and durations

Time is counted in nanoseconds. A duration is never negative; the age of something is the time from
its instant to now, and zero while that instant is still ahead.
-/

namespace ZWaveGateway

-- Powers of numbers are the built-in ones, whatever is imported.
attribute [local instance (high)] instPowNat

/-- A length of time. -/
structure Duration where
  nanoseconds : Nat
  deriving DecidableEq, Repr

/-- A point in time, counted from an arbitrary origin. -/
structure Instant where
  nanoseconds : Int
  deriving DecidableEq, Repr

namespace Duration

/-- A duration given in milliseconds. -/
def ofMilliseconds (count : Nat) : Duration :=
  ⟨count * 1000000⟩

/-- `count` units of `10 ^ places` parts each, with the fraction's trailing zeros left out. -/
def decimal (count places : Nat) : String :=
  let unit := 10 ^ places
  let digits := (Nat.toDigits 10 (unit + count % unit)).drop 1
  let kept := (digits.reverse.dropWhile (· == '0')).reverse
  let whole := toString (count / unit)
  if kept.isEmpty then whole else whole ++ "." ++ String.ofList kept

/-- The duration in the largest of seconds, milliseconds, microseconds and nanoseconds of which it
holds at least one. -/
def text (duration : Duration) : String :=
  let count := duration.nanoseconds
  if 1000000000 ≤ count then decimal count 9 ++ "s"
  else if 1000000 ≤ count then decimal count 6 ++ "ms"
  else if 1000 ≤ count then decimal count 3 ++ "µs"
  else decimal count 0 ++ "ns"

example : text ⟨5000000000⟩ = "5s" ∧ text ⟨1234567⟩ = "1.234567ms" ∧ text ⟨0⟩ = "0ns" := by
  decide +kernel

end Duration

namespace Instant

/-- The time from one instant to a later one, and zero if it is not later. -/
def since (now earlier : Instant) : Duration :=
  ⟨(now.nanoseconds - earlier.nanoseconds).toNat⟩

/-- The instant a duration later. -/
def after (start : Instant) (duration : Duration) : Instant :=
  ⟨start.nanoseconds + duration.nanoseconds⟩

end Instant

end ZWaveGateway
