import ZWaveGateway.Tracker.Basic

/-!
# The sweeper

At regular intervals the sweeper times out overdue transactions. Its first sweep is at its start.
A sweep that is late by more than the tolerance moves all later ones: the next is a full interval
after it. Otherwise the next is an interval after the time the sweep was due. The sweeper ends when
it is told to, or when nobody is left who could tell it. One without any time between its sweeps
ends before the first.
-/

namespace ZWaveGateway

/-- The sweeper's own clock and schedule, in milliseconds since its start. -/
structure Sweeper where
  interval : Nat
  clock : Nat
  /-- When the next sweep is due. -/
  due : Nat
  running : Bool
  deriving DecidableEq, Repr

namespace Sweeper

/-- How late, in milliseconds, a sweep may be without moving the later ones. -/
def tolerance : Nat := 5

/-- A sweeper that has made its first sweep, or has ended at once for want of an interval. There
is nothing to time out yet, so the tracker has no part in it. -/
def start (interval : Nat) : Sweeper :=
  ⟨interval, 0, interval, decide (0 < interval)⟩

/-- When the sweep after one that is made now is due. -/
def nextDue (interval due now : Nat) : Nat :=
  if due + tolerance < now then now + interval else due + interval

/-- How many sweeps are made at one point in time, and when the next one is due. An interval of
zero is never due. -/
def sweepsAt (interval now due : Nat) : Nat × Nat :=
  if _late : 0 < interval ∧ due ≤ now then
    let (count, next) := sweepsAt interval now (nextDue interval due now)
    (count + 1, next)
  else (0, due)
termination_by now + 1 - due
decreasing_by
  unfold nextDue
  split <;> omega

/-- Sweep a number of times at one instant. -/
def sweep (tracker : Tracker) (now : Instant) : Nat → Expiry
  | 0 => ⟨tracker, [], []⟩
  | count + 1 =>
      let first := tracker.expire now
      let later := sweep first.tracker now count
      ⟨later.tracker, first.effects ++ later.effects, first.expired ++ later.expired⟩

/-- Let time pass in one go, then make the sweeps that are due. Transactions are timed by a clock
of their own, which stands at `now`. -/
def advance (sweeper : Sweeper) (tracker : Tracker) (now : Instant) (elapsed : Nat) :
    Sweeper × Expiry :=
  let clock := sweeper.clock + elapsed
  if sweeper.running then
    let (count, due) := sweepsAt sweeper.interval clock sweeper.due
    ({ sweeper with clock, due }, sweep tracker now count)
  else ({ sweeper with clock }, ⟨tracker, [], []⟩)

/-- Tell the sweeper whether to stop. -/
def tell (sweeper : Sweeper) (stop : Bool) : Sweeper :=
  { sweeper with running := sweeper.running && !stop }

/-- Leave the sweeper without anybody to tell it anything. -/
def abandon (sweeper : Sweeper) : Sweeper :=
  { sweeper with running := false }

end Sweeper

end ZWaveGateway
