import PubSub.Request.Registry

/-!
# The sweeper

The background task that lets requests expire. It sleeps until the earliest deadline, or for its
interval when nothing is due sooner; a new registration makes it plan its sleep again.

## Main definitions

- `Sweeper` — interval, stop sign and phase of the task
- `Sweeper.wakeAt` — when a sleep planned now ends
- `Sweeper.isReady`, `Sweeper.step` — whether the task can go on, and one step of it
- `Sweeper.settle`, `Sweeper.advance` — all steps possible at one instant, and until a later one

## Design notes

Among the reasons to wake, the stop sign comes first, then the end of the sleep, then a
registration. A step either stops, plans, sweeps, or takes note of a registration. At one instant
there are at most six steps when the interval is not zero: a sleep planned after a sweep ends later.

A plan begins with the end of the longest sleep, whatever is due. The task does not survive one that
the clock cannot hold: it ends there as if it had been told to, and whoever started it does not hear
of it. Sleeps end exactly when they should, so spans are whole milliseconds, as the clock's timers
are.
-/

namespace PubSub

/-- What the sweeper is at. -/
inductive Sweeper.Phase where
  | planning
  | sleeping (wakeAt : Instant)
  /-- It ended, because it was told to or because the clock cannot hold the end of its sleep. -/
  | stopped
  deriving DecidableEq

/-- The task that lets requests expire. -/
structure Sweeper where
  /-- The longest sleep. -/
  interval : Duration
  shutdown : Bool := false
  /-- What it is at. -/
  phase : Sweeper.Phase := .planning
  deriving DecidableEq

namespace Sweeper

/-- When a sleep planned at `now` ends, if the clock can hold the end of the longest sleep. -/
def wakeAt (sw : Sweeper) (reg : Registry) (now : Instant) : Instant :=
  match reg.nextExpiry with
  | some expiry => min expiry (now + sw.interval)
  | none => now + sw.interval

/-- Whether the task can go on at `now`. -/
def isReady (sw : Sweeper) (reg : Registry) (now : Instant) : Bool :=
  match sw.phase with
  | .planning => true
  | .sleeping wakeAt => sw.shutdown || wakeAt ≤ now || reg.signalled
  | .stopped => false

/-- One step of the task at `now`; nothing happens when it cannot go on. -/
def step (sw : Sweeper) (reg : Registry) (now : Instant) : Sweeper × Registry :=
  match sw.phase with
  | .planning =>
    if now + sw.interval < Instant.horizon then
      ({ sw with phase := .sleeping (sw.wakeAt reg now) }, reg)
    else ({ sw with phase := .stopped }, reg)
  | .sleeping wakeAt =>
    if sw.shutdown then ({ sw with phase := .stopped }, reg)
    else if wakeAt ≤ now then ({ sw with phase := .planning }, (reg.sweepExpired now).2)
    else if reg.signalled then ({ sw with phase := .planning }, { reg with signalled := false })
    else (sw, reg)
  | .stopped => (sw, reg)

/-- At most `fuel` steps at one instant. -/
def steps (sw : Sweeper) (reg : Registry) (now : Instant) : Nat → Sweeper × Registry
  | 0 => (sw, reg)
  | fuel + 1 =>
    if sw.isReady reg now then
      let (sw, reg) := sw.step reg now
      sw.steps reg now fuel
    else (sw, reg)

/-- All steps that are possible at one instant. -/
def settle (sw : Sweeper) (reg : Registry) (now : Instant) : Sweeper × Registry :=
  sw.steps reg now 6

/-- The end of the sleep the task is in. -/
def timer? (sw : Sweeper) : Option Instant :=
  match sw.phase with
  | .sleeping wakeAt => some wakeAt
  | _ => none

/-- At most `fuel` sleeps that end by `target`, each at its own instant, then the steps possible at
`target`. -/
def advanceBy (sw : Sweeper) (reg : Registry) (now target : Instant) : Nat → Sweeper × Registry
  | 0 => sw.settle reg target
  | fuel + 1 =>
    let (sw, reg) := sw.settle reg now
    match sw.timer? with
    | some wakeAt =>
      if wakeAt ≤ target then sw.advanceBy reg (max now wakeAt) target fuel
      else sw.settle reg target
    | none => sw.settle reg target

/-- Lets time pass from `now` until `target`. Every sleep that begins after `now` ends later than it
began, so there are no more of them than there are instants. -/
def advance (sw : Sweeper) (reg : Registry) (now target : Instant) : Sweeper × Registry :=
  sw.advanceBy reg now target (target - now + 1)

end Sweeper

end PubSub
