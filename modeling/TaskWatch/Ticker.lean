/-
# Ticking

A `Ticker` ticks once per period.  The first tick is due one period after the ticker is
made, and changing the period starts a new schedule in the same way; the time that has
passed since the ticker was made goes on counting.

**Late ticks.**  A tick that is taken up to `Ticker.tolerance` late keeps the schedule: the
next one is due one period after this one was.  A tick that is taken later than that moves
the schedule: the next one is due one period from now.  So no tick is ever made up for, and
two due times are at least a period apart (`Ticker.due_advance`).

A wait can be cut short by a cancellation.  One that comes at the very moment the wait would
end comes first.
-/
import TaskWatch.Duration

namespace TaskWatch

/-- **A ticker**: when it was made, its period, and when its next tick is due. -/
structure Ticker where
  startedAt : Nat
  period : Nat
  due : Nat
  deriving Repr, DecidableEq, Inhabited

namespace Ticker

/-- How late a tick may be taken without moving the schedule. -/
def tolerance : Nat := 5

/-- A ticker that starts now. -/
def start (now : Nat) (period : Nat) : Ticker :=
  { startedAt := now, period, due := now + period }

/-- A new period, from now on. -/
def setPeriod (t : Ticker) (now : Nat) (period : Nat) : Ticker :=
  { t with period, due := now + period }

/-- The time since the ticker was made. -/
def elapsed (t : Ticker) (now : Nat) : Nat :=
  now - t.startedAt

/-- **Take the tick that is due**, at a moment when it is. -/
def advance (t : Ticker) (now : Nat) : Ticker :=
  { t with due := if now ≤ t.due + tolerance then t.due + t.period else now + t.period }

theorem due_advance (t : Ticker) (now : Nat) : t.due + t.period ≤ (t.advance now).due := by
  unfold advance
  simp only
  split <;> omega

end Ticker

/-! ## Waiting -/

/-- When a cancellation comes, if it does. -/
abbrev Cancellation := Option Nat

/-- **Wait for a moment**, from now on: when the wait is over, and whether it was not cut
short.  A moment in the past needs no wait, but a cancellation that has come by then still
counts. -/
def waitUntil (now target : Nat) : Cancellation → Nat × Bool
  | none => (max now target, true)
  | some moment =>
    if moment ≤ max now target then (max now moment, false) else (max now target, true)

/-- **Wait for the next tick**: when the wait is over, and the ticker after the tick, unless
the wait was cut short. -/
def Ticker.tick (t : Ticker) (now : Nat) (c : Cancellation) : Nat × Option Ticker :=
  match waitUntil now t.due c with
  | (now, true) => (now, some (t.advance now))
  | (now, false) => (now, none)

end TaskWatch
