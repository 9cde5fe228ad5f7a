/-
# Watching a restart

A `Probe` watches the server restart.  It checks again and again whether the server is up:
first until it is seen down (`awaitingDown`), then until it is seen up (`awaitingUp`).  The
server may come back faster than it can be seen down, so after a window of time the first
phase ends by itself.  One budget covers both phases; when it is used up, the watch ends
without an answer, which does not mean that the task failed.

**One round.**  A round starts by looking at the clock: the budget may be used up, and the
window of the first phase may be over.  Then the server is checked, for at most the rest of
the budget.  The answer ends the watch, changes the phase, or is only reported; after that
the next tick is waited for.

`Probe.poll` is one step of the watch, from one wait to the next.  What it waits for is its
stage: an answer and a deadline, or a tick.  Once cancelled it neither checks nor reports
again.
-/
import TaskWatch.Ticker
import TaskWatch.Settings
import TaskWatch.Tracker

namespace TaskWatch

/-! ## 1. The progress that is shown -/

/-- The distance from 1 to the next double. -/
def doubleEpsilon : Float := Float.ofScientific 2220446049250313 true 31

/-- The lesser of two doubles. -/
def lesser (x y : Float) : Float := if x < y then x else y

/-- The greater of two doubles. -/
def greater (x y : Float) : Float := if x < y then y else x

/-- **The share of the budget that is used**, in whole percent, rounded down.  It never
shows more than the cap of its phase. -/
def ProbeSettings.percent (s : ProbeSettings) (phase : ProbePhase) (elapsed : Duration) : Nat :=
  let budget := greater (Duration.ofMillis s.budget).toFloat doubleEpsilon
  let cap := match phase with
    | .awaitingDown => s.downCap
    | .awaitingUp => s.upCap
  let share := greater (lesser (lesser (elapsed.toFloat / budget) cap) 1.0) 0.0
  (share * 100.0).floor.toUInt8.toNat

/-- **The report after some time in a phase.** -/
def ProbeSettings.report (s : ProbeSettings) (phase : ProbePhase) (elapsed : Duration) :
    ProbeReport where
  phase := phase
  elapsedSeconds := elapsed.seconds
  budgetSeconds := (Duration.ofMillis s.budget).seconds
  percent := s.percent phase elapsed

/-! ## 2. The watch -/

/-- **A watch in progress**: its ticker also knows when it started. -/
structure Probe where
  settings : ProbeSettings
  phase : ProbePhase
  ticker : Ticker
  deriving Repr, Inhabited

namespace Probe

/-- **What a watch waits for.** -/
inductive Stage where
  /-- It has not begun. -/
  | fresh (settings : ProbeSettings)
  /-- The answer of a check, until the deadline. -/
  | checking (p : Probe) (deadline : Nat)
  /-- The next tick. -/
  | pausing (p : Probe)
  | ended (outcome : ProbeOutcome)
  deriving Repr, Inhabited

/-- **What a step does.** -/
inductive Deed where
  | report (r : ProbeReport)
  /-- The server is checked. -/
  | check
  deriving Repr, DecidableEq, Inhabited

/-- The time since the watch started. -/
def elapsed (p : Probe) (now : Nat) : Nat :=
  p.ticker.elapsed now

/-- The report of this moment. -/
def reportAt (p : Probe) (now : Nat) : Deed :=
  .report (p.settings.report p.phase (.ofMillis (p.elapsed now)))

/-- **Into the second phase**: a new schedule, and a report. -/
def enterAwaitingUp (p : Probe) (now : Nat) : Probe × List Deed :=
  let p := { p with
    phase := .awaitingUp
    ticker := p.ticker.setPeriod now p.settings.upInterval }
  (p, [p.reportAt now])

/-- **The start of a round.** -/
def round (p : Probe) (now : Nat) (cancelled : Bool) : Stage × List Deed :=
  let elapsed := p.elapsed now
  if p.settings.budget ≤ elapsed then (.ended (.timeout elapsed), [])
  else
    let (p, deeds) :=
      if p.phase = .awaitingDown ∧ p.settings.downWindow ≤ elapsed then p.enterAwaitingUp now
      else (p, [])
    if cancelled then (.ended .cancelled, deeds)
    else (.checking p (now + (p.settings.budget - elapsed)), deeds ++ [.check])

/-- **The answer of a check.** -/
def answered (p : Probe) (now : Nat) (up : Bool) : Stage × List Deed :=
  match p.phase, up with
  | .awaitingDown, false =>
    let (p, deeds) := p.enterAwaitingUp now
    (.pausing p, deeds)
  | .awaitingUp, true => (.ended (.ready (p.elapsed now)), [])
  | _, _ => (.pausing p, [p.reportAt now])

/-- **One step** at a moment, given whether the watch is cancelled by then and whether a
check has been answered.  `none`: it goes on waiting.  A cancellation comes before an
answer, and an answer before the deadline. -/
def Stage.poll (now : Nat) (cancelled : Bool) (answer : Option Bool) :
    Stage → Option (Stage × List Deed)
  | .fresh settings =>
    let p : Probe :=
      { settings, phase := .awaitingDown, ticker := .start now settings.downInterval }
    let (stage, deeds) := p.round now cancelled
    some (stage, p.reportAt now :: deeds)
  | .checking p deadline =>
    if cancelled then some (.ended .cancelled, [])
    else
      match answer with
      | some up => some (p.answered now up)
      | none =>
        if deadline ≤ now then some (.ended (.timeout (p.elapsed now)), []) else none
  | .pausing p =>
    if cancelled then some (.ended .cancelled, [])
    else if p.ticker.due ≤ now then
      some ({ p with ticker := p.ticker.advance now }.round now false)
    else none
  | .ended _ => none

/-- When a stage goes on by itself. -/
def Stage.deadline? : Stage → Option Nat
  | .checking _ deadline => some deadline
  | .pausing p => some p.ticker.due
  | .fresh _ | .ended _ => none

/-! ## 3. A whole watch

How the server behaves is given check by check: the answer to the first check, to the
second, and so on, each with the time it takes; `none` is an answer that never comes. -/

/-- **How the checks are answered.** -/
abbrev Answers := Nat → Option (Nat × Bool)

/-- **What a watch did**: its deeds with their moments, and its end. -/
structure Trace where
  deeds : List (Nat × Deed) := []
  outcome : ProbeOutcome := .cancelled
  endedAt : Nat := 0
  deriving Repr, Inhabited

/-- The deeds of one moment in front of a trace. -/
def Trace.after (now : Nat) (deeds : List Deed) (t : Trace) : Trace :=
  { t with deeds := deeds.map (now, ·) ++ t.deeds }

/-- When a stage goes on if nobody interferes, and the answer that it goes on with.  It was
entered at `now`, and `reply` is the answer to its check.  An answer that comes at the
deadline is in time. -/
def Stage.wake? (stage : Stage) (now : Nat) (reply : Option (Nat × Bool)) :
    Option (Nat × Option Bool) :=
  match stage with
  | .checking _ deadline =>
    match reply with
    | some (after, up) =>
      if now + after ≤ deadline then some (now + after, some up) else some (deadline, none)
    | none => some (deadline, none)
  | .pausing p => some (max now p.ticker.due, none)
  | .fresh _ | .ended _ => none

/-- The rest of a watch from a stage on, in at most `fuel` steps.  The stage was entered at
`now`, and `checks` checks have begun by then. -/
def Stage.finish (answers : Answers) (c : Cancellation) :
    Nat → Nat → Nat → Stage → Trace
  | 0, now, _, _ => { endedAt := now }
  | fuel + 1, now, checks, stage =>
    match stage with
    | .ended outcome => { outcome, endedAt := now }
    | stage =>
      match stage.wake? now (answers (checks - 1)) with
      | none => { endedAt := now }
      | some (moment, answer) =>
        let (moment, undisturbed) := waitUntil now moment c
        match stage.poll moment (!undisturbed) answer with
        | none => { endedAt := moment }
        | some (stage, deeds) =>
          (finish answers c fuel moment (checks + deeds.count .check) stage).after moment deeds

/-- **A whole watch** that begins at the start of the clock.  Each round but the last takes
a period, so there are at most as many rounds as milliseconds in the budget, and each is
two steps. -/
def run (settings : ProbeSettings) (answers : Answers) (c : Cancellation) : Trace :=
  match (Stage.fresh settings).poll 0 (c.any (· ≤ 0)) none with
  | none => {}
  | some (stage, deeds) =>
    (stage.finish answers c (2 * settings.budget + 4) 0 (deeds.count .check)).after 0 deeds

end Probe

end TaskWatch
