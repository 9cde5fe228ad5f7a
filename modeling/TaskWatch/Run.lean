/-
# Running a tracker

A `Run` is a tracker at work: it hears signals from a queue, one at a time, lets the tracker
decide, shows the new picture, and carries out the effects.  At most one source is at work
for it at any time; before another one starts, or the task is settled, the old one is
cancelled and waited for.

**The life of a run.**  It carries out the first effects, then listens.  When the task is
settled it lingers, if the outcome calls for a refresh: the last message is shown for a
while, and then the pages are told to refresh.  Then it has ended.

**Retirement.**  A run can be retired at any time.  From then on its source is cancelled and
it shows no more pictures; at its next wait it stops its source and ends, without a refresh.

`Run.step` is one step of the run itself, `Run.hear` one step of its source.  Between two
steps anything may happen elsewhere.
-/
import TaskWatch.Source

namespace TaskWatch

/-- **What a run is about to do.** -/
inductive Run.Stage where
  /-- Carry out these effects; the outcome, if the task is settled by one before them. -/
  | executing (effects : List Effect) (outcome : Option Outcome)
  /-- Hear the next signal. -/
  | listening
  /-- Retired: stop the source, then end. -/
  | leaving
  /-- Settled: refresh at this moment. -/
  | lingering (due : Nat)
  | ended
  deriving Repr, DecidableEq, Inhabited

/-- **A tracker at work.** -/
structure Run where
  tracker : Tracker
  stage : Run.Stage
  /-- The signals that were sent and not heard yet, oldest first. -/
  inbox : List Signal := []
  /-- The source at work, and whether the run has cancelled it. -/
  source : Option (Source × Bool) := none
  retired : Bool := false
  deriving Repr

namespace Run

/-- **What a step of a run does outside of it.** -/
inductive Act where
  /-- A new picture is shown. -/
  | show (v : View)
  /-- The server is told to stop the task; nobody waits for its answer. -/
  | remoteCancel (taskId : String)
  /-- The pages are told to refresh. -/
  | refresh (task : Task)
  deriving Repr

/-- A run that is about to begin, with the picture it starts with. -/
def start (tracker : Tracker) : Run × View :=
  let (tracker, effects) := tracker.begin
  ({ tracker, stage := .executing effects none }, tracker.view)

/-! ## 1. The source -/

/-- The source of an effect that starts one. -/
def sourceOf? (settings : ConsoleSettings) (taskId : String) : Effect → Option Source
  | .subscribe => some (.subscriber taskId settings.idleTimeout .fresh)
  | .queryFallback => some (.inquiry taskId .fresh)
  | .startGrace => some (.grace settings.grace .fresh)
  | .startProbe => some (.probe (.fresh settings.probe))
  | .closeStream | .remoteCancel | .settle _ => none

/-- **Stop the source**, one step of it: a source at work is cancelled, one that is over is
forgotten.  `none`: it is cancelled already and has to be waited for.  With no source left,
`done` goes on. -/
def stopSource (r : Run) (done : Run → Run × List Act) : Option (Run × List Act) :=
  match r.source with
  | none => some (done r)
  | some (source, cancelled) =>
    if source.isOver then some ({ r with source := none }, [])
    else if cancelled then none
    else some ({ r with source := some (source, true) }, [])

/-- **One step of the source**: what it does, its signals apart, which are queued. -/
def hear (r : Run) (now : Nat) (news : Option News) : Option (Run × List Deed) := do
  let (source, cancelled) ← r.source
  let (source, deeds) ← source.poll now (cancelled || r.retired) news
  let signals := deeds.filterMap fun
    | .send s => some s
    | _ => none
  some ({ r with source := some (source, cancelled), inbox := r.inbox ++ signals }, deeds)

/-! ## 2. The run -/

/-- **Carry out one effect.** -/
def perform (settings : ConsoleSettings) (effect : Effect) (rest : List Effect)
    (outcome : Option Outcome) (r : Run) : Option (Run × List Act) :=
  let next (outcome : Option Outcome) (source : Option (Source × Bool)) (r : Run) : Run :=
    { r with stage := .executing rest outcome, source }
  match effect with
  | .remoteCancel => some (next outcome r.source r, [.remoteCancel r.tracker.task.id])
  | .settle o => r.stopSource fun r => (next (some o) none r, [])
  | effect =>
    r.stopSource fun r =>
      let source := sourceOf? settings r.tracker.task.id effect
      (next outcome (source.map (·, false)) r, [])

/-- **After the effects.**  A settled task lingers or is over; one that is not settled goes
on listening. -/
def afterEffects (settings : ConsoleSettings) (now : Nat) (outcome : Option Outcome)
    (r : Run) : Run :=
  match outcome with
  | none => { r with stage := .listening }
  | some o =>
    if o.triggersRefresh then { r with stage := .lingering (now + settings.refreshDelay) }
    else { r with stage := .ended }

/-- **One step of a run** at a moment.  `none`: it waits, or has ended.  Retirement comes
before a signal and before the refresh. -/
def step (settings : ConsoleSettings) (now : Nat) (r : Run) : Option (Run × List Act) :=
  match r.stage with
  | .executing (effect :: rest) outcome => r.perform settings effect rest outcome
  | .executing [] outcome => some (r.afterEffects settings now outcome, [])
  | .listening =>
    if r.retired then some ({ r with stage := .leaving }, [])
    else
      match r.inbox with
      | [] => none
      | signal :: inbox =>
        let (tracker, effects) := r.tracker.apply signal
        some ({ r with tracker, inbox, stage := .executing effects none }, [.show tracker.view])
  | .leaving => r.stopSource fun r => ({ r with stage := .ended }, [])
  | .lingering due =>
    if r.retired then some ({ r with stage := .ended }, [])
    else if due ≤ now then some ({ r with stage := .ended }, [.refresh r.tracker.task])
    else none
  | .ended => none

/-- A run that is over. -/
def isEnded (r : Run) : Bool :=
  r.stage = .ended

/-- When a run goes on by itself. -/
def deadline? (r : Run) : Option Nat :=
  match r.stage with
  | .lingering due => some due
  | _ => none

end Run

end TaskWatch
