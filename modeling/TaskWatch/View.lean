/-
# What the user sees

A `View` is one picture of the console: the task record, the phase it is in, the state of
the link, the progress of a restart, and how it ended.  An `Outcome` is that end.

Two things follow from an outcome.  `triggersRefresh`: the pages that show the server's
data have to be read again.  `error?`: the user is shown an error.  Neither a cancelled nor
a completed task has one.
-/
import TaskWatch.Task
import TaskWatch.Failure

namespace TaskWatch

/-! ## 1. Outcomes -/

/-- **How the tracking of a task ended.** -/
inductive Outcome where
  | completed
  | failed (message : String)
  | cancelled
  /-- The server was seen to be back. -/
  | restartConfirmed
  /-- The server was not seen to be back; most likely the task succeeded. -/
  | restartTimeout
  /-- The link broke and the status stayed unknown. -/
  | refreshRequired
  | manualRestartRequired (message : String)
  /-- The user did not wait for the restart. -/
  | dismissed
  deriving Repr, DecidableEq, Inhabited

namespace Outcome

/-- **Outcomes after which the server's data are read again.** -/
def triggersRefresh : Outcome → Bool
  | completed | failed _ | restartConfirmed => true
  | _ => false

/-- **The error that an outcome shows**, if it shows one. -/
def error? : Outcome → Option TaskError
  | failed message => some (.taskFailure message)
  | restartTimeout => some .restartTimeout
  | refreshRequired => some .statusUnknown
  | _ => none

/-- The name of an outcome's kind on the wire. -/
def kind : Outcome → String
  | completed => "completed"
  | failed _ => "failed"
  | cancelled => "cancelled"
  | restartConfirmed => "restart_confirmed"
  | restartTimeout => "restart_timeout"
  | refreshRequired => "refresh_required"
  | manualRestartRequired _ => "manual_restart_required"
  | dismissed => "dismissed"

end Outcome

/-! ## 2. The parts of a view -/

/-- The two phases of waiting for a restart: the server has yet to go down, or to come
back. -/
inductive ProbePhase where
  | awaitingDown
  | awaitingUp
  deriving Repr, DecidableEq, Inhabited

def ProbePhase.name : ProbePhase → String
  | awaitingDown => "awaiting_down"
  | awaitingUp => "awaiting_up"

/-- **How far the wait for a restart has come.** -/
structure ProbeReport where
  phase : ProbePhase
  elapsedSeconds : Nat
  budgetSeconds : Nat
  percent : Nat
  deriving Repr, DecidableEq, Inhabited

/-- The state of the link, as it is shown. -/
structure LinkView where
  attached : Bool := false
  sawTerminal : Bool := false
  deriving Repr, DecidableEq, Inhabited

/-- **The phase of the console.** -/
inductive ViewPhase where
  /-- There is no task. -/
  | idle
  | streaming
  | reconciling
  | degraded
  | awaitingRestart
  | settled
  deriving Repr, DecidableEq, Inhabited

def ViewPhase.name : ViewPhase → String
  | idle => "idle"
  | streaming => "streaming"
  | reconciling => "reconciling"
  | degraded => "degraded"
  | awaitingRestart => "awaiting_restart"
  | settled => "settled"

/-! ## 3. The view -/

/-- **One picture of the console.** -/
structure View where
  task : Option Task := none
  phase : ViewPhase := .idle
  link : LinkView := {}
  probe : Option ProbeReport := none
  notice : Option Outcome := none
  error : Option String := none
  deriving Repr, DecidableEq, Inhabited

/-- The picture of a console without a task. -/
def View.empty : View := {}

/-- Nothing is going on: there is no task, or it is settled. -/
def View.isSettled (v : View) : Bool :=
  match v.phase with
  | .settled | .idle => true
  | _ => false

end TaskWatch
