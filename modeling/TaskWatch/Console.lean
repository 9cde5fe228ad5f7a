/-
# The console

The console tracks at most one task.  Clients call its operations, any number of them at the
same time: start a task, install a package, cancel, clear.  A lock makes the operations that
change which task is tracked take turns.

**How an operation goes.**  `start` and `install` first ask the server; if it refuses,
nothing has happened.  Then they take the lock, retire the run that is tracked, wait for its
end, and track the new task.  `clear` does the same without a new task, and wipes the
picture.  `cancel` takes the lock, sends the tracked run a signal, and waits for its end; how
the task ended tells whether it was this signal that ended it.  `delete` looks at the picture
first: there must be a task, and it must be settled.

**One step at a time.**  `Console.step` is one step of anything: of a call, of a run, of a
run's source, or of the clock.  Whatever is not a step itself can happen between two steps,
so a sequence of actions is one interleaving of all that goes on.  What a step does outside
of the console is its list of notes.
-/
import TaskWatch.Run
import TaskWatch.Launch

namespace TaskWatch

/-! ## 1. Operations -/

/-- **What a client can call.** -/
inductive Operation where
  | start (params : Params)
  | install (package : Package)
  | cancel
  | clear
  /-- Clear a task that is settled. -/
  | delete
  /-- Wait until nothing is going on. -/
  | awaitSettled
  /-- Wait until the run that is tracked has ended. -/
  | awaitFinished
  deriving Repr, Inhabited

/-- **How a call ends.** -/
inductive Reply where
  | started (taskId : String)
  | installed (receipt : InstallReceipt)
  | cancelled
  | cleared
  | settled (view : View)
  | finished
  | refused (e : TaskError)
  deriving Repr, DecidableEq, Inhabited

/-- **What a call does under the lock.** -/
inductive Plan where
  /-- Track the task that the server has started. -/
  | follow (taskId : String)
  /-- Track what is left of an installation. -/
  | followInstall (receipt : InstallReceipt)
  /-- Track nothing. -/
  | wipe
  /-- Send the tracked run a cancellation, and judge how it ended. -/
  | cancel
  /-- Find out which run is tracked, and wait for its end without the lock. -/
  | attend
  deriving Repr, DecidableEq, Inhabited

/-- **Where a call stands.** -/
inductive CallStage where
  | fresh
  /-- The server has been asked. -/
  | asking
  /-- In line for the lock, or holding it. -/
  | inLine (plan : Plan)
  /-- Holding the lock, and waiting for a run to end. -/
  | joining (run : Nat) (plan : Plan)
  /-- Without the lock, waiting for a run to end. -/
  | attending (run : Nat)
  | done (reply : Reply)
  deriving Repr, DecidableEq, Inhabited

/-- **A call.** -/
structure Call where
  operation : Operation
  stage : CallStage := .fresh
  deriving Repr, Inhabited

/-- The server's answer to a call. -/
inductive CallNews where
  | launched (result : Except TaskError String)
  | installed (result : Except TaskError InstallReceipt)
  deriving Repr

/-! ## 2. The console -/

/-- **What the wall clock shows**: the time of day, and the milliseconds of its era. -/
structure WallClock where
  stamp : Timestamp
  millis : String
  deriving Repr, DecidableEq, Inhabited

/-- **The console.**  Runs and calls are never forgotten; they are known by their places. -/
structure Console where
  settings : ConsoleSettings
  wall : WallClock
  now : Nat := 0
  view : View := .empty
  /-- How often the picture was replaced. -/
  revision : Nat := 0
  runs : List Run := []
  /-- The run that is tracked. -/
  active : Option Nat := none
  /-- The calls in line for the lock; the first one holds it. -/
  lock : List Nat := []
  calls : List Call := []
  deriving Repr

/-- **What can happen next.** -/
inductive Action where
  /-- A client calls. -/
  | invoke (op : Operation)
  /-- A call takes a step, perhaps with the server's answer. -/
  | call (i : Nat) (news : Option CallNews)
  /-- A run takes a step. -/
  | run (r : Nat)
  /-- The source of a run takes a step, perhaps with news. -/
  | source (r : Nat) (news : Option News)
  /-- Time passes. -/
  | elapse (ms : Nat)
  deriving Repr

/-- **What a step does outside of the console.** -/
inductive Note where
  /-- The server is asked to start a task. -/
  | launch (call : Nat) (params : Params)
  /-- The server is given a package. -/
  | install (call : Nat) (package : Package)
  /-- A run's source asks the server. -/
  | ask (run : Nat) (q : Query)
  /-- A run's source asks its stream for the next delivery. -/
  | await (run : Nat)
  /-- The server is told to stop a task. -/
  | remoteCancel (run : Nat) (taskId : String)
  /-- The pages are told to refresh. -/
  | refresh (run : Nat) (task : Task)
  deriving Repr

namespace Console

/-- A console that tracks nothing. -/
def new (settings : ConsoleSettings) (wall : WallClock) : Console :=
  { settings, wall }

/-! ## 3. Pictures, runs and the lock -/

/-- Replace the picture. -/
def publish (c : Console) (v : View) : Console :=
  { c with view := v, revision := c.revision + 1 }

/-- Replace a run. -/
def setRun (c : Console) (r : Nat) (run : Run) : Console :=
  { c with runs := c.runs.set r run }

/-- Move a call on. -/
def setStage (c : Console) (i : Nat) (stage : CallStage) : Console :=
  { c with calls := c.calls.modify i fun call => { call with stage } }

/-- Whether a run has ended. -/
def hasEnded (c : Console) (r : Nat) : Bool :=
  c.runs[r]?.all Run.isEnded

/-- **Track a new task**: its run is the last one, and its first picture is shown. -/
def track (c : Console) (tracker : Tracker) : Console :=
  let (run, view) := Run.start tracker
  { c with runs := c.runs ++ [run], active := some c.runs.length }.publish view

/-- **Retire the run that is tracked.**  No run is tracked any more. -/
def retire (c : Console) (r : Nat) : Console :=
  { c with
    runs := c.runs.modify r fun run => { run with retired := true }
    active := none }

/-- Leave the lock, with a reply. -/
def finish (c : Console) (i : Nat) (reply : Reply) : Console :=
  { c with lock := c.lock.filter (· ≠ i) }.setStage i (.done reply)

/-- Get in line for the lock. -/
def enqueue (c : Console) (i : Nat) (plan : Plan) : Console :=
  { c with lock := c.lock ++ [i] }.setStage i (.inLine plan)

/-! ## 4. Steps of a call -/

/-- **The last step of a call under the lock**, when no earlier run is in the way. -/
def carryOut (c : Console) (i : Nat) : Plan → Console
  | .follow taskId =>
    (c.track (.streaming (.new taskId c.wall.stamp) c.settings.maxReattach)).finish i
      (.started taskId)
  | .followInstall receipt =>
    let task := Task.new ("install-" ++ c.wall.millis) c.wall.stamp
    (c.track (.ofInstall task receipt)).finish i (.installed receipt)
  | .wipe => (c.publish .empty).finish i .cleared
  | .cancel =>
    match c.view.notice with
    | some .cancelled | some .dismissed => c.finish i .cancelled
    | _ => c.finish i (.refused .noActiveTask)
  | .attend => c.finish i .finished

/-- **The first step of a call under the lock.** -/
def takeUp (c : Console) (i : Nat) (plan : Plan) : Console :=
  match plan, c.active with
  | .attend, some r => { c with lock := c.lock.filter (· ≠ i) }.setStage i (.attending r)
  | .cancel, none => c.finish i (.refused .noActiveTask)
  | .cancel, some r =>
    if c.view.isSettled || c.hasEnded r then c.finish i (.refused .noActiveTask)
    else
      { c with
        runs := c.runs.modify r fun run => { run with inbox := run.inbox ++ [Signal.cancel] }
        active := none }.setStage i (.joining r .cancel)
  | plan, some r => (c.retire r).setStage i (.joining r plan)
  | plan, none => c.carryOut i plan

/-- **The first step of a call.** -/
def begin (c : Console) (i : Nat) : Operation → Console × List Note
  | .start params =>
    match params.prepare with
    | .error e => (c.setStage i (.done (.refused e)), [])
    | .ok params => (c.setStage i .asking, [.launch i params])
  | .install package => (c.setStage i .asking, [.install i package])
  | .cancel => (c.enqueue i .cancel, [])
  | .clear => (c.enqueue i .wipe, [])
  | .delete =>
    if c.view.task.isNone then (c.setStage i (.done (.refused .noActiveTask)), [])
    else if !c.view.isSettled then (c.setStage i (.done (.refused .taskInProgress)), [])
    else (c.enqueue i .wipe, [])
  | .awaitSettled => (c.setStage i .asking, [])
  | .awaitFinished => (c.enqueue i .attend, [])

/-- The server's answer to a call: on with it, or the end. -/
def answered (c : Console) (i : Nat) : CallNews → Console
  | .launched (.ok taskId) => c.enqueue i (.follow taskId)
  | .installed (.ok receipt) => c.enqueue i (.followInstall receipt)
  | .launched (.error e) | .installed (.error e) => c.setStage i (.done (.refused e))

/-- **One step of a call.**  `none`: it waits, or is done. -/
def stepCall (c : Console) (i : Nat) (news : Option CallNews) :
    Option (Console × List Note) := do
  let call ← c.calls[i]?
  match call.stage, call.operation, news with
  | .fresh, op, _ => some (c.begin i op)
  | .asking, .awaitSettled, _ =>
    if c.view.isSettled then some (c.setStage i (.done (.settled c.view)), []) else none
  | .asking, .start _, some (.launched result) => some (c.answered i (.launched result), [])
  | .asking, .install _, some (.installed result) => some (c.answered i (.installed result), [])
  | .asking, _, _ => none
  | .inLine plan, _, _ => if c.lock.head? = some i then some (c.takeUp i plan, []) else none
  | .joining r plan, _, _ => if c.hasEnded r then some (c.carryOut i plan, []) else none
  | .attending r, _, _ =>
    if c.hasEnded r then some (c.setStage i (.done .finished), []) else none
  | .done _, _, _ => none

/-! ## 5. Steps of a run -/

/-- What an act of a run does to the console, and its note. -/
def act (c : Console) (r : Nat) : Run.Act → Console × List Note
  | .show view => (c.publish view, [])
  | .remoteCancel taskId => (c, [.remoteCancel r taskId])
  | .refresh task => (c, [.refresh r task])

/-- What the acts of a run do, one after another. -/
def acts (c : Console) (r : Nat) : List Run.Act → Console × List Note
  | [] => (c, [])
  | a :: rest =>
    let (c, notes) := c.act r a
    let (c, more) := c.acts r rest
    (c, notes ++ more)

/-- **One step of a run.** -/
def stepRun (c : Console) (r : Nat) : Option (Console × List Note) := do
  let run ← c.runs[r]?
  let (run, as) ← run.step c.settings c.now
  some ((c.setRun r run).acts r as)

/-- The note of a source's deed.  A signal is no note: it is in the run's queue. -/
def noteOf? (r : Nat) : Deed → Option Note
  | .ask q => some (.ask r q)
  | .await => some (.await r)
  | .send _ => none

/-- **One step of a run's source.** -/
def stepSource (c : Console) (r : Nat) (news : Option News) :
    Option (Console × List Note) := do
  let run ← c.runs[r]?
  let (run, deeds) ← run.hear c.now news
  some (c.setRun r run, deeds.filterMap (noteOf? r))

/-! ## 6. The clock -/

/-- **Nothing is left to do at this moment**, unless news come or a client calls. -/
def isQuiet (c : Console) : Bool :=
  (List.range c.calls.length).all (fun i => (c.stepCall i none).isNone) &&
    (List.range c.runs.length).all fun r =>
      (c.stepRun r).isNone && (c.stepSource r none).isNone

/-- The moments at which something goes on by itself. -/
def deadlines (c : Console) : List Nat :=
  c.runs.flatMap fun run =>
    run.deadline?.toList ++ (run.source.bind fun (source, _) => source.deadline?).toList

/-- **Whether so much time may pass.**  Everything is prompt: the clock waits until nothing is
left to do, and it stops at every deadline. -/
def mayElapse (c : Console) (ms : Nat) : Bool :=
  c.isQuiet && c.deadlines.all (c.now + ms ≤ ·)

/-! ## 7. Steps -/

/-- **One step of anything.**  `none`: it cannot happen now. -/
def step (c : Console) : Action → Option (Console × List Note)
  | .invoke op => some ({ c with calls := c.calls ++ [{ operation := op }] }, [])
  | .call i news => c.stepCall i news
  | .run r => c.stepRun r
  | .source r news => c.stepSource r news
  | .elapse ms => if c.mayElapse ms then some ({ c with now := c.now + ms }, []) else none

/-- **A sequence of steps**, and all their notes.  `none`: one of them cannot happen. -/
def steps (c : Console) : List Action → Option (Console × List Note)
  | [] => some (c, [])
  | a :: rest => do
    let (c, notes) ← c.step a
    let (c, more) ← c.steps rest
    some (c, notes ++ more)

/-- **Reachable consoles**: those that some sequence of steps leads to. -/
def Reachable (settings : ConsoleSettings) (wall : WallClock) (c : Console) : Prop :=
  ∃ actions notes, (new settings wall).steps actions = some (c, notes)

end Console

end TaskWatch
