/-
# Following one task

A `Tracker` follows one task from its start to its outcome.  It does nothing by itself:
whatever happens outside reaches it as a `Signal`, and what has to be done outside it asks
for as a list of `Effect`s (`apply`).

**The phases.**  A task is followed through its stream of events (`streaming`).  When the
stream ends before a terminal event, the server is asked once for its memory of the task
(`reconciling`).  That answer decides: the task ended; it goes on, and the stream is
attached again, a limited number of times; or nothing is known, and a period of grace runs
(`degraded`).  A completed task whose server has to restart is followed until the server is
back (`awaitingRestart`).  Every path ends in `settled`.

**What keeps the record sound.**

* Only a terminal event, a snapshot that amounts to one, or a cancellation ends a task, and
  a record that has ended keeps its status.
* After a terminal event the link is `sawTerminal`: how the stream ends from then on, with
  an error or without, means nothing.
* A signal of a phase that is over is dropped: it changes nothing and asks for nothing.
-/
import TaskWatch.Snapshot
import TaskWatch.View
import TaskWatch.Text.Blank

namespace TaskWatch

/-! ## 1. Signals and effects -/

/-- **How a stream of events ended** before it brought a terminal event. -/
inductive StreamEnd where
  /-- The server closed it. -/
  | closed
  | failed (e : TransportError)
  /-- No event came for too long. -/
  | stalled
  deriving Repr, DecidableEq, Inhabited

/-- **How a wait for a restart ended**, and after how many milliseconds. -/
inductive ProbeOutcome where
  | ready (elapsed : Nat)
  | timeout (elapsed : Nat)
  | cancelled
  deriving Repr, DecidableEq, Inhabited

/-- **What a tracker hears.** -/
inductive Signal where
  | stream (event : Event)
  | streamEnded (how : StreamEnd)
  | fallback (answer : Except TransportError Snapshot)
  | graceElapsed
  | probe (report : ProbeReport)
  | probeResolved (outcome : ProbeOutcome)
  | cancel
  deriving Repr

/-- **What a tracker asks for.** -/
inductive Effect where
  /-- Attach to the stream of events. -/
  | subscribe
  /-- Leave the stream of events. -/
  | closeStream
  /-- Ask for the server's memory of the task. -/
  | queryFallback
  /-- Let the period of grace run. -/
  | startGrace
  /-- Watch the server restart. -/
  | startProbe
  /-- Tell the server to stop the task. -/
  | remoteCancel
  /-- The tracking is over. -/
  | settle (outcome : Outcome)
  deriving Repr, DecidableEq, Inhabited

/-! ## 2. The tracker -/

/-- Where the tracking stands. -/
inductive Phase where
  | streaming
  | reconciling
  | degraded
  | awaitingRestart
  | settled (outcome : Outcome)
  deriving Repr, DecidableEq, Inhabited

/-- **The link to the stream.** -/
inductive Link where
  | attached
  /-- A terminal event came through it. -/
  | sawTerminal
  /-- It ended before a terminal event. -/
  | lost
  | detached
  deriving Repr, DecidableEq, Inhabited

/-- **The tracking of one task.** -/
structure Tracker where
  task : Task
  phase : Phase
  link : Link := .detached
  probe : Option ProbeReport := none
  /-- How often the stream was attached again. -/
  reattached : Nat := 0
  maxReattach : Nat := 0
  probesStarted : Nat := 0
  fallbackQueries : Nat := 0
  deriving Repr, DecidableEq, Inhabited

/-- The second text stands in for an empty one. -/
def orDefault (message fallback : String) : String :=
  if message.isEmpty then fallback else message

namespace Tracker

/-- A tracker of a task that the server has just started. -/
def streaming (task : Task) (maxReattach : Nat) : Tracker :=
  { task, phase := .streaming, maxReattach }

/-- A tracker of a task that is complete and waits for the server's restart. -/
def awaitingRestart (task : Task) : Tracker :=
  { task := { task with status := .completed, needsRestart := true, percent := 100 }
    phase := .awaitingRestart }

/-- **A tracker of an installed package.**  The package is in place; what is left is a
restart by the server itself, by hand, or none. -/
def ofInstall (task : Task) (receipt : InstallReceipt) : Tracker :=
  let task := task.push receipt.message
  if receipt.needRestart && receipt.autoRestart then
    awaitingRestart task
  else
    let task := { task with status := .completed, percent := 100 }
    if receipt.needRestart then
      { task := { task with needsRestart := true }
        phase := .settled (.manualRestartRequired
          (orDefault receipt.message "安装完成, 请手动重启服务")) }
    else
      { task, phase := .settled .completed }

/-- The outcome, once there is one. -/
def outcome? (t : Tracker) : Option Outcome :=
  match t.phase with
  | .settled outcome => some outcome
  | _ => none

/-- Add a message to the record. -/
def say (t : Tracker) (message : String) : Tracker :=
  { t with task := t.task.push message }

/-- **Settle**: the tracking is over, with this outcome. -/
def settle (t : Tracker) (outcome : Outcome) : Tracker × List Effect :=
  ({ t with phase := .settled outcome }, [.settle outcome])

/-- **The first effects** of a new tracker. -/
def begin (t : Tracker) : Tracker × List Effect :=
  match t.phase with
  | .streaming => ({ t with link := .attached }, [.subscribe])
  | .awaitingRestart => ({ t with probesStarted := t.probesStarted + 1 }, [.startProbe])
  | .settled outcome => (t, [.settle outcome])
  | .reconciling | .degraded => (t, [])

end Tracker

/-! ## 3. Progress -/

/-- **What an event that is not terminal does to the record.**  It moves counters and adds a
message; it never touches the status.  A terminal event is none of its business. -/
def Task.observe (t : Task) : Event → Task
  | .info message => t.push message
  | .total total message => ({ t with total }).recomputePercent.push message
  | .compareResult toDownload unchanged message =>
    let t := if toDownload > 0 then ({ t with total := toDownload }).recomputePercent else t
    t.push (orDefault message s!"需要下载 {toDownload} 个文件, {unchanged} 个无变化")
  | .progress current total filename message =>
    let t := { t with current, total := if total > 0 then total else t.total }
    let t := t.recomputePercent
    if !message.isEmpty then t.push message
    else if !filename.isEmpty then t.push s!"正在处理: {filename}"
    else t
  | .success filename message =>
    ({ t with tally := { t.tally with downloaded := t.tally.downloaded + 1 } }).push
      (orDefault message s!"✅ {filename}")
  | .skip filename message | .skipHash filename message =>
    ({ t with tally := { t.tally with skipped := t.tally.skipped + 1 } }).push
      (orDefault message s!"⏭️ {filename}")
  | .failed filename message =>
    ({ t with tally := { t.tally with failed := t.tally.failed + 1 } }).push
      (Text.trim s!"❌ {filename} {message}")
  | .containerRestartRequired message => t.push (orDefault message "完成后可能需要重启服务")
  | .complete .. | .restart .. | .done .. | .error .. | .unknown => t

namespace Tracker

/-! ## 4. The end of a task -/

/-- **A completed task.**  All of it is done.  It is settled, unless the server has to
restart first. -/
def finishCompleted (t : Tracker) : Tracker × List Effect :=
  let task := { t.task with
    status := .completed
    current := if t.task.total > 0 then t.task.total else t.task.current
    percent := 100 }
  let t := { t with task }
  if task.needsRestart then
    ({ t with phase := .awaitingRestart, probesStarted := t.probesStarted + 1 }, [.startProbe])
  else
    t.settle .completed

/-- **A terminal event**, whether it came through the stream or amounts to a snapshot.  A
record that has ended stays as it is. -/
def conclude (t : Tracker) (event : Event) : Tracker × List Effect :=
  if t.task.status.isTerminal then (t, [])
  else
    match event with
    | .complete downloaded skipped failed needsRestart message =>
      let task := { t.task with tally := ⟨downloaded, skipped, failed⟩, needsRestart }
      let task := task.push
        (orDefault message s!"完成: 下载 {downloaded} 个, 跳过 {skipped} 个, 失败 {failed} 个")
      finishCompleted { t with task }
    | .restart message =>
      let task := { t.task with needsRestart := true }
      finishCompleted { t with task := task.push (orDefault message "服务正在重启") }
    | .done message => finishCompleted (t.say message)
    | .error message =>
      let task := { t.task with status := .failed }
      settle { t with task := task.push message } (.failed message)
    | _ => (t, [])

/-! ## 5. Signals -/

/-- The stream is open and is what the tracker listens to. -/
def isListening (t : Tracker) : Bool :=
  t.link = .attached && t.phase = .streaming

/-- **An event of the stream.**  The first one shows that the task runs.  A terminal one
ends the stream, as far as the tracker is concerned, and the task. -/
def onEvent (t : Tracker) (event : Event) : Tracker × List Effect :=
  if t.isListening then
    let status := if t.task.status = .pending then .running else t.task.status
    let t := { t with task := { t.task with status } }
    if event.isTerminal then
      let (t, effects) := conclude { t with link := .sawTerminal } event
      (t, .closeStream :: effects)
    else
      ({ t with task := t.task.observe event }, [])
  else (t, [])

/-- **The end of the stream** before a terminal event: the server is asked. -/
def onStreamEnded (t : Tracker) : Tracker × List Effect :=
  if t.isListening && !t.task.status.isTerminal then
    ({ t with
        link := .lost
        phase := .reconciling
        fallbackQueries := t.fallbackQueries + 1 },
      [.queryFallback])
  else (t, [])

/-- **Nothing is known**: the link is given up for now, and grace runs. -/
def degrade (t : Tracker) : Tracker × List Effect :=
  let t := { t with phase := .degraded, link := .detached }
  (t.say "与服务端的连接中断, 正在等待服务恢复...", [.startGrace])

/-- **The server's memory of the task**, or the failure to get it. -/
def onFallback (t : Tracker) (answer : Except TransportError Snapshot) :
    Tracker × List Effect :=
  if t.phase = .reconciling then
    match answer with
    | .error _ => t.degrade
    | .ok snapshot =>
      match snapshot.terminalEvent? with
      | some event => conclude { t with link := .detached } event
      | none =>
        match snapshot.status with
        | some .cancelled =>
          if snapshot.found then
            let task := { t.task with status := .cancelled }
            settle { t with link := .detached, task := task.push snapshot.message } .cancelled
          else t.degrade
        | some .pending | some .running =>
          if snapshot.found && t.reattached < t.maxReattach then
            ({ t with
                reattached := t.reattached + 1
                phase := .streaming
                link := .attached },
              [.subscribe])
          else t.degrade
        | _ => t.degrade
  else (t, [])

/-- **The end of the grace.** -/
def onGraceElapsed (t : Tracker) : Tracker × List Effect :=
  if t.phase = .degraded then
    (t.say "无法确认任务状态, 服务可能仍在重启, 请稍后手动刷新").settle .refreshRequired
  else (t, [])

/-- **A report of the watch over the restart.** -/
def onProbe (t : Tracker) (report : ProbeReport) : Tracker × List Effect :=
  if t.phase = .awaitingRestart then ({ t with probe := some report }, []) else (t, [])

/-- **The end of the watch over the restart.** -/
def onProbeResolved (t : Tracker) (outcome : ProbeOutcome) : Tracker × List Effect :=
  if t.phase = .awaitingRestart then
    match outcome with
    | .ready _ =>
      let task := { t.task with confirmed := true }
      settle { t with task := task.push "服务已重启完成" } .restartConfirmed
    | .timeout _ => (t.say "等待服务重启超时, 操作可能已成功, 请手动刷新").settle .restartTimeout
    | .cancelled => (t, [])
  else (t, [])

/-- **The user gives up.**  A task in progress is cancelled at once, and the server is told
so.  A completed task that waits for a restart is only dismissed. -/
def onCancel (t : Tracker) : Tracker × List Effect :=
  match t.phase with
  | .settled _ => (t, [])
  | .awaitingRestart => t.settle .dismissed
  | .streaming | .reconciling | .degraded =>
    if t.task.status.isTerminal then (t, [])
    else
      let task := { t.task with status := .cancelled }
      let (t, effects) :=
        settle { t with link := .detached, task := task.push "任务已取消" } .cancelled
      (t, .remoteCancel :: effects)

/-- **One signal**: the tracker after it, and what it asks for. -/
def apply (t : Tracker) : Signal → Tracker × List Effect
  | .stream event => t.onEvent event
  | .streamEnded _ => t.onStreamEnded
  | .fallback answer => t.onFallback answer
  | .graceElapsed => t.onGraceElapsed
  | .probe report => t.onProbe report
  | .probeResolved outcome => t.onProbeResolved outcome
  | .cancel => t.onCancel

/-- **Signals one after another**, and all that was asked for. -/
def run (t : Tracker) (signals : List Signal) : Tracker × List Effect :=
  signals.foldl
    (fun (t, effects) signal =>
      let (t', more) := t.apply signal
      (t', effects ++ more))
    (t, [])

/-! ## 6. The picture -/

/-- The phase as it is shown. -/
def phaseView : Phase → ViewPhase
  | .streaming => .streaming
  | .reconciling => .reconciling
  | .degraded => .degraded
  | .awaitingRestart => .awaitingRestart
  | .settled _ => .settled

/-- **The picture of a tracker.** -/
def view (t : Tracker) : View where
  task := some t.task
  phase := phaseView t.phase
  link := { attached := t.link = .attached, sawTerminal := t.link = .sawTerminal }
  probe := t.probe
  notice := t.outcome?
  error := t.outcome?.bind fun outcome => outcome.error?.map TaskError.message

end Tracker

end TaskWatch
