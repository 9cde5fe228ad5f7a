/-
# What a tracker writes into the record

Three things happen to a task record while it is tracked: a message is pushed, progress is
observed, and a terminal event closes it.  This module says of each of them, for the record
as a whole, what is written and what stays.

* `push_eq`: a message changes the window and nothing else.
* `observe_keeps`: progress moves the counters and the messages and leaves the rest alone.
* `close`: the record after a terminal event, as a function of the record before it.
  `Event.outcome?` is the other half of a terminal event: the outcome it settles the task
  with, or none when the server has to restart first.

The status before a terminal event leaves no trace (`close_started`).  That is why it makes
no difference whether the tracker had already seen the task run.
-/
import TaskWatch.Tracker

namespace TaskWatch

namespace Task

/-! ## 1. Messages -/

/-- A window of messages after one more message. -/
def extend (messages : List String) (message : String) : List String :=
  if message.isEmpty then messages
  else (if messages.length ≥ capacity then messages.drop 1 else messages) ++ [message]

/-- **A message changes the window and nothing else.** -/
theorem push_eq (t : Task) (message : String) :
    t.push message = { t with messages := extend t.messages message } := by
  unfold push extend
  split <;> rfl

/-! ## 2. Progress -/

/-- **Progress leaves the rest of the record alone**: with the counters and the messages put
back, the record is the one before the event. -/
theorem observe_keeps (t : Task) (event : Event) :
    { t.observe event with
      current := t.current, total := t.total, percent := t.percent,
      messages := t.messages, tally := t.tally } = t := by
  cases event with
  | compareResult toDownload unchanged message =>
    by_cases h : toDownload > 0 <;> simp [observe, push_eq, recomputePercent, h]
  | progress current total filename message =>
    by_cases hm : message.isEmpty <;> by_cases hf : filename.isEmpty <;>
      simp [observe, push_eq, recomputePercent, hm, hf]
  | _ => simp [observe, push_eq, recomputePercent]

@[simp] theorem observe_status (t : Task) (event : Event) :
    (t.observe event).status = t.status := by
  simpa using congrArg Task.status (observe_keeps t event)

@[simp] theorem observe_needsRestart (t : Task) (event : Event) :
    (t.observe event).needsRestart = t.needsRestart := by
  simpa using congrArg Task.needsRestart (observe_keeps t event)

@[simp] theorem observe_confirmed (t : Task) (event : Event) :
    (t.observe event).confirmed = t.confirmed := by
  simpa using congrArg Task.confirmed (observe_keeps t event)

/-- The record of a task that is seen to run. -/
def started (t : Task) : Task :=
  { t with status := if t.status = .pending then .running else t.status }

/-! ## 3. The end -/

/-- The record of a completed task: all of it is done. -/
def completed (t : Task) : Task :=
  { t with
    status := .completed
    current := if t.total > 0 then t.total else t.current
    percent := 100 }

/-- **The record after a terminal event.**  Any other event closes nothing. -/
def close (t : Task) : Event → Task
  | .complete downloaded skipped failed needsRestart message =>
    (({ t with tally := ⟨downloaded, skipped, failed⟩, needsRestart }).push
      (orDefault message
        s!"完成: 下载 {downloaded} 个, 跳过 {skipped} 个, 失败 {failed} 个")).completed
  | .restart message =>
    (({ t with needsRestart := true }).push (orDefault message "服务正在重启")).completed
  | .done message => (t.push message).completed
  | .error message => ({ t with status := .failed }).push message
  | _ => t

/-- **The status before the end leaves no trace.** -/
theorem close_status_irrel (t : Task) {event : Event} (he : event.isTerminal) (s : Status) :
    ({ t with status := s }).close event = t.close event := by
  cases event <;> simp_all [Event.isTerminal, close, completed, push_eq]

theorem close_started (t : Task) {event : Event} (he : event.isTerminal) :
    t.started.close event = t.close event :=
  close_status_irrel t he _

end Task

/-- **The outcome of a terminal event.**  `none`: the server restarts before the task is
settled. -/
def Event.outcome? : Event → Option Outcome
  | .complete _ _ _ needsRestart _ => if needsRestart then none else some .completed
  | .done _ => some .completed
  | .error message => some (.failed message)
  | _ => none

end TaskWatch
