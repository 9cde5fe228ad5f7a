/-
# What the server remembers, and what it answers

Besides the stream of events the server answers three kinds of questions.

* `Snapshot` is its memory of a task, which outlives a restart of the server.  A snapshot of
  a task that ended says the same as a terminal event (`terminalEvent?`).
* `InstallReceipt` is its answer to an uploaded package.
* `Params` and `Package` are what the console sends to start a task or to install.
-/
import TaskWatch.Task
import TaskWatch.Event

namespace TaskWatch

/-- **The server's memory of a task.** -/
structure Snapshot where
  /-- Whether the server knows the task at all. -/
  found : Bool := false
  status : Option Status := none
  needsRestart : Bool := false
  downloaded : UInt64 := 0
  skipped : UInt64 := 0
  failed : UInt64 := 0
  message : String := ""
  deriving Repr, DecidableEq, Inhabited

namespace Snapshot

/-- The server does not know the task. -/
def notFound : Snapshot := {}

/-- **The terminal event that says the same as a snapshot**, for a task that is known and
completed or failed.  A cancelled task has no such event. -/
def terminalEvent? (s : Snapshot) : Option Event :=
  if s.found then
    match s.status with
    | some .completed =>
      some (.complete s.downloaded s.skipped s.failed s.needsRestart s.message)
    | some .failed => some (.error s.message)
    | _ => none
  else none

end Snapshot

/-- **The server's answer to an installed package.** -/
structure InstallReceipt where
  message : String := ""
  /-- The package takes effect only after a restart. -/
  needRestart : Bool := false
  /-- The server restarts by itself. -/
  autoRestart : Bool := false
  deriving Repr, DecidableEq, Inhabited

/-- **What a resource update works on.** -/
structure Params where
  repoUrl : String
  fullReplace : Bool := false
  deriving Repr, DecidableEq, Inhabited

/-- A package to be installed. -/
structure Package where
  fileName : String
  bytes : List UInt8
  deriving Repr, DecidableEq, Inhabited

end TaskWatch
