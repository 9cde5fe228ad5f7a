/-
# Progress events

What the server says about a running task, one event at a time.  Four kinds are terminal:
they announce how the task ended.  All other kinds only report progress.  A kind that the
console does not know is `unknown` and means nothing.
-/

namespace TaskWatch

/-- **A progress event.** -/
inductive Event where
  | info (message : String)
  /-- How many files there are. -/
  | total (total : UInt64) (message : String)
  /-- What a comparison with the server's files gave. -/
  | compareResult (toDownload unchanged : UInt64) (message : String)
  | progress (current total : UInt64) (filename message : String)
  | success (filename message : String)
  | skip (filename message : String)
  /-- Skipped because the file's hash is the same. -/
  | skipHash (filename message : String)
  | failed (filename message : String)
  /-- The task is complete; these are its final numbers. -/
  | complete (downloaded skipped failed : UInt64) (needsRestart : Bool) (message : String)
  /-- A hint that a restart will follow.  Only a terminal event decides that. -/
  | containerRestartRequired (message : String)
  /-- The task is complete and the server is restarting. -/
  | restart (message : String)
  /-- The task is complete. -/
  | done (message : String)
  /-- The task failed. -/
  | error (message : String)
  | unknown
  deriving Repr, DecidableEq, Inhabited

namespace Event

/-- **Terminal events** announce the end of the task. -/
def isTerminal : Event → Bool
  | complete .. | error .. | restart .. | done .. => true
  | _ => false

/-- The name of an event's kind on the wire. -/
def kind : Event → String
  | info .. => "info"
  | total .. => "total"
  | compareResult .. => "compare_result"
  | progress .. => "progress"
  | success .. => "success"
  | skip .. => "skip"
  | skipHash .. => "skip_hash"
  | failed .. => "failed"
  | complete .. => "complete"
  | containerRestartRequired .. => "container_restart_required"
  | restart .. => "restart"
  | done .. => "done"
  | error .. => "error"
  | unknown => "unknown"

end Event

end TaskWatch
