/-
# The task record

One background task of the server, as the console knows it: its identity and status, how
far it has come, the messages it produced, and its result.

* **Counters are 64-bit words,** as on the wire.  `percent` is computed in exact arithmetic,
  so no counter is too large for it, and it never exceeds 100 (`percentOf_le`).
* **Messages are a window.**  The record keeps the newest `Task.capacity` messages that are
  not empty.  `push` adds one at the end and drops the oldest when the window is full.
-/

namespace TaskWatch

/-- **The status of a task.** -/
inductive Status where
  | pending
  | running
  | completed
  | failed
  | cancelled
  deriving Repr, DecidableEq, Inhabited

namespace Status

/-- A task in one of these has ended. -/
def isTerminal : Status → Bool
  | completed | failed | cancelled => true
  | pending | running => false

/-- The name of a status on the wire. -/
def name : Status → String
  | pending => "pending"
  | running => "running"
  | completed => "completed"
  | failed => "failed"
  | cancelled => "cancelled"

/-- The status with a given name. -/
def ofName? : String → Option Status
  | "pending" => some pending
  | "running" => some running
  | "completed" => some completed
  | "failed" => some failed
  | "cancelled" => some cancelled
  | _ => none

end Status

/-- **What a task did**, counted by file. -/
structure Tally where
  downloaded : UInt64 := 0
  skipped : UInt64 := 0
  failed : UInt64 := 0
  deriving Repr, DecidableEq, Inhabited

/-- A moment of the wall clock, as the text that is shown for it. -/
abbrev Timestamp := String

/-- **The record of a task.** -/
structure Task where
  id : String
  status : Status := .pending
  current : UInt64 := 0
  total : UInt64 := 0
  percent : Nat := 0
  messages : List String := []
  needsRestart : Bool := false
  /-- The restart was seen to be over. -/
  confirmed : Bool := false
  tally : Tally := {}
  startedAt : Timestamp := ""
  deriving Repr, DecidableEq, Inhabited

namespace Task

/-- A new task, pending and empty. -/
def new (id : String) (startedAt : Timestamp) : Task :=
  { id, startedAt }

/-! ## 1. Messages -/

/-- How many messages a record keeps. -/
def capacity : Nat := 500

/-- **The window.**  The last `capacity` entries of a list. -/
def window (ms : List String) : List String :=
  ms.drop (ms.length - capacity)

/-- **Push a message.**  An empty text is no message. -/
def push (t : Task) (message : String) : Task :=
  if message.isEmpty then t
  else
    let kept := if t.messages.length ≥ capacity then t.messages.drop 1 else t.messages
    { t with messages := kept ++ [message] }

/-- Push one message after another. -/
def pushAll (t : Task) (messages : List String) : Task :=
  messages.foldl push t

/-! ## 2. Progress -/

/-- **Progress in whole percent**, rounded down: how much of `total` is done, where more
than all of it counts as all of it and nothing to do counts as nothing done. -/
def percentOf (current total : UInt64) : Nat :=
  if total = 0 then 0 else min current.toNat total.toNat * 100 / total.toNat

theorem percentOf_le (current total : UInt64) : percentOf current total ≤ 100 := by
  unfold percentOf
  split
  · omega
  · have : min current.toNat total.toNat * 100 ≤ 100 * total.toNat := by omega
    exact Nat.div_le_of_le_mul (by omega)

/-- The record with its percentage in line with its counters. -/
def recomputePercent (t : Task) : Task :=
  { t with percent := percentOf t.current t.total }

end Task

end TaskWatch
