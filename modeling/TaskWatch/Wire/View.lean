/-
# Views on the wire

The console shows its view as JSON: in the answers of its routes and in the frames of its
feed.  Names are in camel case, the order of the members is fixed, and what is absent is
`null`.
-/
import TaskWatch.View
import TaskWatch.Wire.Snapshot

namespace TaskWatch

/-- A natural number as JSON. -/
def Json.ofNat (n : Nat) : Json :=
  .natural (UInt64.ofNat n)

/-- A value that may be absent. -/
def Json.ofOption {α : Type} (write : α → Json) : Option α → Json
  | some a => write a
  | none => .null

def Tally.toJson (t : Tally) : Json :=
  .object
    [("downloaded", .natural t.downloaded),
     ("skipped", .natural t.skipped),
     ("failed", .natural t.failed)]

/-- **A task record as JSON.** -/
def Task.toJson (t : Task) : Json :=
  .object
    [("id", .string t.id),
     ("status", t.status.toJson),
     ("current", .natural t.current),
     ("total", .natural t.total),
     ("percent", .ofNat t.percent),
     ("messages", .array (t.messages.map .string)),
     ("needsRestart", .bool t.needsRestart),
     ("confirmed", .bool t.confirmed),
     ("resultSummary", t.tally.toJson),
     ("startedAt", .string t.startedAt)]

/-- **An outcome as JSON**: its kind, and its message if it has one. -/
def Outcome.toJson (o : Outcome) : Json :=
  .object (("kind", .string o.kind) ::
    match o with
    | .failed message | .manualRestartRequired message => [("message", .string message)]
    | _ => [])

/-- A report of the watch over a restart as JSON. -/
def ProbeReport.toJson (r : ProbeReport) : Json :=
  .object
    [("phase", .string r.phase.name),
     ("elapsedSeconds", .ofNat r.elapsedSeconds),
     ("budgetSeconds", .ofNat r.budgetSeconds),
     ("percent", .ofNat r.percent)]

def LinkView.toJson (l : LinkView) : Json :=
  .object [("attached", .bool l.attached), ("sawTerminal", .bool l.sawTerminal)]

/-- **A view as JSON.** -/
def View.toJson (v : View) : Json :=
  .object
    [("task", .ofOption Task.toJson v.task),
     ("phase", .string v.phase.name),
     ("connection", v.link.toJson),
     ("probe", .ofOption ProbeReport.toJson v.probe),
     ("notice", .ofOption Outcome.toJson v.notice),
     ("error", .ofOption .string v.error)]

/-- The body of an error answer. -/
def TaskError.toJson (e : TaskError) : Json :=
  .object [("detail", .string e.message)]

end TaskWatch
