/-
# Progress events on the wire

An event is a JSON record with a field `type` that names its kind; the other fields depend
on the kind (`layout`).  The stream carries one event per frame.

**What is accepted.**  `type` may stand anywhere in the object but only once; in the array
form it is the first item.  Every field may be left out.  Some fields have older names too.
A kind that is not known is accepted whatever its fields are, as an event without meaning.

**What is refused.**  A record in which any part is unreadable or which is nested too
deeply, even in a member that means nothing to the console; a known field that is given
twice or holds a value of the wrong kind.
-/
import TaskWatch.Event
import TaskWatch.Json.Reader
import TaskWatch.Json.Printer
import TaskWatch.Json.Record

namespace TaskWatch.Event

open Json (Field Layout Members)

/-! ## 1. Fields -/

namespace Fields

def type : Field := { name := "type" }
def message : Field := { name := "message" }
def total : Field := { name := "total" }
def toDownload : Field :=
  { name := "to_download", aliases := ["toDownload", "need_download"] }
def unchanged : Field := { name := "unchanged" }
def current : Field := { name := "current" }
def filename : Field := { name := "filename" }
def failureMessage : Field := { name := "message", aliases := ["error"] }
def downloaded : Field := { name := "downloaded" }
def skipped : Field := { name := "skipped" }
def failed : Field := { name := "failed" }
def needsRestart : Field :=
  { name := "needs_restart", aliases := ["needsRestart", "needRestart", "need_restart"] }

end Fields

/-- **The fields of each kind of event**, in order and without `type`. -/
def layout : String → Layout
  | "info" => [Fields.message]
  | "total" => [Fields.total, Fields.message]
  | "compare_result" => [Fields.toDownload, Fields.unchanged, Fields.message]
  | "progress" => [Fields.current, Fields.total, Fields.filename, Fields.message]
  | "success" | "skip" | "skip_hash" => [Fields.filename, Fields.message]
  | "failed" => [Fields.filename, Fields.failureMessage]
  | "complete" =>
    [Fields.downloaded, Fields.skipped, Fields.failed, Fields.needsRestart, Fields.message]
  | "container_restart_required" | "restart" | "done" | "error" => [Fields.message]
  | _ => []

/-! ## 2. Writing -/

/-- The members of an event behind `type`. -/
def members : Event → Members
  | info message | containerRestartRequired message | restart message | done message
  | error message => [("message", .string message)]
  | total n message => [("total", .natural n), ("message", .string message)]
  | compareResult toDownload unchanged message =>
    [("to_download", .natural toDownload), ("unchanged", .natural unchanged),
      ("message", .string message)]
  | progress current n filename message =>
    [("current", .natural current), ("total", .natural n),
      ("filename", .string filename), ("message", .string message)]
  | success filename message | skip filename message | skipHash filename message
  | failed filename message => [("filename", .string filename), ("message", .string message)]
  | complete downloaded skipped lost needsRestart message =>
    [("downloaded", .natural downloaded), ("skipped", .natural skipped),
      ("failed", .natural lost), ("needs_restart", .bool needsRestart),
      ("message", .string message)]
  | unknown => []

/-- **An event as JSON.** -/
def toJson (e : Event) : Json :=
  .object (("type", .string e.kind) :: e.members)

/-! ## 3. Reading -/

/-- **The event of a kind with given members.** -/
def ofMembers? (kind : String) (ms : Members) : Option Event :=
  match kind with
  | "info" => do return .info (← Fields.message.text? ms)
  | "total" => do return .total (← Fields.total.count? ms) (← Fields.message.text? ms)
  | "compare_result" => do
    return .compareResult (← Fields.toDownload.count? ms) (← Fields.unchanged.count? ms) (← Fields.message.text? ms)
  | "progress" => do
    return .progress (← Fields.current.count? ms) (← Fields.total.count? ms) (← Fields.filename.text? ms)
      (← Fields.message.text? ms)
  | "success" => do return .success (← Fields.filename.text? ms) (← Fields.message.text? ms)
  | "skip" => do return .skip (← Fields.filename.text? ms) (← Fields.message.text? ms)
  | "skip_hash" => do return .skipHash (← Fields.filename.text? ms) (← Fields.message.text? ms)
  | "failed" => do return .failed (← Fields.filename.text? ms) (← Fields.failureMessage.text? ms)
  | "complete" => do
    return .complete (← Fields.downloaded.count? ms) (← Fields.skipped.count? ms) (← Fields.failed.count? ms)
      (← Fields.needsRestart.flag? ms) (← Fields.message.text? ms)
  | "container_restart_required" => do return .containerRestartRequired (← Fields.message.text? ms)
  | "restart" => do return .restart (← Fields.message.text? ms)
  | "done" => do return .done (← Fields.message.text? ms)
  | "error" => do return .error (← Fields.message.text? ms)
  | _ => some .unknown

/-- How deeply the parts of an event may be nested, the event itself included. -/
def maxDepth : Nat := 127

/-- The kind of an event and its members, in either form. -/
def split? : Json → Option (String × Members)
  | .object ms => do
    let kind ← Fields.type.require? ms Json.string?
    some (kind, ms.filter fun m => !Fields.type.accepts m.1)
  | .array (j :: js) => do
    let kind ← j.string?
    let ms ← (layout kind).members? (.array js)
    some (kind, ms)
  | _ => none

/-- **The event that a JSON value stands for.** -/
def ofJson? (j : Json) : Option Event :=
  if j.isReadable && j.depth ≤ maxDepth then do
    let (kind, ms) ← split? j
    ofMembers? kind ms
  else none

/-- **The event that a text stands for.** -/
def decode? (text : String) : Option Event := do
  let j ← Json.read? text
  ofJson? j

/-- The compact text of an event. -/
def encode (e : Event) : String :=
  e.toJson.write

end TaskWatch.Event
