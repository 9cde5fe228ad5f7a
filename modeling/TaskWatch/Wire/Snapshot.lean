/-
# Snapshots, receipts and parameters on the wire

The three plain records.  Unlike an event, a plain record is read member by member, and a
member that means nothing to the console is skipped without a look at its value: it only
has to be in the grammar.  So it may be nested to any depth, and it may be unreadable.

A status is written as its name.  It may also be read as an object whose one member has that
name and the value `null`.
-/
import TaskWatch.Snapshot
import TaskWatch.Json.Reader
import TaskWatch.Json.Printer
import TaskWatch.Json.Record

namespace TaskWatch

open Json (Field Layout Members)

/-! ## 1. Statuses -/

/-- A status as JSON. -/
def Status.toJson (s : Status) : Json :=
  .string s.name

/-- **The status that a JSON value stands for.** -/
def Status.ofJson? : Json → Option Status
  | .string name => ofName? name
  | .object [(name, .null)] => ofName? name
  | _ => none

/-- A status that may be missing: `null` for none. -/
def Status.ofJsonOrNull? : Json → Option (Option Status)
  | .null => some none
  | j => (ofJson? j).map some

/-! ## 2. Snapshots -/

namespace Snapshot

namespace Fields

def found : Field := { name := "found" }
def status : Field := { name := "status" }
def needsRestart : Field :=
  { name := "needsRestart", aliases := ["needs_restart", "need_restart"] }
def downloaded : Field := { name := "downloaded" }
def skipped : Field := { name := "skipped" }
def failed : Field := { name := "failed" }
def message : Field := { name := "message" }

end Fields

/-- The fields of a snapshot, in order. -/
def layout : Layout :=
  [Fields.found, Fields.status, Fields.needsRestart, Fields.downloaded, Fields.skipped,
    Fields.failed, Fields.message]

/-- **A snapshot as JSON.** -/
def toJson (s : Snapshot) : Json :=
  .object
    [("found", .bool s.found),
     ("status", match s.status with | some status => status.toJson | none => .null),
     ("needsRestart", .bool s.needsRestart),
     ("downloaded", .natural s.downloaded),
     ("skipped", .natural s.skipped),
     ("failed", .natural s.failed),
     ("message", .string s.message)]

/-- **The snapshot that a JSON value stands for.**  It has to say whether the task is
known. -/
def ofJson? (j : Json) : Option Snapshot := do
  let ms ← layout.members? j
  return {
    found := ← Fields.found.require? ms Json.bool?
    status := ← Fields.status.read? ms Status.ofJsonOrNull? none
    needsRestart := ← Fields.needsRestart.flag? ms
    downloaded := ← Fields.downloaded.count? ms
    skipped := ← Fields.skipped.count? ms
    failed := ← Fields.failed.count? ms
    message := ← Fields.message.text? ms }

def decode? (text : String) : Option Snapshot := do
  let j ← Json.read? text
  ofJson? j

def encode (s : Snapshot) : String :=
  s.toJson.write

end Snapshot

/-! ## 3. Receipts -/

namespace InstallReceipt

namespace Fields

def message : Field := { name := "message" }
def needRestart : Field := { name := "needRestart", aliases := ["need_restart"] }
def autoRestart : Field := { name := "autoRestart", aliases := ["auto_restart"] }

end Fields

/-- The fields of a receipt, in order. -/
def layout : Layout := [Fields.message, Fields.needRestart, Fields.autoRestart]

/-- **A receipt as JSON.** -/
def toJson (r : InstallReceipt) : Json :=
  .object
    [("message", .string r.message),
     ("needRestart", .bool r.needRestart),
     ("autoRestart", .bool r.autoRestart)]

/-- **The receipt that a JSON value stands for.** -/
def ofJson? (j : Json) : Option InstallReceipt := do
  let ms ← layout.members? j
  return {
    message := ← Fields.message.text? ms
    needRestart := ← Fields.needRestart.flag? ms
    autoRestart := ← Fields.autoRestart.flag? ms }

def decode? (text : String) : Option InstallReceipt := do
  let j ← Json.read? text
  ofJson? j

def encode (r : InstallReceipt) : String :=
  r.toJson.write

end InstallReceipt

/-! ## 4. Parameters -/

namespace Params

namespace Fields

def repoUrl : Field := { name := "repoUrl", aliases := ["repo_url"] }
def fullReplace : Field := { name := "fullReplace", aliases := ["full_replace"] }

end Fields

/-- The fields of parameters, in order. -/
def layout : Layout := [Fields.repoUrl, Fields.fullReplace]

/-- **Parameters as JSON.** -/
def toJson (p : Params) : Json :=
  .object [("repoUrl", .string p.repoUrl), ("fullReplace", .bool p.fullReplace)]

/-- **The parameters that a JSON value stands for.**  They have to name a repository. -/
def ofJson? (j : Json) : Option Params := do
  let ms ← layout.members? j
  return {
    repoUrl := ← Fields.repoUrl.require? ms Json.string?
    fullReplace := ← Fields.fullReplace.flag? ms }

def decode? (text : String) : Option Params := do
  let j ← Json.read? text
  ofJson? j

def encode (p : Params) : String :=
  p.toJson.write

end Params

end TaskWatch
