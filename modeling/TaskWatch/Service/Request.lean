/-
# What the server is asked

The console's requests to the server that runs the tasks, one function each: where the
request goes, what it carries, and how long its answer may take.  Nothing is sent here.

An uploaded package travels as a form with one part.  Quotes, backslashes and line ends in
the file's name get a backslash in front, so the name cannot end the header it stands in.
-/
import TaskWatch.Endpoint
import TaskWatch.Wire.Snapshot
import TaskWatch.Failure

namespace TaskWatch.Service

/-- The name under which the console sends its requests. -/
def userAgent : String := "danmu-task-console/0.1.0"

/-- **A request to the server.** -/
structure Request where
  method : String
  url : Url
  agent : String := userAgent
  accept : String := "*/*"
  cacheControl : Option String := none
  contentType : Option String := none
  body : List UInt8 := []
  /-- How long the whole answer may take, in milliseconds. -/
  timeout : Option Nat := none
  deriving Repr, DecidableEq

/-- Why an address cannot be asked. -/
def noAddress {α : Type} : Except Url.UrlError α → Except TransportError α
  | .ok a => .ok a
  | .error e => .error (.requestFailed e.message)

/-! ## 1. Forms -/

/-- A file's name as it stands between quotes. -/
def quotedName (name : String) : String :=
  String.ofList (name.toList.flatMap fun c =>
    if c = '\\' || c = '"' || c = '\r' || c = '\n' then ['\\', c] else [c])

/-- **The form that carries a package.** -/
def packageForm (boundary : String) (p : Package) : List UInt8 :=
  let head := s!"--{boundary}\r\nContent-Disposition: form-data; name=\"file\"; " ++
    s!"filename=\"{quotedName p.fileName}\"\r\n\r\n"
  Text.Utf8.encode head ++ p.bytes ++ Text.Utf8.encode s!"\r\n--{boundary}--\r\n"

/-! ## 2. The requests -/

/-- Start a task. -/
def launch (e : Endpoint) (s : ServerSettings) (p : Params) :
    Except TransportError Request := do
  let url ← noAddress (e.service Endpoint.resourceTasks)
  return {
    method := "POST", url
    contentType := some "application/json"
    body := Text.Utf8.encode p.encode
    timeout := some s.requestTimeout }

/-- Stop a task. -/
def cancel (e : Endpoint) (s : ServerSettings) (taskId : String) :
    Except TransportError Request := do
  let url ← noAddress (e.task taskId .cancel)
  return { method := "POST", url, timeout := some s.requestTimeout }

/-- Attach to the events of a task.  The stream may stay open for as long as it likes. -/
def subscribe (e : Endpoint) (taskId : String) : Except TransportError Request := do
  let url ← noAddress (e.task taskId .progress)
  return { method := "GET", url, accept := "text/event-stream", cacheControl := some "no-cache" }

/-- Ask what the server remembers of a task. -/
def status (e : Endpoint) (s : ServerSettings) (taskId : String) :
    Except TransportError Request := do
  let url ← noAddress (e.task taskId .status)
  return { method := "GET", url, timeout := some s.requestTimeout }

/-- Check whether the server is up. -/
def check (e : Endpoint) (s : ServerSettings) : Request :=
  { method := "GET", url := e.liveness, timeout := some s.livenessTimeout }

/-- Upload a package. -/
def install (e : Endpoint) (s : ServerSettings) (boundary : String) (p : Package) :
    Except TransportError Request := do
  let url ← noAddress (e.service Endpoint.uploadPackage)
  return {
    method := "POST", url
    contentType := some s!"multipart/form-data; boundary={boundary}"
    body := packageForm boundary p
    timeout := some s.requestTimeout }

end TaskWatch.Service
