/-
# What the server's answers mean

An `Exchange` is what came of a request: an answer with a status and a body, or none.  Each
service reads it in its own way.

* Only the 2xx mean success.  A snapshot that is not found is an answer too: the server does
  not know the task.
* 400 and 422 from the two services that judge what they are given mean that the parameters
  are wrong.  The body says why, in its `detail`; failing that, the body itself is the
  reason, and failing that, the status is.  So there always is a reason.
* The body of a success has to be what was asked for.

A body that is asked for is read as JSON byte by byte, a body that gives a reason as text.  The
text is written as the mark at its start says, and else in UTF-8: an `Answer` does not have the
header in which a server can name another charset.
-/
import TaskWatch.Wire.Snapshot
import TaskWatch.Sse.EventStream
import TaskWatch.Json.Bytes
import TaskWatch.Text.Blank
import TaskWatch.Text.Marked

namespace TaskWatch.Service

/-! ## 1. Exchanges -/

/-- **An answer of the server.** -/
structure Answer where
  status : Nat
  body : List UInt8 := []
  /-- The whole body arrived. -/
  isWhole : Bool := true
  deriving Repr, DecidableEq, Inhabited

/-- **What came of a request.** -/
inductive Exchange where
  | answered (a : Answer)
  | timedOut
  /-- The request could not be made, or broke off before the answer. -/
  | failed (detail : String)
  deriving Repr, DecidableEq, Inhabited

/-- Whether a status means success. -/
def isSuccess (status : Nat) : Bool :=
  200 ≤ status && status < 300

/-- **The answer of an exchange**, whatever its status. -/
def Exchange.answer : Exchange → Except TransportError Answer
  | answered a => .ok a
  | timedOut => .error .timeout
  | failed detail => .error (.requestFailed detail)

/-- **The answer of an exchange that succeeded.** -/
def Exchange.success (x : Exchange) : Except TransportError Answer := do
  let a ← x.answer
  if isSuccess a.status then return a else throw (.badStatus a.status)

/-- What a body is read as; a part of a body is read as nothing. -/
def Answer.read {α : Type} (ofJson? : Json → Option α) (a : Answer) :
    Except TransportError α :=
  match a.isWhole, (Json.readBytes? a.body).bind ofJson? with
  | true, some value => .ok value
  | true, none => .error (.decode "the body is not what was asked for")
  | false, _ => .error (.decode "the body broke off")

/-! ## 2. The reason of a refusal -/

/-- The field of a refusal's body that says why. -/
def detailField : Json.Field := { name := "detail" }

/-- How deep a body may be nested: it is refused from this depth on. -/
def depthLimit : Nat := 128

/-- The detail in a body, or `null`. -/
def detailOf (text : String) : Json :=
  let found := do
    let j ← Json.read? text
    let members ← Json.Layout.members? [detailField] j
    let detail ← (detailField.lookup? members)
    let detail := detail.getD .null
    if detail.isReadable && detail.depth + 1 < depthLimit then some detail else none
  found.getD .null

/-- A member put among others: it takes the place of one with its name, and names stay in
order. -/
def insertMember (name : String) (j : Json) : List (String × Json) → List (String × Json)
  | [] => [(name, j)]
  | (other, k) :: rest =>
    if name = other then (name, j) :: rest
    else if name < other then (name, j) :: (other, k) :: rest
    else (other, k) :: insertMember name j rest

mutual

/-- **A value in order**: in every object each name stands once, with the last of its
values, and the names are in increasing order. -/
def inOrder : Json → Json
  | .array items => .array (itemsInOrder items)
  | .object members => .object (membersInOrder members)
  | j => j

def itemsInOrder : List Json → List Json
  | [] => []
  | j :: js => inOrder j :: itemsInOrder js

/-- Members in order: an earlier one gives way to a later one of its name. -/
def membersInOrder : List (String × Json) → List (String × Json)
  | [] => []
  | (name, j) :: ms =>
    let rest := membersInOrder ms
    if rest.any (·.1 = name) then rest else insertMember name (inOrder j) rest

end

/-- **The reason that a refusal gives.** -/
def reason (status : Nat) (text : String) : String :=
  match detailOf text with
  | .null =>
    let trimmed := Text.trim text
    if trimmed.isEmpty then s!"HTTP {status}" else trimmed
  | .string s => if s.isEmpty then (Json.string s).write else s
  | detail => (inOrder detail).write

/-- The text of a body; a part of a body counts as none. -/
def Answer.text (a : Answer) : String :=
  if a.isWhole then Text.decodeMarked a.body else ""

/-- **The answer of a service that judges what it is given.** -/
def Exchange.judged {α : Type} (ofJson? : Json → Option α) (x : Exchange) :
    Except TaskError α :=
  match x.answer with
  | .error e => .error (.transport e)
  | .ok a =>
    if a.status = 400 || a.status = 422 then .error (.validation (reason a.status a.text))
    else if isSuccess a.status then
      match a.read ofJson? with
      | .ok value => .ok value
      | .error e => .error (.transport e)
    else .error (.transport (.badStatus a.status))

/-! ## 3. The services -/

/-- The field of a launch's answer that names the task. -/
def taskIdField : Json.Field := { name := "task_id", aliases := ["taskId"] }

/-- The id in the answer to a launch. -/
def launched? (j : Json) : Option String := do
  let members ← Json.Layout.members? [taskIdField] j
  taskIdField.require? members Json.string?

/-- **A launch**: the id of the task that was started. -/
def Exchange.launch (x : Exchange) : Except TaskError String :=
  x.judged launched?

/-- **An upload.** -/
def Exchange.install (x : Exchange) : Except TaskError InstallReceipt :=
  x.judged InstallReceipt.ofJson?

/-- **A request to stop a task.** -/
def Exchange.cancel (x : Exchange) : Except TransportError Unit :=
  x.success.map fun _ => ()

/-- **A question about a task.** -/
def Exchange.status (x : Exchange) : Except TransportError Snapshot :=
  match x.success with
  | .error (.badStatus 404) => .ok .notFound
  | .error e => .error e
  | .ok a => a.read Snapshot.ofJson?

/-- **A liveness check.** -/
def Exchange.check (x : Exchange) : Bool :=
  x.success.isOk

/-- **A subscription**: the events, and the error that breaks them off. -/
def Exchange.subscribe (x : Exchange) :
    Except TransportError (List (Except TransportError Event)) :=
  x.success.map fun a =>
    Sse.events (.ok a.body ::
      if a.isWhole then [] else [.error (.decode "the body broke off")])

end TaskWatch.Service
