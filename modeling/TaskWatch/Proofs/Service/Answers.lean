/-
# What the server's answers come to

A whole answer is a status and a body.  Which operation succeeds with it, and with what error it
fails otherwise, follows from the two alone.

* **`Judged`**: a launch and an upload are judged by the server.  400 and 422 mean that the
  parameters are wrong, and nothing else does.
* **`Told`**: the answer to a question about a task, where 404 is an answer too.
* **`Carried`**: the other operations succeed for the 2xx, whatever the body is.

What a body has to say is a matter of the names in it and what stands there (`Launched`,
`Snapshot.SaidBy`, `InstallReceipt.SaidBy`); what nobody asked for makes no difference, and need not
even be text.  So each of the three leaves only one result to an answer (`Judged.eq_ok`,
`Told.eq_ok`).

**`Client.understands`** puts them together.  A status outside the 2xx is never a success, with the
one exception of a question about a task that the server does not know.  And at an address that the
settings can name, every operation asks the server.

A refusal always has a reason (`reason_ne_empty`), and the detail of its body is that reason, word
for word (`reason_eq_detail`).
-/
import TaskWatch.Proofs.Endpoint.Addressing
import TaskWatch.Proofs.Json.Bytes
import TaskWatch.Proofs.Json.Writing
import TaskWatch.Proofs.Text.Marked
import TaskWatch.Proofs.Wire.Contents
import TaskWatch.Service.Client

namespace TaskWatch

/-! ## 1. JSON, written and read -/

namespace Json

theorem Shortest.text_ne_nil (bits : UInt64) : Shortest.text bits ≠ [] := by
  have hlayout : ∀ d, layout d ≠ [] := by
    intro d
    unfold layout
    dsimp only
    split
    · simp
    split
    · simp
    split
    · simp
    split
    · simp
    · simp
  unfold text
  dsimp only
  split
  · simp
  · simp [hlayout]

theorem writeChars_ne_nil (j : Json) : j.writeChars ≠ [] := by
  cases j with
  | null | unreadable => simp [writeChars]
  | bool b => cases b <;> simp [writeChars]
  | natural n => exact Nat.toDigits_ne_nil
  | negative n => exact List.cons_ne_nil _ _
  | real bits => exact Shortest.text_ne_nil bits
  | string s => exact List.cons_ne_nil _ _
  | array items => cases items <;> exact List.cons_ne_nil _ _
  | object members => rcases members with - | ⟨⟨name, j⟩, ms⟩ <;> exact List.cons_ne_nil _ _

/-- **What is written is never empty.** -/
theorem write_ne_empty (j : Json) : j.write ≠ "" := by
  intro h
  refine j.writeChars_ne_nil ?_
  rw [← String.toList_ofList (l := j.writeChars), ← write, h]
  rfl

/-- A text with a mark at its start is no JSON. -/
theorem read?_of_mark {text : String} {cs : List Char} (h : text.toList = '\uFEFF' :: cs) :
    read? text = none := by
  have hskip : skip ('\uFEFF' :: cs) = '\uFEFF' :: cs := List.dropWhile_cons_of_neg (by decide)
  have hword : word? ('\uFEFF' :: cs) = none := by simp [word?]
  rw [read?, readChars?, h, value?, hskip]
  simp [hword]

end Json

namespace Service

open Text

/-! ## 2. The reason of a refusal -/

/-- **A refusal always has a reason.** -/
theorem reason_ne_empty (status : Nat) (text : String) : reason status text ≠ "" := by
  unfold reason
  split
  · dsimp only
    split
    · simp
    · next h => simpa using h
  · split
    · exact Json.write_ne_empty _
    · next h => simpa using h
  · exact Json.write_ne_empty _

/-- **The reason is the detail**, word for word, if there is one detail and it is a text. -/
theorem reason_eq_detail {text s : String} {members : Json.Members}
    (hread : Json.read? text = some (.object members))
    (hone : Json.GivesOnce ["detail"] members (.string s)) (hs : s ≠ "")
    (status : Nat) : reason status text = s := by
  have hlookup : detailField.lookup? members = some (some (.string s)) :=
    Json.Field.lookup?_eq_some_some_iff.mpr hone
  have hdetail : detailOf text = .string s := by
    simp [detailOf, hread, Json.Layout.members?, hlookup, Json.isReadable, Json.depth, depthLimit]
  simp [reason, hdetail, hs]

/-! ## 3. Bodies -/

/-- A status that means success. -/
def Is2xx (status : Nat) : Prop :=
  200 ≤ status ∧ status < 300

instance (status : Nat) : Decidable (Is2xx status) :=
  inferInstanceAs (Decidable (_ ∧ _))

theorem isSuccess_iff {status : Nat} : isSuccess status = true ↔ Is2xx status := by
  simp [isSuccess, Is2xx]

/-- **The answer to a launch names the task.** -/
def Launched (j : Json) (id : String) : Prop :=
  ∃ ms, Json.Lists ["task_id"] j ms ∧ Json.GivesOnce ["task_id", "taskId"] ms (.string id)

theorem launched?_eq_some_iff {j : Json} {id : String} : launched? j = some id ↔ Launched j id := by
  simp only [launched?, Option.bind_eq_bind, Option.bind_eq_some_iff,
    Json.Layout.members?_eq_some_iff, Json.Field.require?_eq_some_iff, Json.string?_eq_some_iff,
    exists_eq_right]
  rfl

namespace Answer

variable {α : Type} {tells : Json → α → Prop} {ofJson? : Json → Option α} {a : Answer}

/-- **The body is JSON that tells a value.** -/
def Holds (tells : Json → α → Prop) (a : Answer) (v : α) : Prop :=
  ∃ j, Json.readBytes? a.body = some j ∧ tells j v

/-- **The text of the body is an object with one detail**, which is a text and not empty. -/
def Details (a : Answer) (s : String) : Prop :=
  ∃ members : Json.Members, Json.read? (decodeMarked a.body) = some (.object members) ∧
    Json.GivesOnce ["detail"] members (.string s) ∧ s ≠ ""

theorem holds_iff (htells : ∀ {j v}, ofJson? j = some v ↔ tells j v) {v : α} :
    a.Holds tells v ↔ (Json.readBytes? a.body).bind ofJson? = some v := by
  simp [Holds, Option.bind_eq_some_iff, htells]

/-- A body tells one value at most. -/
theorem Holds.unique (htells : ∀ {j v}, ofJson? j = some v ↔ tells j v) {v w : α}
    (hv : a.Holds tells v) (hw : a.Holds tells w) : v = w := by
  rw [holds_iff htells] at hv hw
  exact Option.some.inj (hv.symm.trans hw)

/-- A body that is text says what the text does. -/
theorem holds_of_denotes {text : String} {j : Json} {v : α} (hbody : a.body = Utf8.encode text)
    (hj : Json.Denotes text j) (hv : tells j v) : a.Holds tells v := by
  refine ⟨j, ?_, hv⟩
  rw [hbody, Json.readBytes?_encode, Json.read?_of_denotes hj]

/-- **A whole body is read**, or it does not say what was asked for. -/
theorem read_cases (h : a.isWhole = true) (htells : ∀ {j v}, ofJson? j = some v ↔ tells j v) :
    (∃ v, a.Holds tells v ∧ a.read ofJson? = .ok v) ∨
      ((∀ v, ¬a.Holds tells v) ∧ ∃ detail, a.read ofJson? = .error (.decode detail)) := by
  simp only [holds_iff htells, read, h]
  cases (Json.readBytes? a.body).bind ofJson? with
  | none => exact .inr ⟨fun v => nofun, _, rfl⟩
  | some v => exact .inl ⟨v, rfl, rfl⟩

/-- **JSON in UTF-8 stands for itself**: it does not begin with a mark. -/
theorem details_of_encode {text s : String} {members : Json.Members}
    (hbody : a.body = Utf8.encode text) (hread : Json.read? text = some (.object members))
    (hone : Json.GivesOnce ["detail"] members (.string s)) (hs : s ≠ "") : a.Details s := by
  have hmark : text.toList.head? ≠ some '\uFEFF' := by
    intro hhead
    obtain ⟨cs, hcs⟩ := List.head?_eq_some_iff.mp hhead
    rw [Json.read?_of_mark hcs] at hread
    cases hread
  refine ⟨members, ?_, hone, hs⟩
  rw [hbody, decodeMarked_eq (.unmarked hmark), hread]

end Answer

/-! ## 4. What answers come to -/

section Outcomes

variable {α : Type} {tells : Json → α → Prop} {ofJson? : Json → Option α} {a : Answer}

/-- **What comes of an answer that only has to succeed.** -/
inductive Carried (a : Answer) : Except TransportError α → Prop
  | done {v : α} (h : Is2xx a.status) : Carried a (.ok v)
  | failed (h : ¬Is2xx a.status) : Carried a (.error (.badStatus a.status))

/-- **What comes of an answer about a task.** -/
inductive Told (a : Answer) : Except TransportError Snapshot → Prop
  | done {s : Snapshot} (h : Is2xx a.status) (hs : a.Holds Snapshot.SaidBy s) : Told a (.ok s)
  | unread {detail : String} (h : Is2xx a.status) (hno : ∀ s, ¬a.Holds Snapshot.SaidBy s) :
      Told a (.error (.decode detail))
  | notFound (h : a.status = 404) : Told a (.ok .notFound)
  | failed (h : ¬Is2xx a.status) (h404 : a.status ≠ 404) : Told a (.error (.badStatus a.status))

/-- **What comes of an answer of a service that judges what it is given.** -/
inductive Judged (tells : Json → α → Prop) (a : Answer) : Except TaskError α → Prop
  | done {v : α} (h : Is2xx a.status) (hv : a.Holds tells v) : Judged tells a (.ok v)
  | unread {detail : String} (h : Is2xx a.status) (hno : ∀ v, ¬a.Holds tells v) :
      Judged tells a (.error (.transport (.decode detail)))
  | refused {m : String} (h : a.status = 400 ∨ a.status = 422) (hm : m ≠ "")
      (hdetail : ∀ s, a.Details s → m = s) : Judged tells a (.error (.validation m))
  | failed (h : ¬Is2xx a.status) (h400 : a.status ≠ 400) (h422 : a.status ≠ 422) :
      Judged tells a (.error (.transport (.badStatus a.status)))

/-- An answer is a success or its status is the error. -/
theorem success_answered (a : Answer) :
    (Is2xx a.status ∧ (Exchange.answered a).success = .ok a) ∨
      (¬Is2xx a.status ∧ (Exchange.answered a).success = .error (.badStatus a.status)) := by
  have hsuccess : (Exchange.answered a).success =
      if isSuccess a.status then .ok a else .error (.badStatus a.status) := rfl
  rw [hsuccess]
  split
  · next hs => exact .inl ⟨isSuccess_iff.mp hs, rfl⟩
  · next hs => exact .inr ⟨fun h => hs (isSuccess_iff.mpr h), rfl⟩

theorem carried (a : Answer) (f : Answer → α) :
    Carried a ((Exchange.answered a).success.map f) := by
  rcases success_answered a with ⟨h, heq⟩ | ⟨h, heq⟩
  · rw [heq]
    exact .done h
  · rw [heq]
    exact .failed h

theorem told (h : a.isWhole = true) : Told a (Exchange.answered a).status := by
  rw [Exchange.status]
  rcases success_answered a with ⟨hs, heq⟩ | ⟨hs, heq⟩
  · rw [heq]
    dsimp only
    rcases Answer.read_cases h Snapshot.ofJson?_eq_some_iff with
      ⟨s, hholds, hread⟩ | ⟨hno, detail, hread⟩
    · rw [hread]
      exact .done hs hholds
    · rw [hread]
      exact .unread hs hno
  · rw [heq]
    by_cases h404 : a.status = 404
    · rw [h404]
      exact .notFound h404
    · split
      · next hbad => exact absurd (TransportError.badStatus.inj (Except.error.inj hbad)) h404
      · next e _ hbad =>
        cases hbad
        exact .failed hs h404
      · next hbad => cases hbad

theorem judged (h : a.isWhole = true) (htells : ∀ {j v}, ofJson? j = some v ↔ tells j v) :
    Judged tells a ((Exchange.answered a).judged ofJson?) := by
  -- The two statuses of a refusal are looked at first, so they need not be told from the 2xx.
  simp only [Exchange.judged, Exchange.answer]
  split
  · next hrefused =>
    refine .refused (by simpa using hrefused) (reason_ne_empty _ _) ?_
    rintro s ⟨members, hread, hone, hs⟩
    rw [Answer.text, if_pos h]
    exact reason_eq_detail hread hone hs a.status
  · next hrefused =>
    split
    · next hs =>
      rcases Answer.read_cases h htells with ⟨v, hholds, hread⟩ | ⟨hno, detail, hread⟩
      · rw [hread]
        exact .done (isSuccess_iff.mp hs) hholds
      · rw [hread]
        exact .unread (isSuccess_iff.mp hs) hno
    · next hs =>
      simp only [Bool.or_eq_true, decide_eq_true_eq, not_or] at hrefused
      exact .failed (fun h => hs (isSuccess_iff.mpr h)) hrefused.1 hrefused.2

theorem Carried.isOk_iff {x : Except TransportError α} (h : Carried a x) :
    x.isOk = true ↔ Is2xx a.status := by
  cases h with
  | done h => exact iff_of_true rfl h
  | failed h => exact iff_of_false nofun h

theorem Told.is2xx_or {x : Except TransportError Snapshot} (h : Told a x) (hok : x.isOk = true) :
    Is2xx a.status ∨ a.status = 404 := by
  cases h with
  | done h _ => exact .inl h
  | notFound h => exact .inr h
  | unread _ _ => cases hok
  | failed _ _ => cases hok

theorem Judged.is2xx {x : Except TaskError α} (h : Judged tells a x) (hok : x.isOk = true) :
    Is2xx a.status := by
  cases h with
  | done h _ => exact h
  | unread _ _ => cases hok
  | refused _ _ _ => cases hok
  | failed _ _ _ => cases hok

/-- **A snapshot that a success tells is the result.** -/
theorem Told.eq_ok {x : Except TransportError Snapshot} (h : Told a x) (hs : Is2xx a.status)
    {s : Snapshot} (hholds : a.Holds Snapshot.SaidBy s) : x = .ok s := by
  cases h with
  | done _ hs' => rw [hs'.unique Snapshot.ofJson?_eq_some_iff hholds]
  | unread _ hno => exact absurd hholds (hno s)
  | notFound h404 => exact absurd hs.2 (by omega)
  | failed hno _ => exact absurd hs hno

/-- **404 is the answer that the task is not known.** -/
theorem Told.eq_notFound {x : Except TransportError Snapshot} (h : Told a x)
    (h404 : a.status = 404) : x = .ok .notFound := by
  cases h with
  | done h _ | unread h _ => exact absurd h.2 (by omega)
  | notFound => rfl
  | failed _ hno => exact absurd h404 hno

/-- **What a success tells is the result.** -/
theorem Judged.eq_ok (htells : ∀ {j v}, ofJson? j = some v ↔ tells j v) {x : Except TaskError α}
    (h : Judged tells a x) (hs : Is2xx a.status) {v : α} (hholds : a.Holds tells v) : x = .ok v := by
  cases h with
  | done _ hv => rw [hv.unique htells hholds]
  | unread _ hno => exact absurd hholds (hno v)
  | refused hrefused _ _ => exact absurd hs.2 (by omega)
  | failed hno _ _ => exact absurd hs hno

/-- **The detail of a refusal is the reason.** -/
theorem Judged.eq_refused {x : Except TaskError α} (h : Judged tells a x)
    (hrefused : a.status = 400 ∨ a.status = 422) {s : String} (hdetail : a.Details s) :
    x = .error (.validation s) := by
  cases h with
  | done h _ | unread h _ => exact absurd h.2 (by omega)
  | refused _ _ hm => rw [hm s hdetail]
  | failed _ h400 h422 => exact absurd hrefused (not_or.mpr ⟨h400, h422⟩)

end Outcomes

/-! ## 5. What a client makes of them -/

/-- **What a client can ask for.** -/
inductive Operation where
  | launch (p : Params)
  | cancel (taskId : String)
  | subscribe (taskId : String)
  | status (taskId : String)
  | check
  | install (p : Package)

namespace Operation

/-- The request that an operation makes. -/
def request (c : Client) : Operation → Except TransportError Request
  | launch p => Service.launch c.endpoint c.settings p
  | cancel taskId => Service.cancel c.endpoint c.settings taskId
  | subscribe taskId => Service.subscribe c.endpoint taskId
  | status taskId => Service.status c.endpoint c.settings taskId
  | check => .ok (Service.check c.endpoint c.settings)
  | install p => Service.install c.endpoint c.settings c.boundary p

/-- Whether an operation reports a success. -/
def succeeds (c : Client) : Operation → Bool
  | launch p => (c.launch p).isOk
  | cancel taskId => (c.cancel taskId).isOk
  | subscribe taskId => (c.subscribe taskId).isOk
  | status taskId => (c.status taskId).isOk
  | check => c.check
  | install p => (c.install p).isOk

end Operation

namespace Client

variable {c : Client} {a : Answer}

/-- **An operation is answered**: its request can be made, and the network brings an answer. -/
def Answered (c : Client) (op : Operation) (a : Answer) : Prop :=
  ∃ r, op.request c = .ok r ∧ c.network r = .answered a

theorem Answered.exchange {op : Operation} (h : c.Answered op a) :
    c.exchange (op.request c) = .answered a := by
  obtain ⟨r, hr, hanswered⟩ := h
  rw [hr, Client.exchange, hanswered]

/-- **A client of a server that its settings can name**, over HTTP. -/
def IsAddressed (c : Client) : Prop :=
  ofSettings c.network c.settings c.boundary = .ok c ∧
    ∃ b, Url.parse c.settings.baseUrl = .ok b ∧ (b.scheme = "http" ∨ b.scheme = "https")

/-- **Such a client can make every request.** -/
theorem IsAddressed.exists_request (h : c.IsAddressed) (op : Operation) :
    ∃ r, op.request c = .ok r := by
  obtain ⟨hc, b, hb, hscheme⟩ := h
  obtain ⟨e, he, hc⟩ := Url.exists_of_bind_ok hc
  obtain rfl : e = c.endpoint := congrArg Client.endpoint (Except.ok.inj hc)
  obtain ⟨place, hbase, -, -⟩ := Endpoint.exists_base he hb hscheme
  have hfile : Url.isFile b.scheme = false := by
    rcases hscheme with h | h <;> rw [h] <;> decide
  have hservice {names : List String} {path : String} (h : (names, path) ∈ Endpoint.services) :=
    Endpoint.service_eq hbase hfile h
  have htask := Endpoint.task_eq hbase hfile
  cases op with
  | launch p =>
    have hurl := hservice (.head _)
    exact ⟨_, by rw [Operation.request, Service.launch, hurl]; rfl⟩
  | install p =>
    have hurl := hservice (.tail _ (.head _))
    exact ⟨_, by rw [Operation.request, Service.install, hurl]; rfl⟩
  | cancel taskId => exact ⟨_, by rw [Operation.request, Service.cancel, htask]; rfl⟩
  | subscribe taskId => exact ⟨_, by rw [Operation.request, Service.subscribe, htask]; rfl⟩
  | status taskId => exact ⟨_, by rw [Operation.request, Service.status, htask]; rfl⟩
  | check => exact ⟨_, rfl⟩

/-- **A client understands an answer.** -/
structure Understands (c : Client) (a : Answer) : Prop where
  /-- Every operation asks the server. -/
  asks : c.IsAddressed → ∀ op : Operation, ∃ r, op.request c = .ok r
  check : c.Answered .check a → (c.check = true ↔ Is2xx a.status)
  cancel : ∀ taskId, c.Answered (.cancel taskId) a → Carried a (c.cancel taskId)
  subscribe : ∀ taskId, c.Answered (.subscribe taskId) a → Carried a (c.subscribe taskId)
  status : ∀ taskId, c.Answered (.status taskId) a → Told a (c.status taskId)
  launch : ∀ p, c.Answered (.launch p) a → Judged Launched a (c.launch p)
  install : ∀ p, c.Answered (.install p) a → Judged InstallReceipt.SaidBy a (c.install p)
  /-- A success is a 2xx, or a task that the server does not know. -/
  honest : ∀ op, c.Answered op a → op.succeeds c = true →
    Is2xx a.status ∨ a.status = 404 ∧ ∃ taskId, op = .status taskId

namespace Answered

theorem check (h : c.Answered .check a) : c.check = true ↔ Is2xx a.status := by
  have hcheck : c.check = (Exchange.answered a).check := congrArg Exchange.check h.exchange
  rw [hcheck, Exchange.check]
  rcases success_answered a with ⟨hs, heq⟩ | ⟨hs, heq⟩
  · simp [heq, hs, Except.isOk, Except.toBool]
  · simp [heq, hs, Except.isOk, Except.toBool]

theorem cancel {taskId : String} (h : c.Answered (.cancel taskId) a) :
    Carried a (c.cancel taskId) := by
  have hcancel : c.cancel taskId = (Exchange.answered a).cancel :=
    congrArg Exchange.cancel h.exchange
  rw [hcancel]
  exact carried a _

theorem subscribe {taskId : String} (h : c.Answered (.subscribe taskId) a) :
    Carried a (c.subscribe taskId) := by
  have hsubscribe : c.subscribe taskId = (Exchange.answered a).subscribe :=
    congrArg Exchange.subscribe h.exchange
  rw [hsubscribe]
  exact carried a _

theorem status {taskId : String} (h : c.Answered (.status taskId) a) (hwhole : a.isWhole = true) :
    Told a (c.status taskId) := by
  have hstatus : c.status taskId = (Exchange.answered a).status :=
    congrArg Exchange.status h.exchange
  rw [hstatus]
  exact told hwhole

theorem launch {p : Params} (h : c.Answered (.launch p) a) (hwhole : a.isWhole = true) :
    Judged Launched a (c.launch p) := by
  have hlaunch : c.launch p = (Exchange.answered a).launch := congrArg Exchange.launch h.exchange
  rw [hlaunch]
  exact judged hwhole launched?_eq_some_iff

theorem install {p : Package} (h : c.Answered (.install p) a) (hwhole : a.isWhole = true) :
    Judged InstallReceipt.SaidBy a (c.install p) := by
  have hinstall : c.install p = (Exchange.answered a).install :=
    congrArg Exchange.install h.exchange
  rw [hinstall]
  exact judged hwhole InstallReceipt.ofJson?_eq_some_iff

/-- **No success without a 2xx**, but for a task that the server does not know. -/
theorem honest {op : Operation} (h : c.Answered op a) (hwhole : a.isWhole = true)
    (hok : op.succeeds c = true) :
    Is2xx a.status ∨ a.status = 404 ∧ ∃ taskId, op = .status taskId := by
  cases op with
  | launch p => exact .inl ((h.launch hwhole).is2xx hok)
  | cancel taskId => exact .inl (h.cancel.isOk_iff.mp hok)
  | subscribe taskId => exact .inl (h.subscribe.isOk_iff.mp hok)
  | status taskId =>
    rcases (h.status hwhole).is2xx_or hok with hs | hs
    · exact .inl hs
    · exact .inr ⟨hs, taskId, rfl⟩
  | check => exact .inl (h.check.mp hok)
  | install p => exact .inl ((h.install hwhole).is2xx hok)

end Answered

/-- **Every whole answer is understood.** -/
theorem understands (c : Client) {a : Answer} (h : a.isWhole = true) : c.Understands a where
  asks haddressed := haddressed.exists_request
  check hop := hop.check
  cancel _ hop := hop.cancel
  subscribe _ hop := hop.subscribe
  status _ hop := hop.status h
  launch _ hop := hop.launch h
  install _ hop := hop.install h
  honest _ hop := hop.honest h

/-- **Each operation succeeds** with an answer of its own: the launch with an id under its other
name, the question about a task with bytes that are no text in a member that nobody asks for.  A
task that is not known is an answer, and a refusal tells why. -/
theorem understands_each :
    let settings : ServerSettings := { baseUrl := "http://[::1]:7768" }
    let b : Url :=
      { scheme := "http"
        host := some (.ipv6 [0, 0, 0, 0, 0, 0, 0, 1])
        port := some 7768
        path := .segments [""] }
    let endpoint : Endpoint := { base := b, liveness := { b with path := .segments ["health"] } }
    let client (a : Answer) : Client :=
      { network := fun _ => .answered a, settings, endpoint, boundary := "form" }
    let started : Answer := { status := 200, body := Utf8.encode "\x7b\"taskId\":\"7\"\x7d" }
    let stopped : Answer := { status := 204 }
    let known : Answer :=
      { status := 200
        body := Utf8.encode "\x7b\"found\":true,\"x\":\"" ++ ([0xff] ++ Utf8.encode "\"\x7d") }
    let unknown : Answer := { status := 404 }
    let installed : Answer :=
      { status := 201, body := Utf8.encode "\x7b\"need_restart\":true\x7d" }
    let refused : Answer :=
      { status := 422, body := Utf8.encode "\x7b\"detail\":\"no such branch\"\x7d" }
    let params : Params := { repoUrl := "https://localhost/library" }
    let package : Package := { fileName := "package.zip", bytes := [] }
    (∀ a ∈ [started, stopped, known, unknown, installed, refused],
      a.isWhole = true ∧ (client a).Understands a ∧ ∀ op, (client a).Answered op a) ∧
    (client started).launch params = .ok "7" ∧
    ((client stopped).cancel "7").isOk = true ∧
    ((client known).subscribe "7").isOk = true ∧
    (client known).status "7" = .ok { found := true } ∧
    (client unknown).status "7" = .ok .notFound ∧
    (client stopped).check = true ∧
    (client installed).install package = .ok { needRestart := true } ∧
    (client refused).launch params = .error (.validation "no such branch") := by
  intro settings b endpoint client started stopped known unknown installed refused params package
  have hendpoint : Endpoint.ofSettings settings = .ok endpoint :=
    Url.ok_of_toOption (by decide +kernel)
  have hb : Url.parse settings.baseUrl = .ok b := Url.ok_of_toOption (by decide +kernel)
  have hclient (a : Answer) (h : a.isWhole = true) :
      (client a).Understands a ∧ ∀ op, (client a).Answered op a := by
    have haddressed : (client a).IsAddressed := by
      refine ⟨?_, b, hb, .inl rfl⟩
      show ofSettings _ settings _ = _
      rw [ofSettings, hendpoint]
      rfl
    have hunderstands := (client a).understands h
    refine ⟨hunderstands, fun op => ?_⟩
    obtain ⟨r, hr⟩ := hunderstands.asks haddressed op
    exact ⟨r, hr, rfl⟩
  refine ⟨?_, ?_, ?_, ?_, ?_, ?_, ?_, ?_, ?_⟩
  · intro a ha
    have hwhole : ∀ a ∈ [started, stopped, known, unknown, installed, refused],
        a.isWhole = true := by decide
    exact ⟨hwhole a ha, hclient a (hwhole a ha)⟩
  · obtain ⟨hunderstands, hanswered⟩ := hclient started rfl
    have hjson : Json.Denotes "\x7b\"taskId\":\"7\"\x7d" (.object [("taskId", .string "7")]) :=
      ⟨[], .object (.one [] (.ofString "taskId") [] [] (.string (.ofString "7")) []), [],
        by decide +kernel, rfl⟩
    have hholds : started.Holds Launched "7" :=
      Answer.holds_of_denotes rfl hjson ⟨_, .object _, "taskId", rfl⟩
    exact (hunderstands.launch params (hanswered _)).eq_ok launched?_eq_some_iff (by decide) hholds
  · obtain ⟨hunderstands, hanswered⟩ := hclient stopped rfl
    exact (hunderstands.cancel "7" (hanswered _)).isOk_iff.mpr (by decide)
  · obtain ⟨hunderstands, hanswered⟩ := hclient known rfl
    exact (hunderstands.subscribe "7" (hanswered _)).isOk_iff.mpr (by decide)
  · obtain ⟨hunderstands, hanswered⟩ := hclient known rfl
    have hjson : Json.readBytes? known.body =
        some (.object [("found", .bool true), ("x", .unreadable)]) := by
      refine Json.readBytes?_of_blot (by decide +kernel) (by decide +kernel) (by decide)
        (by decide) ⟨[], .object (.more [] (.ofString "found") [] [] (.bool true) []
          (.one [] (.ofString "x") [] [] (.blotted [] []) [])), [], ?_, rfl⟩
      decide +kernel
    have hholds : known.Holds Snapshot.SaidBy { found := true } :=
      ⟨_, hjson, _, .object _,
        { found := ⟨"found", rfl⟩
          status := .inr ⟨by decide, rfl⟩
          needsRestart := .inr ⟨by decide, rfl⟩
          downloaded := .inr ⟨by decide, rfl⟩
          skipped := .inr ⟨by decide, rfl⟩
          failed := .inr ⟨by decide, rfl⟩
          message := .inr ⟨by decide, rfl⟩ }⟩
    exact (hunderstands.status "7" (hanswered _)).eq_ok (by decide) hholds
  · obtain ⟨hunderstands, hanswered⟩ := hclient unknown rfl
    exact (hunderstands.status "7" (hanswered _)).eq_notFound rfl
  · obtain ⟨hunderstands, hanswered⟩ := hclient stopped rfl
    exact (hunderstands.check (hanswered _)).mpr (by decide)
  · obtain ⟨hunderstands, hanswered⟩ := hclient installed rfl
    have hjson : Json.Denotes "\x7b\"need_restart\":true\x7d"
        (.object [("need_restart", .bool true)]) :=
      ⟨[], .object (.one [] (.ofString "need_restart") [] [] (.bool true) []), [],
        by decide +kernel, rfl⟩
    have hholds : installed.Holds InstallReceipt.SaidBy { needRestart := true } :=
      Answer.holds_of_denotes rfl hjson ⟨_, .object _,
        { message := .inr ⟨by decide, rfl⟩
          needRestart := .inl ⟨"need_restart", rfl⟩
          autoRestart := .inr ⟨by decide, rfl⟩ }⟩
    exact (hunderstands.install package (hanswered _)).eq_ok InstallReceipt.ofJson?_eq_some_iff
      (by decide) hholds
  · obtain ⟨hunderstands, hanswered⟩ := hclient refused rfl
    have hjson : Json.Denotes "\x7b\"detail\":\"no such branch\"\x7d"
        (.object [("detail", .string "no such branch")]) :=
      ⟨[], .object (.one [] (.ofString "detail") [] [] (.string (.ofString "no such branch")) []),
        [], by decide +kernel, rfl⟩
    have hdetail : refused.Details "no such branch" :=
      Answer.details_of_encode rfl (Json.read?_of_denotes hjson) ⟨"detail", rfl⟩ (by decide)
    exact (hunderstands.launch params (hanswered _)).eq_refused (.inr rfl) hdetail

end Client

end Service

end TaskWatch
