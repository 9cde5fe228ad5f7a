/-
# The newest messages

A record shows the newest of the texts that were pushed to it, up to `Task.capacity` of them, and
an empty text is none.  The window is a suffix of a history that nobody keeps, so this module keeps
it beside the record.

* **`Task.Keeps`** ties a record to the texts that were pushed to it so far.  A new record keeps the
  empty history, and a push moves the window on by one (`Task.Keeps.push`).
* **`Tracker.text`** is the table of what a tracker pushes: at most one text for each signal, and
  which one.  Only `push` writes messages, whatever state the tracker is in (**`apply_messages`**);
  so the table gives the history of a run (`Tracker.texts`), one text for each of its signals.

**`newest_pushed`** puts the two together, for texts that were pushed directly, for those that the
making of a tracker pushes, and for those of its run, begun or not.
-/
import TaskWatch.Proofs.Tracker.Course

namespace TaskWatch

namespace Task

/-! ## 1. The window -/

/-- **The messages among some texts.** -/
def spoken (texts : List String) : List String :=
  texts.filter fun text => !text.isEmpty

theorem spoken_append (texts more : List String) :
    spoken (texts ++ more) = spoken texts ++ spoken more :=
  List.filter_append texts more

theorem length_window (ms : List String) : (window ms).length = min capacity ms.length := by
  rw [window, List.length_drop]
  omega

theorem window_suffix (ms : List String) : window ms <:+ ms :=
  List.drop_suffix _ ms

/-- **The window moves on**: a message more at its end, and the oldest one less once it is full. -/
theorem window_concat (ms : List String) (message : String) :
    window (ms ++ [message]) =
      (window ms).drop (if ms.length < capacity then 0 else 1) ++ [message] := by
  unfold window
  rw [List.length_append, List.length_singleton, List.drop_drop]
  split
  · rename_i hroom
    rw [Nat.sub_eq_zero_of_le (by omega), Nat.sub_eq_zero_of_le (by omega)]
    rfl
  · rename_i hfull
    have hnext : ms.length + 1 - capacity = ms.length - capacity + 1 := by omega
    have hroom : 0 < capacity := by decide
    rw [hnext, List.drop_append_of_le_length (by omega)]

/-- Pushing moves the window on. -/
theorem extend_window (ms : List String) (text : String) :
    extend (window ms) text = window (ms ++ spoken [text]) := by
  unfold extend spoken
  cases htext : text.isEmpty with
  | true => simp [htext]
  | false =>
    rw [List.filter_cons_of_pos (by simp [htext]), List.filter_nil, window_concat, length_window]
    by_cases hroom : ms.length < capacity
    · rw [if_pos hroom, if_neg (by simp), if_neg (by omega), List.drop_zero]
    · rw [if_neg hroom, if_neg (by simp), if_pos (by omega)]

/-- **A record keeps the newest** of the texts that were pushed to it. -/
def Keeps (t : Task) (texts : List String) : Prop :=
  t.messages = window (spoken texts)

theorem keeps_new (id : String) (startedAt : Timestamp) : (Task.new id startedAt).Keeps [] :=
  rfl

/-- **One more text**, whoever writes it. -/
theorem Keeps.extend {t u : Task} {texts : List String} (h : t.Keeps texts) {text : String}
    (hu : u.messages = Task.extend t.messages text) : u.Keeps (texts ++ [text]) := by
  rw [Keeps, hu, h, extend_window, spoken_append]

theorem messages_push (t : Task) (text : String) :
    (t.push text).messages = extend t.messages text := by
  rw [push_eq]

theorem Keeps.push {t : Task} {texts : List String} (h : t.Keeps texts) (text : String) :
    (t.push text).Keeps (texts ++ [text]) :=
  h.extend (messages_push t text)

/-- **One text after another.** -/
theorem Keeps.pushAll {t : Task} {texts : List String} (h : t.Keeps texts) (more : List String) :
    (t.pushAll more).Keeps (texts ++ more) := by
  induction more generalizing t texts with
  | nil =>
    rw [List.append_nil]
    exact h
  | cons text rest ih =>
    have hrest := ih (h.push text)
    rwa [List.append_assoc] at hrest

/-- **What is shown of the texts that were pushed.** -/
structure Newest (t : Task) (texts : List String) : Prop where
  /-- The last of the messages, in their order … -/
  suffix : t.messages <:+ spoken texts
  /-- … and as many of them as fit. -/
  length : t.messages.length = min 500 (spoken texts).length
  bounded : t.messages.length ≤ 500
  nonempty : "" ∉ t.messages
  /-- An empty text is not pushed, and another one takes the place of the oldest message once there
  have been 500 messages. -/
  push : ∀ text, (t.push text).messages =
    if text = "" then t.messages
    else t.messages.drop (if (spoken texts).length < 500 then 0 else 1) ++ [text]

theorem Keeps.newest {t : Task} {texts : List String} (h : t.Keeps texts) : t.Newest texts := by
  have hlength : t.messages.length = min 500 (spoken texts).length := by
    rw [h]
    exact length_window _
  have hsuffix : t.messages <:+ spoken texts := by
    rw [h]
    exact window_suffix _
  constructor
  case suffix => exact hsuffix
  case length => exact hlength
  case bounded =>
    rw [hlength]
    exact Nat.min_le_left _ _
  case nonempty =>
    intro hmem
    simpa [spoken] using hsuffix.subset hmem
  case push =>
    intro text
    rw [messages_push]
    split
    · rename_i htext
      rw [htext]
      rfl
    · rename_i htext
      have hmessage : spoken [text] = [text] := by simp [spoken, htext]
      rw [h, extend_window, hmessage]
      exact window_concat _ _

end Task

/-! ## 2. What is pushed -/

/-- **The text of an event.** -/
def Event.text : Event → String
  | .info message | .total _ message | .done message | .error message => message
  | .compareResult toDownload unchanged message =>
    orDefault message s!"需要下载 {toDownload} 个文件, {unchanged} 个无变化"
  | .progress _ _ filename message =>
    if message.isEmpty && !filename.isEmpty then s!"正在处理: {filename}" else message
  | .success filename message => orDefault message s!"✅ {filename}"
  | .skip filename message | .skipHash filename message => orDefault message s!"⏭️ {filename}"
  | .failed filename message => Text.trim s!"❌ {filename} {message}"
  | .complete fetched passed missed _ message =>
    orDefault message s!"完成: 下载 {fetched} 个, 跳过 {passed} 个, 失败 {missed} 个"
  | .containerRestartRequired message => orDefault message "完成后可能需要重启服务"
  | .restart message => orDefault message "服务正在重启"
  | .unknown => ""

/-- The text of an event that ends the task.  A task that has ended does not end again. -/
def Task.endText (t : Task) (event : Event) : String :=
  if t.status.isTerminal then "" else event.text

namespace Tracker

/-- What is said when nothing is known of the task any more. -/
def lossText : String := "与服务端的连接中断, 正在等待服务恢复..."

/-- The text of the server's memory, or of the failure to get it. -/
def memoryText (t : Tracker) : Except TransportError Snapshot → String
  | .error _ => lossText
  | .ok snapshot =>
    if t.givesUpOn (.ok snapshot) then lossText
    else
      match snapshot.terminalEvent? with
      | some event => t.task.endText event
      | none => if snapshot.wasCancelled then snapshot.message else ""

/-- **What a tracker pushes for a signal**; the empty text where it pushes nothing. -/
def text (t : Tracker) : Signal → String
  | .stream event =>
    if !t.isListening then ""
    else if event.isTerminal then t.task.endText event else event.text
  | .streamEnded _ | .probe _ => ""
  | .fallback answer => if t.phase = .reconciling then t.memoryText answer else ""
  | .graceElapsed =>
    if t.phase = .degraded then "无法确认任务状态, 服务可能仍在重启, 请稍后手动刷新" else ""
  | .probeResolved outcome =>
    if t.phase ≠ .awaitingRestart then ""
    else
      match outcome with
      | .ready _ => "服务已重启完成"
      | .timeout _ => "等待服务重启超时, 操作可能已成功, 请手动刷新"
      | .cancelled => ""
  | .cancel =>
    if t.phase.inProgress && !t.task.status.isTerminal then "任务已取消" else ""

end Tracker

/-! ## 3. Nobody else writes messages -/

namespace Task

theorem extend_empty (ms : List String) : extend ms "" = ms := rfl

/-- **Progress pushes the text of the event.** -/
theorem messages_observe (t : Task) {event : Event} (he : event.isTerminal = false) :
    (t.observe event).messages = extend t.messages event.text := by
  cases event with
  | complete | restart | done | error => cases he
  | unknown => rw [observe, Event.text, extend_empty]
  | progress current total filename message =>
    rw [observe, Event.text]
    cases hm : message.isEmpty <;> cases hf : filename.isEmpty
    case true.true =>
      have hnone : message = "" := by simpa using hm
      simp [hnone, extend_empty, recomputePercent]
    all_goals simp [messages_push, recomputePercent]
  | compareResult toDownload unchanged message =>
    rw [observe, messages_push, Event.text]
    split <;> rfl
  | info message | containerRestartRequired message => rw [observe, messages_push, Event.text]
  | total total message =>
    rw [observe, messages_push, Event.text]
    rfl
  | success filename message | skip filename message | skipHash filename message
  | failed filename message => rw [observe, messages_push, Event.text]

/-- That a task is seen to run makes no difference to the text of its end. -/
theorem endText_started (t : Task) (event : Event) : t.started.endText event = t.endText event := by
  have hstatus : t.started.status.isTerminal = t.status.isTerminal := by
    cases hs : t.status <;> simp [started, hs, Status.isTerminal]
  rw [endText, endText, hstatus]

end Task

namespace Tracker

theorem finishCompleted_messages (t : Tracker) :
    t.finishCompleted.1.task.messages = t.task.messages := by
  cases h : t.task.needsRestart <;> simp [finishCompleted, h, settle]

/-- **A terminal event pushes its text**, if the task has not ended before. -/
theorem conclude_messages (t : Tracker) {event : Event} (he : event.isTerminal) :
    (t.conclude event).1.task.messages = Task.extend t.task.messages (t.task.endText event) := by
  unfold conclude Task.endText
  split
  · rw [Task.extend_empty]
  · cases event with
    | complete downloaded skipped failed needsRestart message =>
      simp only [finishCompleted_messages, Task.messages_push, Event.text]
    | restart message => simp only [finishCompleted_messages, Task.messages_push, Event.text]
    | done message => simp only [finishCompleted_messages, say, Task.messages_push, Event.text]
    | error message => simp only [settle, Task.messages_push, Event.text]
    | _ => cases he

theorem onEvent_messages (t : Tracker) (event : Event) :
    (t.onEvent event).1.task.messages =
      Task.extend t.task.messages (t.text (.stream event)) := by
  cases hl : t.isListening with
  | false => simp [onEvent, text, hl, Task.extend_empty]
  | true =>
    cases he : event.isTerminal with
    | true =>
      have hend := conclude_messages { t with link := .sawTerminal, task := t.task.started } he
      rw [Task.endText_started] at hend
      simpa [onEvent, text, hl, he, Task.started] using hend
    | false =>
      have hgoes := Task.messages_observe t.task.started he
      simpa [onEvent, text, hl, he, Task.started] using hgoes

/-- **Giving the link up pushes the loss of it.** -/
theorem degrade_messages {t : Tracker} {answer : Except TransportError Snapshot}
    (h : t.givesUpOn answer) :
    t.degrade.1.task.messages = Task.extend t.task.messages (t.memoryText answer) := by
  have htext : t.memoryText answer = lossText := by
    cases answer with
    | error e => rfl
    | ok snapshot => exact if_pos h
  rw [degrade, say, Task.messages_push, htext]
  rfl

/-- **The server's memory** ends the task, lets it go on, or is the loss of it. -/
theorem onFallback_messages {t : Tracker} (hp : t.phase = .reconciling)
    (answer : Except TransportError Snapshot) :
    (t.onFallback answer).1.task.messages = Task.extend t.task.messages (t.memoryText answer) := by
  cases answer with
  | error e =>
    rw [onFallback, if_pos hp]
    exact degrade_messages rfl
  | ok snapshot =>
    unfold onFallback
    rw [if_pos hp]
    cases he : snapshot.terminalEvent? with
    | some event =>
      have hend := conclude_messages { t with link := .detached }
        (Snapshot.isTerminal_of_terminalEvent? he)
      simpa [he, memoryText, givesUpOn] using hend
    | none =>
      simp only [he]
      cases hs : snapshot.status with
      | none =>
        exact degrade_messages
          (by simp [givesUpOn, he, Snapshot.wasCancelled, Snapshot.goesOn, hs])
      | some status =>
        cases status with
        | completed | failed =>
          exact degrade_messages
            (by simp [givesUpOn, he, Snapshot.wasCancelled, Snapshot.goesOn, hs])
        | cancelled =>
          cases hf : snapshot.found with
          | true =>
            simp [memoryText, givesUpOn, he, Snapshot.wasCancelled, hf, hs, settle,
              Task.messages_push]
          | false =>
            exact degrade_messages
              (by simp [givesUpOn, he, Snapshot.wasCancelled, Snapshot.goesOn, hf])
        | pending | running =>
          have hgo : snapshot.goesOn = snapshot.found := by simp [Snapshot.goesOn, hs]
          have hcancel : snapshot.wasCancelled = false := by simp [Snapshot.wasCancelled, hs]
          cases hf : (snapshot.found && decide (t.reattached < t.maxReattach)) with
          | true =>
            have htext : t.memoryText (.ok snapshot) = "" := by
              simp [memoryText, givesUpOn, he, hgo, hcancel, hf]
            rw [htext, Task.extend_empty]
            rfl
          | false =>
            have hgive : t.givesUpOn (.ok snapshot) := by
              simp only [givesUpOn, he, hgo, hcancel, hf]
              rfl
            exact degrade_messages hgive

theorem onProbeResolved_messages (t : Tracker) (outcome : ProbeOutcome) :
    (t.onProbeResolved outcome).1.task.messages =
      Task.extend t.task.messages (t.text (.probeResolved outcome)) := by
  by_cases hp : t.phase = .awaitingRestart
  · cases outcome <;>
      simp [onProbeResolved, text, hp, settle, say, Task.messages_push, Task.extend_empty]
  · simp [onProbeResolved, text, hp, Task.extend_empty]

theorem onCancel_messages (t : Tracker) :
    t.onCancel.1.task.messages = Task.extend t.task.messages (t.text .cancel) := by
  cases hp : t.phase with
  | settled outcome => simp [onCancel, text, hp, Phase.inProgress, Task.extend_empty]
  | awaitingRestart => simp [onCancel, text, hp, Phase.inProgress, settle, Task.extend_empty]
  | streaming | reconciling | degraded =>
    cases hs : t.task.status.isTerminal <;>
      simp [onCancel, text, hp, hs, Phase.inProgress, settle, Task.messages_push,
        Task.extend_empty]

/-- **One signal pushes one text at most**, the one of the table, and nothing else writes
messages. -/
theorem apply_messages (t : Tracker) (signal : Signal) :
    (t.apply signal).1.task.messages = Task.extend t.task.messages (t.text signal) := by
  cases signal with
  | stream event => exact t.onEvent_messages event
  | streamEnded how =>
    rw [apply, onStreamEnded]
    split <;> rfl
  | fallback answer =>
    by_cases hp : t.phase = .reconciling
    · rw [text, if_pos hp]
      exact onFallback_messages hp answer
    · simp [apply, onFallback, text, hp, Task.extend_empty]
  | graceElapsed =>
    rw [apply, onGraceElapsed, text]
    split
    · exact Task.messages_push _ _
    · rfl
  | probe report =>
    rw [apply, onProbe]
    split <;> rfl
  | probeResolved outcome => exact t.onProbeResolved_messages outcome
  | cancel => exact t.onCancel_messages

/-! ## 4. The history of a run -/

/-- **The texts that a run pushes**, one for each signal. -/
def texts (t : Tracker) : List Signal → List String
  | [] => []
  | signal :: rest => t.text signal :: (t.apply signal).1.texts rest

/-- **A run keeps the newest** of what was pushed before and of what it pushes. -/
theorem keeps_run {t : Tracker} {before : List String} (h : t.task.Keeps before)
    (signals : List Signal) : (t.run signals).1.task.Keeps (before ++ t.texts signals) := by
  induction signals generalizing t before with
  | nil =>
    rw [texts, List.append_nil]
    exact h
  | cons signal rest ih =>
    have hrest := ih (h.extend (apply_messages t signal))
    rw [run_cons]
    rwa [List.append_assoc] at hrest

theorem begin_task (t : Tracker) : t.begin.1.task = t.task := by
  unfold begin
  split <;> rfl

/-- **How a tracker is made of a record.** -/
inductive Making where
  | streaming (maxReattach : Nat)
  | awaitingRestart
  | ofInstall (receipt : InstallReceipt)
  deriving Repr, DecidableEq

namespace Making

def tracker (task : Task) : Making → Tracker
  | .streaming maxReattach => Tracker.streaming task maxReattach
  | .awaitingRestart => Tracker.awaitingRestart task
  | .ofInstall receipt => Tracker.ofInstall task receipt

/-- What the making pushes. -/
def text : Making → String
  | .streaming _ | .awaitingRestart => ""
  | .ofInstall receipt => receipt.message

theorem messages_tracker (making : Making) (task : Task) :
    (making.tracker task).task.messages = Task.extend task.messages making.text := by
  cases making with
  | streaming | awaitingRestart => exact (Task.extend_empty _).symm
  | ofInstall receipt =>
    obtain ⟨message, needRestart, autoRestart⟩ := receipt
    cases needRestart <;> cases autoRestart <;> exact Task.messages_push task message

end Making

/-- **A record shows the newest texts**, from its beginning on: of those that were pushed directly,
and then of all that the making of a tracker and its run have pushed by then.  The tracker need not
have begun. -/
theorem newest_pushed (id : String) (startedAt : Timestamp) (direct : List String) :
    let task := (Task.new id startedAt).pushAll direct
    task.Newest direct ∧
      ∀ (making : Making) (signals : List Signal),
        let made := making.tracker task
        let begun := made.begin.1
        (made.run signals).1.task.Newest (direct ++ making.text :: made.texts signals) ∧
          (begun.run signals).1.task.Newest (direct ++ making.text :: begun.texts signals) := by
  intro task
  have htask : task.Keeps direct := (Task.keeps_new id startedAt).pushAll direct
  refine ⟨htask.newest, ?_⟩
  intro making signals made begun
  have hmade : made.task.Keeps (direct ++ [making.text]) :=
    htask.extend (making.messages_tracker task)
  have hbegun : begun.task.Keeps (direct ++ [making.text]) := by
    rw [Task.Keeps, made.begin_task]
    exact hmade
  have hrun := keeps_run hmade signals
  have hcourse := keeps_run hbegun signals
  rw [List.append_assoc] at hrun hcourse
  exact ⟨hrun.newest, hcourse.newest⟩

/-- An empty text at the limit takes nobody's place, and the one behind it takes that of the oldest
message. -/
example :
    ((Task.new "a" "").pushAll ("old" :: List.replicate 499 "x" ++ ["", "new"])).messages =
      List.replicate 499 "x" ++ ["new"] := by
  decide +kernel

end Tracker

end TaskWatch
