/-
# The moves of a tracker

`Tracker.apply` is spread over seven handlers, each with guards of its own on the phase, the
link and the status.  This module says once what one signal can do, so that no later proof
has to open a handler.

* **`Accord`** ties the parts of a tracker to its phase: the link is attached exactly while
  it streams, and the status, the restart flag and the confirmation of the record are those
  that the phase stands for (`Phase.status?`, `Phase.needsRestart`, `Phase.confirmed`).
* **`Move`** lists what can happen, one constructor for each way.  Its guards look at the
  phase alone, and that is sound in accord only: the handlers ask the link and the status as
  well, and `Accord` answers for them.
* **`apply_move`**: in accord, every signal makes a move.  **`Move.accord`**: every move keeps
  the accord.

The texts that the tracker itself adds to the record stay open in `Move` (`message`), since
no law of the tracker hangs on their wording.
-/
import TaskWatch.Proofs.Tracker.Record

namespace TaskWatch

/-! ## 1. What a phase stands for -/

/-- The status, once it is terminal. -/
def Status.final? (s : Status) : Option Status :=
  if s.isTerminal then some s else none

/-- The terminal status of a task with this outcome.  `none`: nobody knows. -/
def Outcome.status? : Outcome → Option Status
  | .completed | .restartConfirmed | .restartTimeout | .manualRestartRequired _ | .dismissed =>
    some .completed
  | .failed _ => some .failed
  | .cancelled => some .cancelled
  | .refreshRequired => none

/-- Whether a task with this outcome needed a restart. -/
def Outcome.needsRestart : Outcome → Bool
  | .restartConfirmed | .restartTimeout | .manualRestartRequired _ | .dismissed => true
  | .completed | .failed _ | .cancelled | .refreshRequired => false

/-- The phase that a signal is meant for.  A cancellation is meant for any. -/
def Signal.phase? : Signal → Option Phase
  | .stream _ | .streamEnded _ => some .streaming
  | .fallback _ => some .reconciling
  | .graceElapsed => some .degraded
  | .probe _ | .probeResolved _ => some .awaitingRestart
  | .cancel => none

namespace Phase

/-- The terminal status of a task in this phase, if it has ended. -/
def status? : Phase → Option Status
  | .streaming | .reconciling | .degraded => none
  | .awaitingRestart => some .completed
  | .settled outcome => outcome.status?

/-- Whether a task in this phase needs, or needed, a restart. -/
def needsRestart : Phase → Bool
  | .streaming | .reconciling | .degraded => false
  | .awaitingRestart => true
  | .settled outcome => outcome.needsRestart

/-- Whether the restart of a task in this phase was seen to be over. -/
def confirmed (p : Phase) : Bool :=
  p = .settled .restartConfirmed

/-- The phases in which the task itself goes on. -/
def inProgress : Phase → Bool
  | .streaming | .reconciling | .degraded => true
  | .awaitingRestart | .settled _ => false

/-- The tracking is over. -/
def isSettled : Phase → Bool
  | .settled _ => true
  | _ => false

/-- **What a phase waits for**: the signals that are meant for it, and, until the task is
settled, a cancellation. -/
def heeds (p : Phase) (signal : Signal) : Bool :=
  match signal.phase? with
  | some q => p = q
  | none => !p.isSettled

/-- The phase after a terminal event with this outcome. -/
def afterEnd : Option Outcome → Phase
  | some outcome => .settled outcome
  | none => .awaitingRestart

/-- While the task goes on, nothing is known of its end. -/
theorem unknown_of_inProgress {p : Phase} (h : p.inProgress) :
    p.status? = none ∧ p.needsRestart = false ∧ p.confirmed = false := by
  cases p with
  | streaming | reconciling | degraded => exact ⟨rfl, rfl, by decide⟩
  | awaitingRestart | settled outcome => simp [inProgress] at h

end Phase

namespace Tracker

/-- **A tracker in accord with its phase.** -/
structure Accord (t : Tracker) : Prop where
  link : t.link = .attached ↔ t.phase = .streaming
  status : t.task.status.final? = t.phase.status?
  needsRestart : t.task.needsRestart = t.phase.needsRestart
  confirmed : t.task.confirmed = t.phase.confirmed
  /-- Only a restart is ever watched. -/
  probe : t.probe.isSome → t.phase.needsRestart

/-- A task in progress has not ended. -/
theorem Accord.not_final {t : Tracker} (h : t.Accord) (hp : t.phase.inProgress) :
    t.task.status.final? = none :=
  h.status.trans (Phase.unknown_of_inProgress hp).1

theorem Accord.not_isTerminal {t : Tracker} (h : t.Accord) (hp : t.phase.inProgress) :
    t.task.status.isTerminal = false := by
  have hf := h.not_final hp
  cases hs : t.task.status.isTerminal with
  | false => rfl
  | true => simp [Status.final?, hs] at hf

/-- A task in progress has not been told to restart. -/
theorem Accord.not_needsRestart {t : Tracker} (h : t.Accord) (hp : t.phase.inProgress) :
    t.task.needsRestart = false :=
  h.needsRestart.trans (Phase.unknown_of_inProgress hp).2.1

/-- Nor has it been seen to be back. -/
theorem Accord.not_confirmed {t : Tracker} (h : t.Accord) (hp : t.phase.inProgress) :
    t.task.confirmed = false :=
  h.confirmed.trans (Phase.unknown_of_inProgress hp).2.2

/-- Nor is anything known of a restart. -/
theorem Accord.not_probe {t : Tracker} (h : t.Accord) (hp : t.phase.inProgress) :
    t.probe = none := by
  cases ht : t.probe with
  | none => rfl
  | some report =>
    have hr : t.phase.needsRestart := h.probe (by rw [ht]; rfl)
    rw [(Phase.unknown_of_inProgress hp).2.1] at hr
    cases hr

/-! ## 2. Signals that nobody waits for -/

theorem heeds_iff {p q : Phase} {signal : Signal} (hs : signal.phase? = some q) :
    p.heeds signal ↔ p = q := by
  simp [Phase.heeds, hs]

theorem not_heeds_iff {p q : Phase} {signal : Signal} (hs : signal.phase? = some q) :
    p.heeds signal = false ↔ p ≠ q := by
  simp [Phase.heeds, hs]

/-- A settled phase waits for nothing. -/
theorem heeds_settled (outcome : Outcome) (signal : Signal) :
    (Phase.settled outcome).heeds signal = false := by
  cases signal <;> simp [Phase.heeds, Signal.phase?, Phase.isSettled]

/-- **A signal that the phase does not wait for changes nothing and asks for nothing.** -/
theorem apply_of_not_heeds {t : Tracker} {signal : Signal}
    (h : t.phase.heeds signal = false) : t.apply signal = (t, []) := by
  cases signal with
  | stream event =>
    have hp : t.phase ≠ .streaming := (not_heeds_iff rfl).mp h
    simp [apply, onEvent, isListening, hp]
  | streamEnded how =>
    have hp : t.phase ≠ .streaming := (not_heeds_iff rfl).mp h
    simp [apply, onStreamEnded, isListening, hp]
  | fallback answer =>
    have hp : t.phase ≠ .reconciling := (not_heeds_iff rfl).mp h
    simp [apply, onFallback, hp]
  | graceElapsed =>
    have hp : t.phase ≠ .degraded := (not_heeds_iff rfl).mp h
    simp [apply, onGraceElapsed, hp]
  | probe report =>
    have hp : t.phase ≠ .awaitingRestart := (not_heeds_iff rfl).mp h
    simp [apply, onProbe, hp]
  | probeResolved outcome =>
    have hp : t.phase ≠ .awaitingRestart := (not_heeds_iff rfl).mp h
    simp [apply, onProbeResolved, hp]
  | cancel =>
    cases hp : t.phase with
    | settled outcome => simp [apply, onCancel, hp]
    | _ => simp [hp, Phase.heeds, Signal.phase?, Phase.isSettled] at h

/-! ## 3. The end of a task -/

/-- **What a terminal event makes of a tracker** whose task is in progress. -/
def close (t : Tracker) (event : Event) : Tracker × List Effect :=
  match event.outcome? with
  | some outcome => settle { t with task := t.task.close event } outcome
  | none =>
    ({ t with
        task := t.task.close event
        phase := .awaitingRestart
        probesStarted := t.probesStarted + 1 },
      [.startProbe])

/-- **`conclude` closes** a record that is open. -/
theorem conclude_eq_close {t : Tracker} {event : Event}
    (hs : t.task.status.isTerminal = false) (hr : t.task.needsRestart = false)
    (he : event.isTerminal) : t.conclude event = t.close event := by
  cases event with
  | complete downloaded skipped failed needsRestart message =>
    cases needsRestart <;>
      simp [conclude, hs, finishCompleted, close, Event.outcome?, Task.close, Task.completed,
        Task.push_eq]
  | restart message =>
    simp [conclude, hs, finishCompleted, close, Event.outcome?, Task.close, Task.completed,
      Task.push_eq]
  | done message =>
    simp [conclude, hs, hr, finishCompleted, close, Event.outcome?, Task.close, Task.completed,
      Task.push_eq, say]
  | error message => simp [conclude, hs, close, Event.outcome?, Task.close]
  | _ => simp [Event.isTerminal] at he

@[simp] theorem close_phase (t : Tracker) (event : Event) :
    (t.close event).1.phase = .afterEnd event.outcome? := by
  unfold close
  cases event.outcome? <;> rfl

@[simp] theorem close_task (t : Tracker) (event : Event) :
    (t.close event).1.task = t.task.close event := by
  unfold close
  cases event.outcome? <;> rfl

@[simp] theorem close_link (t : Tracker) (event : Event) :
    (t.close event).1.link = t.link := by
  unfold close
  cases event.outcome? <;> rfl

@[simp] theorem close_probe (t : Tracker) (event : Event) :
    (t.close event).1.probe = t.probe := by
  unfold close
  cases event.outcome? <;> rfl

/-- The phase after a terminal event speaks for the record that the event closed. -/
theorem close_accord {t : Task} {event : Event} (he : event.isTerminal)
    (hr : t.needsRestart = false) (hc : t.confirmed = false) :
    (t.close event).status.final? = (Phase.afterEnd event.outcome?).status? ∧
      (t.close event).needsRestart = (Phase.afterEnd event.outcome?).needsRestart ∧
      (t.close event).confirmed = (Phase.afterEnd event.outcome?).confirmed := by
  cases event with
  | complete downloaded skipped failed needsRestart message =>
    cases needsRestart <;>
      simp [Task.close, Task.completed, Task.push_eq, Event.outcome?, Phase.afterEnd, hc,
        Status.final?, Status.isTerminal, Phase.status?, Phase.needsRestart, Phase.confirmed,
        Outcome.status?, Outcome.needsRestart]
  | restart message | done message | error message =>
    simp [Task.close, Task.completed, Task.push_eq, Event.outcome?, Phase.afterEnd, hr, hc,
      Status.final?, Status.isTerminal, Phase.status?, Phase.needsRestart, Phase.confirmed,
      Outcome.status?, Outcome.needsRestart]
  | _ => simp [Event.isTerminal] at he

end Tracker

/-! ## 4. The server's memory, as the tracker takes it -/

namespace Snapshot

/-- The server knows the task, and it goes on. -/
def goesOn (s : Snapshot) : Bool :=
  s.found && (s.status = some .pending || s.status = some .running)

/-- The server knows the task, and it was cancelled. -/
def wasCancelled (s : Snapshot) : Bool :=
  s.found && s.status = some .cancelled

theorem isTerminal_of_terminalEvent? {s : Snapshot} {event : Event}
    (h : s.terminalEvent? = some event) : event.isTerminal := by
  unfold terminalEvent? at h
  split at h
  · split at h
    · cases h; rfl
    · cases h; rfl
    · cases h
  · cases h

end Snapshot

namespace Tracker

/-- An answer that leaves the tracker without a clue: a failure, a task that the server does
not know, or one that goes on when the tracker may not attach to it any more. -/
def givesUpOn (t : Tracker) : Except TransportError Snapshot → Bool
  | .error _ => true
  | .ok s =>
    s.terminalEvent?.isNone && !s.wasCancelled && !(s.goesOn && t.reattached < t.maxReattach)

/-! ## 5. The moves -/

/-- **What one signal can do** to a tracker in accord. -/
inductive Move (t : Tracker) : Signal → Tracker → List Effect → Prop
  /-- Nobody waits for the signal. -/
  | ignored {signal : Signal} (h : t.phase.heeds signal = false) : Move t signal t []
  | observed {event : Event} (h : t.phase = .streaming) (he : event.isTerminal = false) :
      Move t (.stream event) { t with task := t.task.started.observe event } []
  /-- The stream brought the end. -/
  | ended {event : Event} (h : t.phase = .streaming) (he : event.isTerminal) :
      Move t (.stream event) (close { t with link := .sawTerminal } event).1
        (.closeStream :: (close { t with link := .sawTerminal } event).2)
  /-- The stream broke: the server is asked. -/
  | lost {how : StreamEnd} (h : t.phase = .streaming) :
      Move t (.streamEnded how)
        { t with
          link := .lost, phase := .reconciling, fallbackQueries := t.fallbackQueries + 1 }
        [.queryFallback]
  /-- The server remembers the end. -/
  | reconciled {snapshot : Snapshot} {event : Event} (h : t.phase = .reconciling)
      (he : snapshot.terminalEvent? = some event) :
      Move t (.fallback (.ok snapshot)) (close { t with link := .detached } event).1
        (close { t with link := .detached } event).2
  /-- The server remembers a cancellation. -/
  | foundCancelled {snapshot : Snapshot} (h : t.phase = .reconciling)
      (hs : snapshot.wasCancelled) :
      Move t (.fallback (.ok snapshot))
        { t with
          link := .detached
          phase := .settled .cancelled
          task := ({ t.task with status := .cancelled }).push snapshot.message }
        [.settle .cancelled]
  /-- The task goes on: the stream is attached again. -/
  | attachedAgain {snapshot : Snapshot} (h : t.phase = .reconciling) (hs : snapshot.goesOn)
      (hr : t.reattached < t.maxReattach) :
      Move t (.fallback (.ok snapshot))
        { t with reattached := t.reattached + 1, phase := .streaming, link := .attached }
        [.subscribe]
  | degraded {answer : Except TransportError Snapshot} (message : String)
      (h : t.phase = .reconciling) (ha : t.givesUpOn answer) :
      Move t (.fallback answer)
        { t with phase := .degraded, link := .detached, task := t.task.push message }
        [.startGrace]
  | graceElapsed (message : String) (h : t.phase = .degraded) :
      Move t .graceElapsed
        { t with phase := .settled .refreshRequired, task := t.task.push message }
        [.settle .refreshRequired]
  | reported {report : ProbeReport} (h : t.phase = .awaitingRestart) :
      Move t (.probe report) { t with probe := some report } []
  /-- The server is back. -/
  | ready {elapsed : Nat} (message : String) (h : t.phase = .awaitingRestart) :
      Move t (.probeResolved (.ready elapsed))
        { t with
          phase := .settled .restartConfirmed
          task := ({ t.task with confirmed := true }).push message }
        [.settle .restartConfirmed]
  | timedOut {elapsed : Nat} (message : String) (h : t.phase = .awaitingRestart) :
      Move t (.probeResolved (.timeout elapsed))
        { t with phase := .settled .restartTimeout, task := t.task.push message }
        [.settle .restartTimeout]
  /-- The watch was called off, and says nothing. -/
  | unwatched (h : t.phase = .awaitingRestart) : Move t (.probeResolved .cancelled) t []
  /-- The user does not wait for the restart. -/
  | dismissed (h : t.phase = .awaitingRestart) :
      Move t .cancel { t with phase := .settled .dismissed } [.settle .dismissed]
  | cancelled (message : String) (h : t.phase.inProgress) :
      Move t .cancel
        { t with
          link := .detached
          phase := .settled .cancelled
          task := ({ t.task with status := .cancelled }).push message }
        [.remoteCancel, .settle .cancelled]

/-! ## 6. Every signal makes a move -/

theorem Accord.isListening {t : Tracker} (ht : t.Accord) (h : t.phase = .streaming) :
    t.isListening := by
  simp [Tracker.isListening, h, ht.link.mpr h]

/-- A terminal event of the stream closes the task. -/
theorem apply_ended {t : Tracker} (ht : t.Accord) (h : t.phase = .streaming) {event : Event}
    (he : event.isTerminal) :
    t.apply (.stream event) = ((close { t with link := .sawTerminal } event).1,
      .closeStream :: (close { t with link := .sawTerminal } event).2) := by
  have hp : t.phase.inProgress := by rw [h]; rfl
  -- the record counts as running from here on, but the end wipes that out
  have hrun : t.task.started.status.isTerminal = false := by
    have := ht.not_isTerminal hp
    cases hs : t.task.status <;> simp_all [Task.started, Status.isTerminal]
  have hend : conclude { t with link := .sawTerminal, task := t.task.started } event
      = close { t with link := .sawTerminal } event := by
    refine (conclude_eq_close (t := { t with link := .sawTerminal, task := t.task.started })
      hrun (ht.not_needsRestart hp) he).trans ?_
    simp only [close, Task.close_started t.task he, settle]
  rw [apply, onEvent, if_pos (ht.isListening h), if_pos he, ← hend]
  rfl

/-- The end of the stream before a terminal event breaks the link. -/
theorem apply_lost {t : Tracker} (ht : t.Accord) (h : t.phase = .streaming) (how : StreamEnd) :
    t.apply (.streamEnded how) =
      ({ t with
          link := .lost, phase := .reconciling, fallbackQueries := t.fallbackQueries + 1 },
        [.queryFallback]) := by
  have hopen : t.task.status.isTerminal = false := ht.not_isTerminal (by rw [h]; rfl)
  rw [apply, onStreamEnded, if_pos (by simp [ht.isListening h, hopen])]

/-- A snapshot that amounts to a terminal event closes the task as well. -/
theorem apply_reconciled {t : Tracker} (ht : t.Accord) (h : t.phase = .reconciling)
    {snapshot : Snapshot} {event : Event} (he : snapshot.terminalEvent? = some event) :
    t.apply (.fallback (.ok snapshot)) = close { t with link := .detached } event := by
  have hp : t.phase.inProgress := by rw [h]; rfl
  have hend : conclude { t with link := .detached } event
      = close { t with link := .detached } event :=
    conclude_eq_close (ht.not_isTerminal hp) (ht.not_needsRestart hp)
      (Snapshot.isTerminal_of_terminalEvent? he)
  rw [apply]
  unfold onFallback
  rw [if_pos h, ← hend]
  simp only [he]

/-- **An event of the stream** is observed, or it is the end. -/
theorem onEvent_move {t : Tracker} (ht : t.Accord) (h : t.phase = .streaming) (event : Event) :
    Move t (.stream event) (t.apply (.stream event)).1 (t.apply (.stream event)).2 := by
  cases he : event.isTerminal with
  | false =>
    rw [apply, onEvent, if_pos (ht.isListening h), if_neg (by simp [he])]
    exact .observed h he
  | true =>
    rw [apply_ended ht h he]
    exact .ended h he

/-- **The server's answer** ends the task, lets it go on, or gives no clue. -/
theorem onFallback_move {t : Tracker} (ht : t.Accord) (h : t.phase = .reconciling)
    (answer : Except TransportError Snapshot) :
    Move t (.fallback answer) (t.apply (.fallback answer)).1 (t.apply (.fallback answer)).2 := by
  cases answer with
  | error e =>
    rw [apply]
    unfold onFallback
    rw [if_pos h]
    exact .degraded _ h rfl
  | ok snapshot =>
    cases he : snapshot.terminalEvent? with
    | some event =>
      rw [apply_reconciled ht h he]
      exact .reconciled h he
    | none =>
      rw [apply]
      unfold onFallback
      rw [if_pos h]
      simp only [he]
      cases hs : snapshot.status with
      | none =>
        exact .degraded _ h (by simp [givesUpOn, he, Snapshot.wasCancelled, Snapshot.goesOn, hs])
      | some status =>
        cases status with
        | completed | failed =>
          exact .degraded _ h
            (by simp [givesUpOn, he, Snapshot.wasCancelled, Snapshot.goesOn, hs])
        | cancelled =>
          cases hf : snapshot.found with
          | true => exact .foundCancelled h (by simp [Snapshot.wasCancelled, hf, hs])
          | false =>
            exact .degraded _ h
              (by simp [givesUpOn, he, Snapshot.wasCancelled, Snapshot.goesOn, hf])
        | pending | running =>
          have hgo : snapshot.goesOn = snapshot.found := by simp [Snapshot.goesOn, hs]
          cases hf : (snapshot.found && decide (t.reattached < t.maxReattach)) with
          | true =>
            obtain ⟨hfound, hleft⟩ : snapshot.found ∧ t.reattached < t.maxReattach := by
              simpa using hf
            exact .attachedAgain h (hgo.trans hfound) hleft
          | false =>
            have hgive : t.givesUpOn (.ok snapshot) := by
              simp only [givesUpOn, he, hgo, hf]
              simp [Snapshot.wasCancelled, hs]
            exact .degraded _ h hgive

/-- **The end of the grace**: nobody knows how the task ended. -/
theorem onGraceElapsed_move {t : Tracker} (h : t.phase = .degraded) :
    Move t .graceElapsed t.onGraceElapsed.1 t.onGraceElapsed.2 := by
  rw [onGraceElapsed, if_pos h]
  simp only [say, settle]
  exact .graceElapsed _ h

/-- **A report of the watch over the restart** is kept. -/
theorem onProbe_move {t : Tracker} (h : t.phase = .awaitingRestart) (report : ProbeReport) :
    Move t (.probe report) (t.onProbe report).1 (t.onProbe report).2 := by
  rw [onProbe, if_pos h]
  exact .reported h

/-- **The end of the watch over the restart** settles the task, unless it was called off. -/
theorem onProbeResolved_move {t : Tracker} (h : t.phase = .awaitingRestart)
    (outcome : ProbeOutcome) :
    Move t (.probeResolved outcome) (t.onProbeResolved outcome).1
      (t.onProbeResolved outcome).2 := by
  unfold onProbeResolved
  rw [if_pos h]
  cases outcome with
  | ready elapsed =>
    simp only [settle]
    exact .ready _ h
  | timeout elapsed =>
    simp only [say, settle]
    exact .timedOut _ h
  | cancelled => exact .unwatched h

/-- **A cancellation** settles whatever is not settled yet. -/
theorem onCancel_move {t : Tracker} (ht : t.Accord) :
    Move t .cancel t.onCancel.1 t.onCancel.2 := by
  unfold onCancel
  split
  · rename_i outcome hp
    exact .ignored (by rw [hp, heeds_settled])
  · rename_i hp
    exact .dismissed hp
  all_goals
    rename_i hp
    have hin : t.phase.inProgress := by rw [hp]; rfl
    rw [if_neg (by simp [ht.not_isTerminal hin])]
    simp only [settle]
    exact .cancelled _ hin

/-- **Every signal makes a move.** -/
theorem apply_move {t : Tracker} (ht : t.Accord) (signal : Signal) :
    Move t signal (t.apply signal).1 (t.apply signal).2 := by
  cases hh : t.phase.heeds signal with
  | false =>
    rw [apply_of_not_heeds hh]
    exact .ignored hh
  | true =>
    cases signal with
    | stream event => exact onEvent_move ht ((heeds_iff rfl).mp hh) event
    | streamEnded how =>
      have hp : t.phase = .streaming := (heeds_iff rfl).mp hh
      rw [apply_lost ht hp]
      exact .lost hp
    | fallback answer => exact onFallback_move ht ((heeds_iff rfl).mp hh) answer
    | graceElapsed => exact onGraceElapsed_move ((heeds_iff rfl).mp hh)
    | probe report => exact onProbe_move ((heeds_iff rfl).mp hh) report
    | probeResolved outcome => exact onProbeResolved_move ((heeds_iff rfl).mp hh) outcome
    | cancel => exact onCancel_move ht

/-! ## 7. Every move keeps the accord -/

/-- A terminal event takes a tracker from accord to accord, once it has let go of the link. -/
theorem Accord.close {t : Tracker} (ht : t.Accord) (hp : t.phase.inProgress) {link : Link}
    (hl : link ≠ .attached) {event : Event} (he : event.isTerminal) :
    (Tracker.close { t with link } event).1.Accord := by
  obtain ⟨hs, hr, hc⟩ := close_accord he (ht.not_needsRestart hp) (ht.not_confirmed hp)
  constructor
  case link =>
    cases ho : event.outcome? <;> simp [hl, ho, Phase.afterEnd]
  case status => simpa using hs
  case needsRestart => simpa using hr
  case confirmed => simpa using hc
  case probe => simp [ht.not_probe hp]

/-- So does a cancellation, the user's or one that the server remembers. -/
theorem Accord.cancel {t : Tracker} (ht : t.Accord) (hp : t.phase.inProgress)
    (message : String) :
    Accord { t with
      link := .detached
      phase := .settled .cancelled
      task := ({ t.task with status := .cancelled }).push message } := by
  constructor <;>
    simp [Task.push_eq, Status.final?, Status.isTerminal, Phase.status?, Outcome.status?,
      Phase.needsRestart, Outcome.needsRestart, Phase.confirmed, ht.not_needsRestart hp,
      ht.not_confirmed hp, ht.not_probe hp]

/-- **Every move keeps the accord.** -/
theorem Move.accord {t t' : Tracker} {signal : Signal} {effects : List Effect}
    (h : Move t signal t' effects) (ht : t.Accord) : t'.Accord := by
  cases h with
  | ignored h | unwatched h => exact ht
  | observed h he =>
    have hs : t.task.started.status.final? = t.task.status.final? := by
      cases hq : t.task.status <;> simp [Task.started, hq, Status.final?, Status.isTerminal]
    exact ⟨ht.link, by simpa [hs] using ht.status,
      (Task.observe_needsRestart _ _).trans ht.needsRestart,
      (Task.observe_confirmed _ _).trans ht.confirmed, ht.probe⟩
  | ended h he => exact ht.close (by rw [h]; rfl) (by simp) he
  | reconciled h he =>
    exact ht.close (by rw [h]; rfl) (by simp) (Snapshot.isTerminal_of_terminalEvent? he)
  | lost h | attachedAgain h _ _ | degraded message h _ | graceElapsed message h =>
    -- nothing is known of the end, neither before nor after
    have hp : t.phase.inProgress := by rw [h]; rfl
    constructor <;>
      simp [Task.push_eq, Phase.status?, Outcome.status?, Phase.needsRestart,
        Outcome.needsRestart, Phase.confirmed, ht.link, h, ht.not_final hp,
        ht.not_needsRestart hp, ht.not_confirmed hp, ht.not_probe hp]
  | foundCancelled h _ => exact ht.cancel (by rw [h]; rfl) _
  | cancelled message h => exact ht.cancel h message
  | reported h =>
    exact ⟨ht.link, ht.status, ht.needsRestart, ht.confirmed,
      fun _ => by simp [h, Phase.needsRestart]⟩
  | ready message h | timedOut message h | dismissed h =>
    have hl := ht.link
    have hs := ht.status
    have hr := ht.needsRestart
    have hc := ht.confirmed
    rw [h] at hl hs hr hc
    constructor <;>
      simp_all [Task.push_eq, Phase.status?, Outcome.status?, Phase.needsRestart,
        Outcome.needsRestart, Phase.confirmed]

end Tracker

end TaskWatch
