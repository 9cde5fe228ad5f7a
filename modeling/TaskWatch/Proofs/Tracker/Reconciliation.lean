/-
# Reconciliation through the server's memory

A task can end for its tracker in two ways.  The terminal event comes through the stream, or
the stream breaks first and the server, asked once, answers with a snapshot that amounts to
the same event.  **`reconciliation_agrees`**: it makes no difference.  Both ways ask for the
same from there on, and leave the same record, the same phase and the same watch, now and
after whatever follows.  What tells the two trackers apart is the state of the link, and that
one of them asked once more.

Two facts carry this.  A terminal event closes a task without looking at the phase, the link
or the count of questions (`close_relink`).  And once the task is no longer in progress, no
signal looks at the link or at that count either (`apply_relink`, `run_relink`).
-/
import TaskWatch.Proofs.Tracker.Course

namespace TaskWatch

namespace Tracker

/-! ## 1. What nobody looks at after the end -/

/-- The same tracker with another link and another count of questions. -/
def relink (t : Tracker) (link : Link) (fallbackQueries : Nat) : Tracker :=
  { t with link, fallbackQueries }

/-- **A terminal event closes a task without a look at the phase, the link or the count.** -/
theorem close_relink (t : Tracker) (event : Event) (phase : Phase) (link : Link)
    (fallbackQueries : Nat) :
    close { t with phase, link, fallbackQueries } event =
      ((t.close event).1.relink link fallbackQueries, (t.close event).2) := by
  unfold close
  cases event.outcome? <;> rfl

/-- A terminal event ends the progress. -/
theorem not_inProgress_close (t : Tracker) (event : Event) :
    (t.close event).1.phase.inProgress = false := by
  rw [close_phase]
  cases event.outcome? <;> rfl

/-- **After the end no signal looks at the link or the count.** -/
theorem apply_relink {t : Tracker} (hp : t.phase.inProgress = false) (link : Link)
    (fallbackQueries : Nat) (signal : Signal) :
    (t.relink link fallbackQueries).apply signal =
      ((t.apply signal).1.relink link fallbackQueries, (t.apply signal).2) := by
  cases hh : t.phase.heeds signal with
  | false =>
    rw [apply_of_not_heeds hh, apply_of_not_heeds (t := t.relink link fallbackQueries) hh]
  | true =>
    cases signal with
    | stream event | streamEnded how =>
      have h : t.phase = .streaming := (heeds_iff rfl).mp hh
      simp [h, Phase.inProgress] at hp
    | fallback answer =>
      have h : t.phase = .reconciling := (heeds_iff rfl).mp hh
      simp [h, Phase.inProgress] at hp
    | graceElapsed =>
      have h : t.phase = .degraded := (heeds_iff rfl).mp hh
      simp [h, Phase.inProgress] at hp
    | probe report =>
      have h : t.phase = .awaitingRestart := (heeds_iff rfl).mp hh
      simp [apply, onProbe, relink, h]
    | probeResolved outcome =>
      have h : t.phase = .awaitingRestart := (heeds_iff rfl).mp hh
      cases outcome <;> simp [apply, onProbeResolved, relink, h, settle, say]
    | cancel =>
      cases h : t.phase with
      | awaitingRestart => simp [apply, onCancel, relink, h, settle]
      | settled outcome => simp [apply, onCancel, relink, h]
      | streaming | reconciling | degraded => simp [h, Phase.inProgress] at hp

/-- Nothing leads back into progress. -/
theorem Move.not_inProgress {t t' : Tracker} {signal : Signal} {effects : List Effect}
    (h : Move t signal t' effects) (hp : t.phase.inProgress = false) :
    t'.phase.inProgress = false := by
  cases h with
  | ignored | unwatched | reported => exact hp
  | ready | timedOut | dismissed => rfl
  | cancelled message h => simp [h] at hp
  | observed h | ended h | lost h | reconciled h | foundCancelled h | attachedAgain h
  | degraded message h | graceElapsed message h => simp [h, Phase.inProgress] at hp

/-- **After the end no run looks at the link or the count.** -/
theorem run_relink {t : Tracker} (ht : t.Accord) (hp : t.phase.inProgress = false)
    (link : Link) (fallbackQueries : Nat) (signals : List Signal) :
    (t.relink link fallbackQueries).run signals =
      ((t.run signals).1.relink link fallbackQueries, (t.run signals).2) := by
  induction signals generalizing t with
  | nil => rfl
  | cons signal rest ih =>
    have hmove := apply_move ht signal
    rw [run_cons, run_cons, apply_relink hp, ih (hmove.accord ht) (hmove.not_inProgress hp)]

/-! ## 2. The two ways -/

/-- **Trackers that nobody can tell apart any more**: the first heard the end through the
stream, the second from the server's memory. -/
structure Twins (a b : Tracker) : Prop where
  task : a.task = b.task
  phase : a.phase = b.phase
  probe : a.probe = b.probe
  outcome : a.outcome? = b.outcome?
  /-- They differ in the link and in the count of questions, and in nothing else. -/
  rest : b = { a with link := .detached, fallbackQueries := a.fallbackQueries + 1 }
  sawTerminal : a.link = .sawTerminal
  /-- Whatever follows, they ask for the same and show the same. -/
  after : ∀ signals, (a.run signals).2 = (b.run signals).2 ∧
    (a.run signals).1.task = (b.run signals).1.task ∧
    (a.run signals).1.phase = (b.run signals).1.phase ∧
    (a.run signals).1.probe = (b.run signals).1.probe ∧
    (a.run signals).1.view.notice = (b.run signals).1.view.notice

/-- A tracker after the end and the same one with another link are twins. -/
theorem Accord.twins {t : Tracker} (ht : t.Accord) (hp : t.phase.inProgress = false)
    (hl : t.link = .sawTerminal) : Twins t (t.relink .detached (t.fallbackQueries + 1)) where
  task := rfl
  phase := rfl
  probe := rfl
  outcome := rfl
  rest := rfl
  sawTerminal := hl
  after signals := by
    rw [run_relink ht hp]
    exact ⟨rfl, rfl, rfl, rfl, rfl⟩

end Tracker

/-- The server's memory of a completed or failed task amounts to a terminal event. -/
theorem Snapshot.exists_terminalEvent? {s : Snapshot} (hf : s.found)
    (hs : s.status = some .completed ∨ s.status = some .failed) :
    ∃ event, s.terminalEvent? = some event := by
  rcases hs with h | h
  · exact ⟨.complete s.downloaded s.skipped s.failed s.needsRestart s.message,
      by simp [terminalEvent?, hf, h]⟩
  · exact ⟨.error s.message, by simp [terminalEvent?, hf, h]⟩

namespace Tracker

/-- **The server's memory and the stream end a task alike.**  Wherever a stream is still
heard, its terminal event, and its loss with an answer that amounts to that event, ask for
the same effects after `closeStream` and `queryFallback`, and make twins. -/
theorem reconciliation_agrees (id : String) (startedAt : Timestamp) (maxReattach : Nat)
    (before : List Signal) (how : StreamEnd) (snapshot : Snapshot)
    (hp : ((Start.streaming id startedAt maxReattach).reached before).phase = .streaming)
    (hf : snapshot.found)
    (hs : snapshot.status = some .completed ∨ snapshot.status = some .failed) :
    let t := (Start.streaming id startedAt maxReattach).reached before
    let broken := (t.apply (.streamEnded how)).1
    ∃ event effects,
      snapshot.terminalEvent? = some event ∧
      (t.apply (.stream event)).2 = .closeStream :: effects ∧
      (t.apply (.streamEnded how)).2 = [.queryFallback] ∧
      (broken.apply (.fallback (.ok snapshot))).2 = effects ∧
      Twins (t.apply (.stream event)).1 (broken.apply (.fallback (.ok snapshot))).1 := by
  intro t broken
  have ht : t.Accord := (Start.streaming id startedAt maxReattach).accord_reached before
  have hin : t.phase.inProgress := by rw [hp]; rfl
  obtain ⟨event, he⟩ := snapshot.exists_terminalEvent? hf hs
  have hterm : event.isTerminal := Snapshot.isTerminal_of_terminalEvent? he
  -- both ways close `t`; what they do to its link and its count beforehand comes out again
  have hstream : t.apply (.stream event) =
      ((t.close event).1.relink .sawTerminal t.fallbackQueries,
        .closeStream :: (t.close event).2) := by
    have hclose := close_relink t event t.phase .sawTerminal t.fallbackQueries
    rw [apply_ended ht hp hterm, hclose]
  have hlost : broken =
      { t with
        link := .lost, phase := .reconciling, fallbackQueries := t.fallbackQueries + 1 } :=
    congrArg Prod.fst (apply_lost ht hp how)
  have hmemory : broken.apply (.fallback (.ok snapshot)) =
      ((t.close event).1.relink .detached (t.fallbackQueries + 1), (t.close event).2) := by
    have hbroken : broken.Accord := (apply_move ht (.streamEnded how)).accord ht
    have hphase : broken.phase = .reconciling := by rw [hlost]
    rw [apply_reconciled hbroken hphase he, hlost]
    exact close_relink t event .reconciling .detached (t.fallbackQueries + 1)
  have hended : ((t.close event).1.relink .sawTerminal t.fallbackQueries).Accord := by
    have hlink : Link.sawTerminal ≠ .attached := by decide
    have hacc := ht.close hin hlink hterm
    rwa [close_relink t event t.phase .sawTerminal t.fallbackQueries] at hacc
  refine ⟨event, (t.close event).2, he, ?_, ?_, ?_, ?_⟩
  · rw [hstream]
  · rw [apply_lost ht hp how]
  · rw [hmemory]
  · rw [hstream, hmemory]
    exact hended.twins (not_inProgress_close t event) rfl

/-- The stream stalls right before the end of a task that needs a restart, and the server
remembers that end: the restart is watched either way, and may be dismissed. -/
theorem reconciliation_agrees_of_stall :
    let t := (Start.streaming "a" "" 3).reached [.stream (.info "hello")]
    let event : Event := .complete 2 0 0 true ""
    let snapshot : Snapshot :=
      { found := true, status := some .completed, needsRestart := true, downloaded := 2 }
    let streamed := t.apply (.stream event)
    let asked := t.run [.streamEnded .stalled, .fallback (.ok snapshot)]
    t.phase = .streaming ∧
      streamed.2 = [.closeStream, .startProbe] ∧ asked.2 = [.queryFallback, .startProbe] ∧
      Twins streamed.1 asked.1 ∧
      (asked.1.run [.cancel]).2 = [.settle .dismissed] := by
  intro t event snapshot streamed asked
  have hp : t.phase = .streaming := by decide
  obtain ⟨event', _, he, -, -, -, htwins⟩ :=
    reconciliation_agrees "a" "" 3 [.stream (.info "hello")] .stalled snapshot hp rfl (.inl rfl)
  obtain rfl : event' = event := (Option.some.inj he).symm
  have hdismissed : (streamed.1.run [.cancel]).2 = [.settle .dismissed] := by decide
  exact ⟨hp, by decide, by decide, htwins, (htwins.after [.cancel]).1 ▸ hdismissed⟩

end Tracker

end TaskWatch
