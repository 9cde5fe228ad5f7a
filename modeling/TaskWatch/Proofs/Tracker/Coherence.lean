/-
# The parts of a tracker agree

Phase, link, record and picture are written separately, by different handlers.  `Coherent`
lists, one statement for each field, what the others tell about it: what may be read off the
status when the phase is known, and the other way round.  **`coherent_reached`**: wherever a
course leads, all of it holds.

The list is read off the accord of a tracker with its phase, which is what a move keeps: the
phase fixes the terminal status, the restart flag and the confirmation (`Accord.record`).
-/
import TaskWatch.Proofs.Tracker.Course

namespace TaskWatch

/-! ## 1. What the phase tells -/

theorem Status.final?_eq_none_iff {s : Status} :
    s.final? = none ↔ s = .pending ∨ s = .running := by
  cases s <;> simp [final?, isTerminal]

theorem Status.eq_of_final? {s u : Status} (h : s.final? = some u) : s = u := by
  unfold final? at h
  split at h
  · exact Option.some.inj h
  · cases h

/-- The phases that leave the end of the task open. -/
theorem Phase.status?_eq_none_iff {p : Phase} :
    p.status? = none ↔
      p = .streaming ∨ p = .reconciling ∨ p = .degraded ∨ p = .settled .refreshRequired := by
  cases p with
  | settled outcome => cases outcome <;> simp [status?, Outcome.status?]
  | _ => simp [status?]

/-- Only a completed task restarts. -/
theorem Phase.status?_of_needsRestart {p : Phase} (h : p.needsRestart) :
    p.status? = some .completed := by
  cases p with
  | settled outcome =>
    cases outcome <;> simp_all [needsRestart, Outcome.needsRestart, status?, Outcome.status?]
  | _ => simp_all [needsRestart, status?]

namespace Tracker

/-- **What the phase tells of the record.** -/
theorem Accord.record {t : Tracker} (h : t.Accord) {p : Phase} (hp : t.phase = p) :
    t.task.status.final? = p.status? ∧ t.task.needsRestart = p.needsRestart ∧
      t.task.confirmed = p.confirmed := by
  rw [← hp]
  exact ⟨h.status, h.needsRestart, h.confirmed⟩

/-- A task that needs a restart is completed. -/
theorem Accord.completed_of_needsRestart {t : Tracker} (h : t.Accord)
    (hr : t.task.needsRestart) : t.task.status = .completed := by
  rw [h.needsRestart] at hr
  exact Status.eq_of_final? (h.status.trans (Phase.status?_of_needsRestart hr))

/-- The outcome is that of the phase. -/
theorem outcome?_eq_some_iff {t : Tracker} {outcome : Outcome} :
    t.outcome? = some outcome ↔ t.phase = .settled outcome := by
  unfold outcome?
  split <;> simp_all

/-! ## 2. The list -/

/-- **Phase, link, record and picture agree.** -/
structure Coherent (t : Tracker) : Prop where
  /-- The picture shows the record, the phase and the watch over the restart as they are. -/
  shown : t.view.task = some t.task ∧ t.view.phase = phaseView t.phase ∧ t.view.probe = t.probe
  attached : t.view.link.attached ↔ t.phase = .streaming
  attached_or_sawTerminal : ¬ (t.view.link.attached ∧ t.view.link.sawTerminal)
  /-- The end of the task is open in these phases only. -/
  going : t.task.status = .pending ∨ t.task.status = .running ↔
    t.phase = .streaming ∨ t.phase = .reconciling ∨ t.phase = .degraded ∨
      t.phase = .settled .refreshRequired
  needsRestart : t.task.needsRestart → t.task.status = .completed
  awaitingRestart : t.phase = .awaitingRestart →
    t.task.status = .completed ∧ t.task.needsRestart ∧ ¬ t.task.confirmed
  confirmed : t.task.confirmed ↔ t.phase = .settled .restartConfirmed
  completed : t.phase = .settled .completed →
    t.task.status = .completed ∧ ¬ t.task.needsRestart
  restarted : ∀ outcome, t.phase = .settled outcome →
    outcome = .restartConfirmed ∨ outcome = .restartTimeout ∨ outcome = .dismissed ∨
      (∃ message, outcome = .manualRestartRequired message) →
    t.task.status = .completed ∧ t.task.needsRestart
  failed : ∀ message, t.phase = .settled (.failed message) → t.task.status = .failed
  cancelled : t.phase = .settled .cancelled → t.task.status = .cancelled
  probe : t.probe.isSome → t.task.needsRestart
  /-- The picture has a notice exactly when the task is settled. -/
  noticed : t.view.notice.isSome ↔ t.view.isSettled
  notice : ∀ outcome, t.view.notice = some outcome ↔ t.phase = .settled outcome
  /-- It shows an error exactly when that notice is one of these. -/
  error : t.view.error.isSome ↔
    (∃ message, t.view.notice = some (.failed message)) ∨
      t.view.notice = some .restartTimeout ∨ t.view.notice = some .refreshRequired

/-- The outcomes that come with an error. -/
theorem isSome_error?_iff (outcome : Outcome) :
    outcome.error?.isSome ↔
      (∃ message, outcome = .failed message) ∨ outcome = .restartTimeout ∨
        outcome = .refreshRequired := by
  cases outcome <;> simp [Outcome.error?]

/-- The outcomes of a task that needed a restart, spelled out. -/
theorem needsRestart_outcome_iff (outcome : Outcome) :
    outcome.needsRestart ↔
      outcome = .restartConfirmed ∨ outcome = .restartTimeout ∨ outcome = .dismissed ∨
        ∃ message, outcome = .manualRestartRequired message := by
  cases outcome <;> simp [Outcome.needsRestart]

theorem isSome_notice_view_iff (t : Tracker) : t.view.notice.isSome ↔ t.view.isSettled := by
  cases hp : t.phase <;> simp [view, View.isSettled, phaseView, outcome?, hp]

theorem isSome_error_view_iff (t : Tracker) :
    t.view.error.isSome ↔
      (∃ message, t.view.notice = some (.failed message)) ∨
        t.view.notice = some .restartTimeout ∨ t.view.notice = some .refreshRequired := by
  cases ho : t.outcome? with
  | none => simp [view, ho]
  | some outcome => simpa [view, ho] using isSome_error?_iff outcome

/-- **Wherever a course leads, phase, link, record and picture agree.** -/
theorem coherent_reached (start : Start) (signals : List Signal) :
    (start.reached signals).Coherent := by
  have h : (start.reached signals).Accord := start.accord_reached signals
  generalize start.reached signals = t at h
  constructor
  case shown => exact ⟨rfl, rfl, rfl⟩
  case attached => simpa [view] using h.link
  case attached_or_sawTerminal => simp_all [view]
  case going =>
    rw [← Status.final?_eq_none_iff, h.status]
    exact Phase.status?_eq_none_iff
  case needsRestart => exact h.completed_of_needsRestart
  case awaitingRestart =>
    intro hp
    obtain ⟨hs, hr, hc⟩ := h.record hp
    exact ⟨Status.eq_of_final? hs, hr, by simp [hc, Phase.confirmed]⟩
  case confirmed => simp [h.confirmed, Phase.confirmed]
  case completed =>
    intro hp
    obtain ⟨hs, hr, -⟩ := h.record hp
    exact ⟨Status.eq_of_final? hs, by simp [hr, Phase.needsRestart, Outcome.needsRestart]⟩
  case restarted =>
    intro outcome hp ho
    have hr : t.task.needsRestart := by
      rw [h.needsRestart, hp]
      exact (needsRestart_outcome_iff outcome).mpr ho
    exact ⟨h.completed_of_needsRestart hr, hr⟩
  case failed =>
    intro message hp
    exact Status.eq_of_final? (h.record hp).1
  case cancelled =>
    intro hp
    exact Status.eq_of_final? (h.record hp).1
  case probe =>
    intro hb
    rw [h.needsRestart]
    exact h.probe hb
  case noticed => exact isSome_notice_view_iff t
  case notice => exact fun outcome => outcome?_eq_some_iff
  case error => exact isSome_error_view_iff t

end Tracker

end TaskWatch
