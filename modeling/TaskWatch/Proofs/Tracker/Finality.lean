/-
# What has ended stays as it ended

A task ends once.  From then on nothing that is heard, from whatever source and in whatever
order, changes how it ended (`terminal_final`):

* a status only ever moves forward (`Status.Leads`), and a terminal one not at all;
* the record of a task that has ended is frozen but for its messages and the confirmation of
  its restart (`Task.Frozen`), and those only the watch over the restart still changes;
* a settled tracker hears nothing any more, and neither does any tracker hear a signal that
  is meant for another phase.

A guard on the status alone would not do, since a task whose end nobody knows is settled
without having ended, nor one on the phase alone, since a completed task is watched before
it is settled.  The accord of the two carries the argument.
-/
import TaskWatch.Proofs.Tracker.Course

namespace TaskWatch

/-! ## 1. Forward only -/

/-- **How a status may change**: it starts to run, or it ends, and that is all. -/
inductive Status.Leads : Status → Status → Prop
  | stay (s : Status) : Leads s s
  | run : Leads .pending .running
  | finish {s u : Status} (hs : s.isTerminal = false) (hu : u.isTerminal) : Leads s u

/-- Nothing leads back to a pending task. -/
theorem Status.Leads.eq_pending {s : Status} (h : s.Leads .pending) : s = .pending := by
  cases h with
  | stay => rfl
  | finish _ hu => simp [isTerminal] at hu

theorem Status.Leads.trans {s u v : Status} (h : s.Leads u) (h' : u.Leads v) : s.Leads v := by
  cases h' with
  | stay => exact h
  | run =>
    cases h.eq_pending
    exact .run
  | finish hu hv =>
    cases h with
    | stay => exact .finish hu hv
    | run => exact .finish rfl hv
    | finish _ hu' => simp [hu] at hu'

/-- Nothing leads away from a terminal status. -/
theorem Status.Leads.eq_of_isTerminal {s u : Status} (h : s.Leads u) (hs : s.isTerminal) :
    u = s := by
  cases h with
  | stay => rfl
  | run => simp [isTerminal] at hs
  | finish hn _ => simp [hs] at hn

theorem Task.leads_started (t : Task) : t.status.Leads t.started.status := by
  cases hs : t.status with
  | pending =>
    simp only [started, hs, if_true]
    exact .run
  | _ =>
    simp only [started, hs, reduceCtorEq, if_false]
    exact .stay _

/-- A terminal event ends the record. -/
theorem Task.isTerminal_close (t : Task) {event : Event} (he : event.isTerminal) :
    (t.close event).status.isTerminal := by
  cases event <;> simp_all [Event.isTerminal, close, completed, push_eq, Status.isTerminal]

/-! ## 2. The record of a task that has ended -/

/-- **Frozen**: apart from messages and confirmation the later record is the earlier one. -/
def Task.Frozen (t u : Task) : Prop :=
  u = { t with confirmed := u.confirmed, messages := u.messages }

theorem Task.Frozen.refl (t : Task) : t.Frozen t := rfl

theorem Task.Frozen.trans {t u v : Task} (h : t.Frozen u) (h' : u.Frozen v) : t.Frozen v := by
  unfold Frozen at h h' ⊢
  rw [h', h]

theorem Task.Frozen.push (t : Task) (message : String) : t.Frozen (t.push message) := by
  rw [push_eq]
  rfl

namespace Tracker

/-! ## 3. What a move preserves -/

/-- **Every move takes the status forward.** -/
theorem Move.leads {t t' : Tracker} {signal : Signal} {effects : List Effect}
    (h : Move t signal t' effects) (ht : t.Accord) :
    t.task.status.Leads t'.task.status := by
  cases h with
  | ignored | lost | attachedAgain | reported | unwatched | dismissed => exact .stay _
  | observed =>
    rw [Task.observe_status]
    exact t.task.leads_started
  | ended h he =>
    rw [close_task]
    exact .finish (ht.not_isTerminal (by rw [h]; rfl)) (Task.isTerminal_close _ he)
  | reconciled h he =>
    rw [close_task]
    exact .finish (ht.not_isTerminal (by rw [h]; rfl))
      (Task.isTerminal_close _ (Snapshot.isTerminal_of_terminalEvent? he))
  | foundCancelled h =>
    rw [Task.push_eq]
    exact .finish (ht.not_isTerminal (by rw [h]; rfl)) rfl
  | cancelled message h =>
    rw [Task.push_eq]
    exact .finish (ht.not_isTerminal h) rfl
  | degraded | graceElapsed | ready | timedOut =>
    rw [Task.push_eq]
    exact .stay _

/-- A tracker whose task has ended is past the phases in which it goes on. -/
theorem Accord.not_inProgress {t : Tracker} (ht : t.Accord) (hs : t.task.status.isTerminal) :
    t.phase.inProgress = false := by
  cases hp : t.phase.inProgress with
  | false => rfl
  | true => simp [ht.not_isTerminal hp] at hs

/-- **After the end, a move is one of the watch over the restart**, or it leaves record and
watch alone. -/
theorem Move.after_end {t t' : Tracker} {signal : Signal} {effects : List Effect}
    (h : Move t signal t' effects) (hp : t.phase.inProgress = false) :
    (t'.task = t.task ∧ t'.probe = t.probe) ∨
      (t.phase = .awaitingRestart ∧ signal.phase? = some .awaitingRestart ∧
        t.task.Frozen t'.task) := by
  cases h with
  | ignored | unwatched | dismissed => exact .inl ⟨rfl, rfl⟩
  | reported h => exact .inr ⟨h, rfl, .refl _⟩
  | ready message h => exact .inr ⟨h, rfl, .push { t.task with confirmed := true } message⟩
  | timedOut message h => exact .inr ⟨h, rfl, .push t.task message⟩
  | cancelled message h => simp [h] at hp
  | observed h | ended h | lost h | reconciled h | foundCancelled h | attachedAgain h
  | degraded message h | graceElapsed message h => simp [h, Phase.inProgress] at hp

/-- A move after the end leaves the record frozen. -/
theorem Move.frozen {t t' : Tracker} {signal : Signal} {effects : List Effect}
    (h : Move t signal t' effects) (ht : t.Accord) (hs : t.task.status.isTerminal) :
    t.task.Frozen t'.task := by
  rcases h.after_end (ht.not_inProgress hs) with ⟨htask, -⟩ | ⟨-, -, hfrozen⟩
  · rw [htask]
    exact .refl _
  · exact hfrozen

/-! ## 4. What a run preserves -/

/-- **A run only ever takes the status forward.** -/
theorem Accord.leads_run {t : Tracker} (ht : t.Accord) (signals : List Signal) :
    t.task.status.Leads (t.run signals).1.task.status := by
  induction signals generalizing t with
  | nil => exact .stay _
  | cons signal rest ih =>
    have hmove := apply_move ht signal
    rw [run_cons]
    exact (hmove.leads ht).trans (ih (hmove.accord ht))

/-- **A run after the end leaves the record frozen.** -/
theorem Accord.frozen_run {t : Tracker} (ht : t.Accord) (hs : t.task.status.isTerminal)
    (signals : List Signal) : t.task.Frozen (t.run signals).1.task := by
  induction signals generalizing t with
  | nil => exact .refl _
  | cons signal rest ih =>
    have hmove := apply_move ht signal
    have hs' : (t.apply signal).1.task.status.isTerminal := by
      rw [(hmove.leads ht).eq_of_isTerminal hs]
      exact hs
    rw [run_cons]
    exact (hmove.frozen ht hs).trans (ih (hmove.accord ht) hs')

/-- **What has ended stays as it ended**, wherever a course leads and whatever follows:

* the status only moves forward;
* once it is terminal the record is frozen but for its messages and the confirmation;
* those two, and the watch over the restart, change only by the watch's own signals, and only
  while a restart is awaited;
* a settled tracker changes by nothing and asks for nothing;
* neither does any tracker by a signal that is meant for another phase. -/
theorem terminal_final (start : Start) (before : List Signal) :
    let t := start.reached before
    (∀ after, t.task.status.Leads (t.run after).1.task.status) ∧
    (t.task.status.isTerminal → ∀ after, t.task.Frozen (t.run after).1.task) ∧
    (t.task.status.isTerminal → ∀ signal,
      t.phase ≠ .awaitingRestart ∨
        (∀ report, signal ≠ .probe report) ∧ (∀ outcome, signal ≠ .probeResolved outcome) →
      (t.apply signal).1.task = t.task ∧ (t.apply signal).1.probe = t.probe) ∧
    (∀ outcome signal, t.phase = .settled outcome → t.apply signal = (t, [])) ∧
    (∀ p signal, signal.phase? = some p → t.phase ≠ p → t.apply signal = (t, [])) := by
  intro t
  have ht : t.Accord := start.accord_reached before
  refine ⟨ht.leads_run, ht.frozen_run, ?_, ?_, ?_⟩
  · intro hs signal hother
    rcases (apply_move ht signal).after_end (ht.not_inProgress hs) with hsame | ⟨hp, hq, -⟩
    · exact hsame
    · rcases hother with hne | ⟨hprobe, hresolved⟩
      · exact absurd hp hne
      · cases signal with
        | probe report => exact absurd rfl (hprobe report)
        | probeResolved outcome => exact absurd rfl (hresolved outcome)
        | _ => cases hq
  · intro outcome signal hp
    exact apply_of_not_heeds (by rw [hp, heeds_settled])
  · intro p signal hs hp
    exact apply_of_not_heeds ((not_heeds_iff hs).mpr hp)

/-- A restart is announced and then seen to be over: the record keeps how the task ended, and
what comes after the end of the watch changes nothing at all. -/
theorem terminal_final_of_restart :
    let t := (Start.streaming "a" "" 1).reached [.stream (.restart "")]
    let u := (Start.streaming "a" "" 1).reached [.stream (.restart ""), .probeResolved (.ready 5)]
    t.task.status.isTerminal ∧
      t.task.Frozen (t.run [.probeResolved (.ready 5), .cancel]).1.task ∧
      u.phase = .settled .restartConfirmed ∧ u.apply .cancel = (u, []) :=
  ⟨by decide, (terminal_final (.streaming "a" "" 1) [.stream (.restart "")]).2.1 (by decide) _,
    by decide,
    (terminal_final (.streaming "a" "" 1)
      [.stream (.restart ""), .probeResolved (.ready 5)]).2.2.2.1
      .restartConfirmed .cancel (by decide)⟩

end Tracker

end TaskWatch
