/-
# What is asked for after a signal

Every phase begins with one effect, which brings the source that the phase listens to, or
ends the tracking (`Phase.opening`).  A signal that a phase waits for either leaves the phase
alone and asks for nothing, or it leads to another phase and asks for the opening of that
phase, perhaps with a word to the outside before it (**`Move.opens`**).

So whoever carries out the effects one by one is, after the last of them, where the phase
says.  The identity of the task never changes on the way (`Move.id_eq`).
-/
import TaskWatch.Proofs.Tracker.Course
import TaskWatch.Proofs.Source.Speech

namespace TaskWatch

/-- **The effect that a phase begins with.** -/
def Phase.opening : Phase → Effect
  | .streaming => .subscribe
  | .reconciling => .queryFallback
  | .degraded => .startGrace
  | .awaitingRestart => .startProbe
  | .settled outcome => .settle outcome

theorem Phase.opening_ne_remoteCancel (p : Phase) : p.opening ≠ .remoteCancel := by
  cases p <;> simp [opening]

theorem Phase.opening_eq_settle_iff {p : Phase} {o : Outcome} :
    p.opening = .settle o ↔ p = .settled o := by
  cases p <;> simp [opening]

/-- An effect that no source comes of. -/
def Effect.isAside (e : Effect) : Bool :=
  e = .closeStream || e = .remoteCancel

namespace Tracker

/-- **Effects that open a phase**: something aside at most, then the opening. -/
def Opens (p : Phase) (effects : List Effect) : Prop :=
  ∃ asides, (∀ e ∈ asides, e.isAside) ∧ effects = asides ++ [p.opening]

theorem Opens.alone (p : Phase) : Opens p [p.opening] :=
  ⟨[], by simp, rfl⟩

theorem Opens.cons {p : Phase} {e : Effect} {effects : List Effect} (he : e.isAside)
    (h : Opens p effects) : Opens p (e :: effects) := by
  obtain ⟨asides, hasides, rfl⟩ := h
  exact ⟨e :: asides, List.forall_mem_cons.mpr ⟨he, hasides⟩, rfl⟩

theorem Opens.exists_cons {p : Phase} {effects : List Effect} (h : Opens p effects) :
    ∃ e rest, effects = e :: rest := by
  obtain ⟨asides, -, rfl⟩ := h
  cases asides with
  | nil => exact ⟨_, _, rfl⟩
  | cons a asides => exact ⟨_, _, rfl⟩

/-- Each of the effects is something aside, or the opening, and then the last. -/
theorem Opens.cons_cases {p : Phase} {e : Effect} {effects : List Effect}
    (h : Opens p (e :: effects)) :
    (e.isAside ∧ Opens p effects) ∨ (e = p.opening ∧ effects = []) := by
  obtain ⟨asides, hasides, heq⟩ := h
  cases asides with
  | nil =>
    obtain ⟨rfl, rfl⟩ := List.cons.inj heq
    exact .inr ⟨rfl, rfl⟩
  | cons a asides =>
    obtain ⟨rfl, rfl⟩ := List.cons.inj heq
    obtain ⟨ha, hrest⟩ := List.forall_mem_cons.mp hasides
    exact .inl ⟨ha, asides, hrest, rfl⟩

/-- A terminal event opens the phase that it leads to. -/
theorem opens_close (t : Tracker) (event : Event) :
    Opens (t.close event).1.phase (t.close event).2 := by
  unfold close
  cases event.outcome? <;> exact .alone _

/-- **A signal keeps the phase and asks for nothing, or it opens a phase.**  If it was waited
for, it is a word in the first case.  In the second it is the last word of a source, or it
comes from the user and settles the task without a refresh. -/
theorem Move.opens {t t' : Tracker} {signal : Signal} {effects : List Effect}
    (h : Move t signal t' effects) :
    (effects = [] ∧ t'.phase = t.phase ∧
        (t.phase.heeds signal → signal.isWord ∨ signal = .probeResolved .cancelled)) ∨
      (Opens t'.phase effects ∧
        (signal.closes ∨
          signal = .cancel ∧ ∃ o, t'.phase = .settled o ∧ o.triggersRefresh = false)) := by
  cases h with
  | ignored h => exact .inl ⟨rfl, rfl, fun hh => by simp [h] at hh⟩
  | observed h he => exact .inl ⟨rfl, rfl, fun _ => .inl (by simp [Signal.isWord, he])⟩
  | reported h => exact .inl ⟨rfl, rfl, fun _ => .inl rfl⟩
  | unwatched h => exact .inl ⟨rfl, rfl, fun _ => .inr rfl⟩
  | ended h he => exact .inr ⟨.cons rfl (opens_close _ _), .inl he⟩
  | reconciled h he => exact .inr ⟨opens_close _ _, .inl rfl⟩
  | lost h => exact .inr ⟨.alone .reconciling, .inl rfl⟩
  | foundCancelled h hs => exact .inr ⟨.alone (.settled .cancelled), .inl rfl⟩
  | attachedAgain h hs hr => exact .inr ⟨.alone .streaming, .inl rfl⟩
  | degraded message h ha => exact .inr ⟨.alone .degraded, .inl rfl⟩
  | graceElapsed message h => exact .inr ⟨.alone (.settled .refreshRequired), .inl rfl⟩
  | ready message h => exact .inr ⟨.alone (.settled .restartConfirmed), .inl rfl⟩
  | timedOut message h => exact .inr ⟨.alone (.settled .restartTimeout), .inl rfl⟩
  | dismissed h => exact .inr ⟨.alone (.settled .dismissed), .inr ⟨rfl, _, rfl, rfl⟩⟩
  | cancelled message h =>
    exact .inr ⟨.cons rfl (.alone (.settled .cancelled)), .inr ⟨rfl, _, rfl, rfl⟩⟩

/-- A new tracker opens its phase. -/
theorem Start.opens_begin (start : Start) :
    Opens start.tracker.begin.1.phase start.tracker.begin.2 := by
  cases start with
  | streaming id startedAt maxReattach => exact .alone .streaming
  | awaitingRestart id startedAt => exact .alone .awaitingRestart
  | ofInstall id startedAt receipt =>
    obtain ⟨message, needRestart, autoRestart⟩ := receipt
    cases needRestart <;> cases autoRestart <;> exact .alone _

end Tracker

/-! ## The task -/

namespace Task

@[simp] theorem push_id (t : Task) (message : String) : (t.push message).id = t.id := by
  rw [push_eq]

@[simp] theorem observe_id (t : Task) (event : Event) : (t.observe event).id = t.id := by
  simpa using congrArg Task.id (observe_keeps t event)

@[simp] theorem close_id (t : Task) (event : Event) : (t.close event).id = t.id := by
  cases event <;> simp [close, completed]

end Task

theorem Tracker.begin_id (t : Tracker) : t.begin.1.task.id = t.task.id := by
  unfold begin
  split <;> rfl

/-- **A tracker follows one task from its start to its end.** -/
theorem Tracker.Move.id_eq {t t' : Tracker} {signal : Signal} {effects : List Effect}
    (h : Move t signal t' effects) : t'.task.id = t.task.id := by
  cases h with
  | ignored | lost | attachedAgain | reported | unwatched | dismissed => rfl
  | observed h he => exact Task.observe_id _ _
  | ended h he | reconciled h he => simp
  | foundCancelled | degraded | graceElapsed | ready | timedOut | cancelled =>
    exact Task.push_id _ _

end TaskWatch
