/-
# The course of a tracker

A tracker is made in one of three ways, begins once, and then hears signals, any number of
them, of any kind and in any order.  `Start` is the way it is made, always of a new task, so
that every value of it can occur.  `Start.reached` is the tracker after some signals, and
`Start.emitted` all it has asked for until then.

What one signal preserves, a whole course preserves (`run_keeps`); what the first effects
establish and every move keeps is true wherever a course leads.  The first such fact is the
accord of a tracker with its phase (`Start.accord_reached`), and the second that its counters
stay small (`Start.counted_reached`): a stream is attached again no more often than allowed,
every attachment is lost once at most, and one restart is watched at most.  So words of 32
bits hold all the counters, unless the limit itself is the largest of them.
-/
import TaskWatch.Proofs.Tracker.Move

namespace TaskWatch

namespace Tracker

/-! ## 1. Runs -/

/-- Effects that were asked for earlier only stand in front. -/
theorem foldl_apply (t : Tracker) (effects : List Effect) (signals : List Signal) :
    signals.foldl
        (fun (t, effects) signal =>
          let (t', more) := t.apply signal
          (t', effects ++ more))
        (t, effects)
      = ((t.run signals).1, effects ++ (t.run signals).2) := by
  unfold run
  induction signals generalizing t effects with
  | nil => simp
  | cons signal rest ih =>
    simp only [List.foldl_cons, List.nil_append]
    rw [ih, ih (t.apply signal).1 (t.apply signal).2, List.append_assoc]

@[simp] theorem run_nil (t : Tracker) : t.run [] = (t, []) := rfl

/-- **One signal first, then the others.** -/
theorem run_cons (t : Tracker) (signal : Signal) (rest : List Signal) :
    t.run (signal :: rest)
      = (((t.apply signal).1.run rest).1,
          (t.apply signal).2 ++ ((t.apply signal).1.run rest).2) := by
  rw [← foldl_apply]
  rfl

/-- **What one signal preserves, a run preserves.** -/
theorem run_keeps {P : Tracker → Prop} (hstep : ∀ t signal, P t → P (t.apply signal).1)
    {t : Tracker} (ht : P t) (signals : List Signal) : P (t.run signals).1 := by
  induction signals generalizing t with
  | nil => exact ht
  | cons signal rest ih =>
    rw [run_cons]
    exact ih (hstep t signal ht)

/-- A run keeps the accord. -/
theorem Accord.run {t : Tracker} (ht : t.Accord) (signals : List Signal) :
    (t.run signals).1.Accord :=
  run_keeps (P := Accord) (fun _ signal h => (apply_move h signal).accord h) ht signals

/-! ## 2. Courses -/

/-- **How the tracking of a new task starts.** -/
inductive Start where
  | streaming (id : String) (startedAt : Timestamp) (maxReattach : Nat)
  | awaitingRestart (id : String) (startedAt : Timestamp)
  | ofInstall (id : String) (startedAt : Timestamp) (receipt : InstallReceipt)
  deriving Repr, DecidableEq

namespace Start

/-- The tracker before it begins. -/
def tracker : Start → Tracker
  | .streaming id startedAt maxReattach => Tracker.streaming (Task.new id startedAt) maxReattach
  | .awaitingRestart id startedAt => Tracker.awaitingRestart (Task.new id startedAt)
  | .ofInstall id startedAt receipt => Tracker.ofInstall (Task.new id startedAt) receipt

/-- **The tracker after its beginning and these signals.** -/
def reached (start : Start) (signals : List Signal) : Tracker :=
  (start.tracker.begin.1.run signals).1

/-- **All it has asked for until then**, its first effects included. -/
def emitted (start : Start) (signals : List Signal) : List Effect :=
  start.tracker.begin.2 ++ (start.tracker.begin.1.run signals).2

/-- A tracker that has begun is in accord with its phase. -/
theorem accord_begin (start : Start) : start.tracker.begin.1.Accord := by
  cases start with
  | streaming id startedAt maxReattach =>
    constructor <;>
      simp [tracker, Tracker.streaming, begin, Task.new, Status.final?, Status.isTerminal,
        Phase.status?, Phase.needsRestart, Phase.confirmed]
  | awaitingRestart id startedAt =>
    constructor <;>
      simp [tracker, Tracker.awaitingRestart, begin, Task.new, Status.final?,
        Status.isTerminal, Phase.status?, Phase.needsRestart, Phase.confirmed]
  | ofInstall id startedAt receipt =>
    obtain ⟨message, needRestart, autoRestart⟩ := receipt
    cases needRestart <;> cases autoRestart <;> constructor <;>
      simp [tracker, Tracker.ofInstall, Tracker.awaitingRestart, begin, Task.new, Task.push_eq,
        Status.final?, Status.isTerminal, Phase.status?, Outcome.status?, Phase.needsRestart,
        Outcome.needsRestart, Phase.confirmed]

/-- **Wherever a course leads, the tracker is in accord with its phase.** -/
theorem accord_reached (start : Start) (signals : List Signal) :
    (start.reached signals).Accord :=
  start.accord_begin.run signals

end Start

/-! ## 3. Counters -/

/-- **The counters of a tracker are in order.** -/
structure Counted (t : Tracker) : Prop where
  reattached : t.reattached ≤ t.maxReattach
  fallbackQueries : t.fallbackQueries ≤ t.reattached + 1
  /-- While the stream is attached, every question was answered by an attachment. -/
  streaming : t.phase = .streaming → t.fallbackQueries = t.reattached
  reconciling : t.phase = .reconciling → t.fallbackQueries = t.reattached + 1
  /-- As long as the task goes on there is no restart to watch. -/
  inProgress : t.phase.inProgress → t.probesStarted = 0
  probesStarted : t.probesStarted ≤ 1

/-- Once the task does not go on any more, the two phases of the stream ask for nothing. -/
theorem Counted.over {t t' : Tracker} (ht : t.Counted) (hp : t'.phase.inProgress = false)
    (hr : t'.reattached = t.reattached) (hm : t'.maxReattach = t.maxReattach)
    (hf : t'.fallbackQueries = t.fallbackQueries) (hprobes : t'.probesStarted ≤ 1) :
    t'.Counted where
  reattached := by rw [hr, hm]; exact ht.reattached
  fallbackQueries := by rw [hr, hf]; exact ht.fallbackQueries
  streaming h := by simp [h, Phase.inProgress] at hp
  reconciling h := by simp [h, Phase.inProgress] at hp
  inProgress h := by simp [h] at hp
  probesStarted := hprobes

/-- A terminal event leaves the counters in order. -/
theorem Counted.close {t : Tracker} (ht : t.Counted) (hp : t.phase.inProgress) (link : Link)
    (event : Event) : (Tracker.close { t with link } event).1.Counted := by
  unfold Tracker.close
  cases event.outcome? with
  | some outcome => exact ht.over rfl rfl rfl rfl ht.probesStarted
  | none =>
    -- this is where the one watch over a restart starts
    have hone : t.probesStarted + 1 = 1 := congrArg (· + 1) (ht.inProgress hp)
    exact ht.over rfl rfl rfl rfl (Nat.le_of_eq hone)

/-- **Every move leaves the counters in order.** -/
theorem Move.counted {t t' : Tracker} {signal : Signal} {effects : List Effect}
    (h : Move t signal t' effects) (ht : t.Counted) : t'.Counted := by
  cases h with
  | ignored | unwatched | observed | reported =>
    exact ⟨ht.reattached, ht.fallbackQueries, ht.streaming, ht.reconciling, ht.inProgress,
      ht.probesStarted⟩
  | ended h _ => exact ht.close (by rw [h]; rfl) _ _
  | reconciled h _ => exact ht.close (by rw [h]; rfl) _ _
  | lost h =>
    have heq : t.fallbackQueries + 1 = t.reattached + 1 := by rw [ht.streaming h]
    have hnone := ht.inProgress (by rw [h]; rfl)
    exact ⟨ht.reattached, Nat.le_of_eq heq, by simp, fun _ => heq, fun _ => hnone, ht.probesStarted⟩
  | attachedAgain h _ hr =>
    have heq := ht.reconciling h
    have hnone := ht.inProgress (by rw [h]; rfl)
    exact ⟨hr, Nat.le_succ_of_le (Nat.le_of_eq heq), fun _ => heq, by simp, fun _ => hnone,
      ht.probesStarted⟩
  | degraded message h _ =>
    have hnone := ht.inProgress (by rw [h]; rfl)
    exact ⟨ht.reattached, ht.fallbackQueries, by simp, by simp, fun _ => hnone,
      ht.probesStarted⟩
  | foundCancelled | graceElapsed | ready | timedOut | dismissed | cancelled =>
    exact ht.over rfl rfl rfl rfl ht.probesStarted

namespace Start

theorem counted_begin (start : Start) : start.tracker.begin.1.Counted := by
  cases start with
  | streaming id startedAt maxReattach =>
    constructor <;> simp [tracker, Tracker.streaming, begin]
  | awaitingRestart id startedAt =>
    constructor <;> simp [tracker, Tracker.awaitingRestart, begin, Phase.inProgress]
  | ofInstall id startedAt receipt =>
    obtain ⟨message, needRestart, autoRestart⟩ := receipt
    cases needRestart <;> cases autoRestart <;> constructor <;>
      simp [tracker, Tracker.ofInstall, Tracker.awaitingRestart, begin, Phase.inProgress]

/-- **Wherever a course leads, the counters are in order.** -/
theorem counted_reached (start : Start) (signals : List Signal) :
    (start.reached signals).Counted := by
  have hstep : ∀ t signal, Tracker.Accord t ∧ t.Counted →
      (t.apply signal).1.Accord ∧ (t.apply signal).1.Counted := by
    rintro t signal ⟨haccord, hcounted⟩
    have hmove := apply_move haccord signal
    exact ⟨hmove.accord haccord, hmove.counted hcounted⟩
  exact (run_keeps hstep ⟨start.accord_begin, start.counted_begin⟩ signals).2

end Start

end Tracker

end TaskWatch
