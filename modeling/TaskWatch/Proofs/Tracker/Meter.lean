/-
# How far a task has come

The meter of a record is its two counters and its percentage (`Task.meter`).  Three kinds of
events move a counter, each with a condition of its own on zero, and so does completion.
Whoever moves a counter brings the percentage in line with it (`Task.InLine.observe`,
`Task.InLine.close`), so it is never stale, wherever a course leads (**`metered_reached`**):

* until the task is completed it is the share of `total` that `current` makes up, rounded
  down, and it is 100 only when all of a positive total is done;
* a completed task stands at 100, with both counters equal unless there is nothing to count;
* a failure and a cancellation leave the meter where it was, and so does all that follows.

The record has the share in exact arithmetic.  `Task.percentWord` is the same computation in
words: the product in 128 bits, and the quotient cut to a byte.  Nothing overflows on the
way, and nothing is cut off (`Task.toNat_percentWord`).
-/
import TaskWatch.Proofs.Tracker.Finality

namespace TaskWatch

namespace Task

/-! ## 1. The share, exact and in words -/

theorem percentOf_zero (current : UInt64) : percentOf current 0 = 0 := by
  rw [percentOf, if_pos rfl]

/-- **A positive total** makes the share a quotient, rounded down. -/
theorem percentOf_of_pos (current : UInt64) {total : UInt64} (h : 0 < total) :
    percentOf current total = 100 * min current.toNat total.toNat / total.toNat := by
  rw [percentOf, if_neg (UInt64.pos_iff_ne_zero.mp h), Nat.mul_comm]

/-- **The share is full** when a positive total is reached, and only then. -/
theorem percentOf_eq_hundred_iff (current total : UInt64) :
    percentOf current total = 100 ↔ 0 < total ∧ total ≤ current := by
  by_cases hz : total = 0
  · subst hz
    rw [percentOf_zero]
    simp
  · have hpos : 0 < total := UInt64.pos_iff_ne_zero.mpr hz
    have hnat : 0 < total.toNat := UInt64.lt_iff_toNat_lt.mp hpos
    rw [percentOf_of_pos current hpos, UInt64.le_iff_toNat_le, Nat.div_eq_iff hnat]
    constructor
    · intro h
      refine ⟨hpos, ?_⟩
      omega
    · rintro ⟨-, hle⟩
      rw [Nat.min_eq_right hle]
      omega

/-- A counter in 128 bits. -/
def wide (n : UInt64) : BitVec 128 :=
  n.toBitVec.setWidth 128

/-- **The share in words.**  All arithmetic wraps around, and the quotient is cut to a
byte. -/
def percentWord (current total : UInt64) : UInt8 :=
  if total = 0 then 0
  else .ofBitVec ((wide (min current total) * 100 / wide total).setWidth 8)

theorem toNat_wide (n : UInt64) : (wide n).toNat = n.toNat := by
  have := n.toNat_lt
  simp only [wide, BitVec.toNat_setWidth, UInt64.toNat_toBitVec]
  omega

/-- **The product fits** into 128 bits, however large the counter is. -/
theorem not_umulOverflow_wide (n : UInt64) : (wide n).umulOverflow 100 = false := by
  have := n.toNat_lt
  rw [BitVec.umulOverflow, decide_eq_false_iff_not, toNat_wide]
  simp only [BitVec.ofNat_eq_ofNat, BitVec.toNat_ofNat]
  omega

theorem toNat_min (a b : UInt64) : (min a b).toNat = min a.toNat b.toNat := by
  have hmin : min a b = if a ≤ b then a else b := rfl
  rw [hmin, Nat.min_def, apply_ite UInt64.toNat]
  rfl

/-- **The words say the exact share.** -/
theorem toNat_percentWord (current total : UInt64) :
    (percentWord current total).toNat = percentOf current total := by
  have hle : percentOf current total ≤ 100 := percentOf_le current total
  unfold percentWord
  unfold percentOf at hle ⊢
  split
  · rfl
  · rename_i hz
    rw [if_neg hz] at hle
    have hmul : ¬ (wide (min current total)).umulOverflow 100 := by
      rw [not_umulOverflow_wide]
      simp
    rw [UInt8.toNat_ofBitVec, BitVec.toNat_setWidth, BitVec.toNat_udiv,
      BitVec.toNat_mul_of_not_umulOverflow hmul, toNat_wide, toNat_wide, toNat_min]
    exact Nat.mod_eq_of_lt (Nat.lt_of_le_of_lt hle (by decide))

/-! ## 2. Who writes the meter -/

/-- **The meter** of a record. -/
def meter (t : Task) : UInt64 × UInt64 × Nat :=
  (t.current, t.total, t.percent)

@[simp] theorem meter_push (t : Task) (message : String) : (t.push message).meter = t.meter := by
  rw [push_eq]
  rfl

@[simp] theorem meter_started (t : Task) : t.started.meter = t.meter := rfl

/-- The record of a task that has ended keeps its meter. -/
theorem Frozen.meter_eq {t u : Task} (h : t.Frozen u) : u.meter = t.meter := by
  rw [h]
  rfl

/-- A terminal event that does not complete the task leaves the meter alone. -/
theorem meter_close {t : Task} {event : Event} (h : (t.close event).status ≠ .completed) :
    (t.close event).meter = t.meter := by
  cases event with
  | complete | restart | done => exact absurd rfl h
  | error message => exact meter_push { t with status := .failed } message
  | _ => rfl

/-- **A percentage in line with its counters**, for a task that goes on or was broken off,
and for a completed one. -/
structure InLine (t : Task) : Prop where
  share : t.status ≠ .completed → t.percent = percentOf t.current t.total
  completed : t.status = .completed → t.percent = 100 ∧ (0 < t.total → t.current = t.total)

/-- What is in line stays so under the same meter, if it stays completed or stays not so. -/
theorem InLine.congr {t u : Task} (h : t.InLine) (hm : u.meter = t.meter)
    (hs : u.status = .completed ↔ t.status = .completed) : u.InLine := by
  obtain ⟨hcurrent, htotal, hpercent⟩ : u.current = t.current ∧ u.total = t.total ∧
      u.percent = t.percent := by simpa [meter] using hm
  constructor
  · intro hne
    rw [hcurrent, htotal, hpercent]
    exact h.share (fun heq => hne (hs.mpr heq))
  · intro heq
    rw [hcurrent, htotal, hpercent]
    exact h.completed (hs.mp heq)

/-- A percentage that was just computed is in line. -/
theorem inLine_recomputePercent {t : Task} (hs : t.status ≠ .completed) :
    t.recomputePercent.InLine := by
  constructor
  · intro _
    rfl
  · intro heq
    exact absurd heq hs

@[simp] theorem inLine_push {t : Task} {message : String} :
    (t.push message).InLine ↔ t.InLine := by
  have hs : (t.push message).status = .completed ↔ t.status = .completed := by rw [push_eq]
  constructor
  · intro h
    exact h.congr (meter_push t message).symm hs.symm
  · intro h
    exact h.congr (meter_push t message) hs

/-- **Progress keeps the percentage in line**: it is computed anew with every counter. -/
theorem InLine.observe {t : Task} (h : t.InLine) (hs : t.status ≠ .completed) (event : Event) :
    (t.observe event).InLine := by
  cases event with
  | info message | containerRestartRequired message =>
    rw [Task.observe, inLine_push]
    exact h
  | total total message =>
    rw [Task.observe, inLine_push]
    exact inLine_recomputePercent hs
  | compareResult toDownload unchanged message =>
    rw [Task.observe, inLine_push]
    split
    · exact inLine_recomputePercent hs
    · exact h
  | progress current total filename message =>
    have hnew : ({ t with current, total := if total > 0 then total else t.total } :
        Task).recomputePercent.InLine := inLine_recomputePercent hs
    rw [Task.observe]
    split
    · exact inLine_push.mpr hnew
    · split
      · exact inLine_push.mpr hnew
      · exact hnew
  | success filename message | skip filename message | skipHash filename message
  | failed filename message =>
    -- these move the tally, which no meter shows
    rw [Task.observe, inLine_push]
    exact h.congr rfl Iff.rfl
  | complete | restart | done | error | unknown => exact h

/-- All of a completed task is done. -/
theorem inLine_completed (t : Task) : t.completed.InLine := by
  constructor
  · intro hne
    exact absurd rfl hne
  · intro _
    refine ⟨rfl, ?_⟩
    intro hpos
    exact if_pos hpos

/-- **A terminal event keeps the percentage in line.** -/
theorem InLine.close {t : Task} (h : t.InLine) (hs : t.status ≠ .completed) (event : Event) :
    (t.close event).InLine := by
  cases event with
  | complete | restart | done => exact inLine_completed _
  | error message =>
    rw [Task.close, inLine_push]
    exact h.congr rfl (by simp [hs])
  | _ => exact h

end Task

namespace Tracker

/-! ## 3. What a move preserves -/

/-- A task in progress is not completed. -/
theorem Accord.not_completed {t : Tracker} (ht : t.Accord) (hp : t.phase.inProgress) :
    t.task.status ≠ .completed := by
  intro heq
  have hopen := ht.not_isTerminal hp
  rw [heq] at hopen
  cases hopen

/-- **Every move keeps the percentage in line.** -/
theorem Move.inLine {t t' : Tracker} {signal : Signal} {effects : List Effect}
    (h : Move t signal t' effects) (ht : t.Accord) (hm : t.task.InLine) : t'.task.InLine := by
  cases h with
  | ignored | lost | attachedAgain | reported | unwatched | dismissed => exact hm
  | observed h he =>
    have hopen := ht.not_completed (by rw [h]; rfl)
    have hstarted : t.task.started.status ≠ .completed := by
      rw [Task.started]
      split
      · simp
      · exact hopen
    refine Task.InLine.observe (hm.congr (Task.meter_started _) ?_) hstarted _
    simp [hopen, hstarted]
  | ended h he | reconciled h he =>
    rw [close_task]
    exact hm.close (ht.not_completed (by rw [h]; rfl)) _
  | foundCancelled h hs =>
    have hopen := ht.not_completed (by rw [h]; rfl)
    exact Task.inLine_push.mpr (hm.congr rfl (by simp [hopen]))
  | cancelled message h =>
    have hopen := ht.not_completed h
    exact Task.inLine_push.mpr (hm.congr rfl (by simp [hopen]))
  | ready message h => exact Task.inLine_push.mpr (hm.congr rfl Iff.rfl)
  | degraded | graceElapsed | timedOut => exact Task.inLine_push.mpr hm

/-- **A move that breaks the task off leaves the meter alone.** -/
theorem Move.meter_eq {t t' : Tracker} {signal : Signal} {effects : List Effect}
    (h : Move t signal t' effects) (ht : t.Accord)
    (hs : t'.task.status = .failed ∨ t'.task.status = .cancelled) :
    t'.task.meter = t.task.meter := by
  have hne : t'.task.status ≠ .completed := by
    rcases hs with hs | hs <;> simp [hs]
  have hterminal : t'.task.status.isTerminal := by
    rcases hs with hs | hs <;> rw [hs] <;> rfl
  cases h with
  | ignored | lost | attachedAgain | reported | unwatched | dismissed => rfl
  | observed h he =>
    -- progress never ends a task
    have hopen := ht.not_isTerminal (by rw [h]; rfl)
    rw [Task.observe_status] at hterminal
    cases hq : t.task.status <;> simp_all [Task.started, Status.isTerminal]
  | ended h he | reconciled h he =>
    rw [close_task] at hne ⊢
    exact Task.meter_close hne
  | foundCancelled | cancelled | ready => exact Task.meter_push _ _
  | degraded | graceElapsed | timedOut => exact Task.meter_push _ _

/-! ## 4. Wherever a course leads -/

/-- A new record is in line, and so is that of a package that was installed. -/
theorem Start.inLine_begin (start : Start) : start.tracker.begin.1.task.InLine := by
  cases start with
  | streaming id startedAt maxReattach =>
    constructor <;> simp [tracker, Tracker.streaming, begin, Task.new, Task.percentOf_zero]
  | awaitingRestart id startedAt =>
    constructor <;> simp [tracker, Tracker.awaitingRestart, begin, Task.new]
  | ofInstall id startedAt receipt =>
    obtain ⟨message, needRestart, autoRestart⟩ := receipt
    cases needRestart <;> cases autoRestart <;> constructor <;>
      simp [tracker, Tracker.ofInstall, Tracker.awaitingRestart, begin, Task.new, Task.push_eq]

/-- **Wherever a course leads, the percentage is in line with its counters.** -/
theorem Start.inLine_reached (start : Start) (signals : List Signal) :
    (start.reached signals).task.InLine := by
  have hkeeps : ∀ (t : Tracker) (signal : Signal), (t.Accord ∧ t.task.InLine) →
      ((t.apply signal).1.Accord ∧ (t.apply signal).1.task.InLine) := by
    intro t signal ⟨ht, hm⟩
    have hmove := apply_move ht signal
    exact ⟨hmove.accord ht, hmove.inLine ht hm⟩
  exact (run_keeps hkeeps ⟨start.accord_begin, start.inLine_begin⟩ signals).2

end Tracker

/-- **What the meter of a record shows.** -/
structure Task.Metered (t : Task) : Prop where
  idle : t.status ≠ .completed → t.total = 0 → t.percent = 0
  share : t.status ≠ .completed → 0 < t.total →
    t.percent = 100 * min t.current.toNat t.total.toNat / t.total.toNat
  /-- Computing it in words overflows nowhere and cuts nothing off. -/
  words : t.status ≠ .completed →
    (Task.wide (min t.current t.total)).umulOverflow 100 = false ∧
      (Task.percentWord t.current t.total).toNat = t.percent
  full : t.status ≠ .completed → t.percent = 100 → 0 < t.total ∧ t.total ≤ t.current
  completed : t.status = .completed → t.percent = 100 ∧ (0 < t.total → t.current = t.total)
  le : t.percent ≤ 100

/-- A record in line shows all of that. -/
theorem Task.InLine.metered {t : Task} (h : t.InLine) : t.Metered := by
  constructor
  case idle =>
    intro hs hz
    rw [h.share hs, hz]
    exact percentOf_zero _
  case share =>
    intro hs hpos
    rw [h.share hs]
    exact percentOf_of_pos _ hpos
  case words =>
    intro hs
    rw [h.share hs]
    exact ⟨not_umulOverflow_wide _, toNat_percentWord _ _⟩
  case full =>
    intro hs hfull
    rw [h.share hs] at hfull
    exact (percentOf_eq_hundred_iff _ _).mp hfull
  case completed => exact h.completed
  case le =>
    by_cases hs : t.status = .completed
    · exact Nat.le_of_eq (h.completed hs).1
    · rw [h.share hs]
      exact percentOf_le _ _

namespace Tracker

/-- **The meter is right in every state**, and when the task fails or is cancelled it keeps
what it showed, for good. -/
theorem metered_reached (start : Start) (before : List Signal) :
    let t := start.reached before
    t.task.Metered ∧
      ∀ signal,
        let u := (t.apply signal).1
        u.task.status = .failed ∨ u.task.status = .cancelled →
          u.task.meter = t.task.meter ∧ ∀ after, (u.run after).1.task.meter = t.task.meter := by
  intro t
  have ht : t.Accord := start.accord_reached before
  refine ⟨(start.inLine_reached before).metered, ?_⟩
  intro signal u hs
  have hmove : Move t signal u (t.apply signal).2 := apply_move ht signal
  have hmeter : u.task.meter = t.task.meter := hmove.meter_eq ht hs
  refine ⟨hmeter, ?_⟩
  intro after
  have hterminal : u.task.status.isTerminal := by
    rcases hs with hs | hs <;> rw [hs] <;> rfl
  rw [((hmove.accord ht).frozen_run hterminal after).meter_eq, hmeter]

/-- Counters as large as they get: half of it is 49 percent, since the half is rounded down,
and that is what stays after a cancellation, whatever the stream still says. -/
theorem metered_reached_of_cancel :
    let progress : Signal := .stream (.progress 9223372036854775807 18446744073709551615 "" "")
    let t := (Start.streaming "a" "" 1).reached [progress]
    let u := (t.apply .cancel).1
    t.task.percent = 49 ∧ u.task.status = .cancelled ∧
      (u.run [.stream (.total 1 ""), progress]).1.task.meter =
        (9223372036854775807, 18446744073709551615, 49) := by
  intro progress t u
  have hcancelled : u.task.status = .cancelled := by decide
  have hmeter : t.task.meter = (9223372036854775807, 18446744073709551615, 49) := by decide
  have hkept := ((metered_reached (.streaming "a" "" 1) [progress]).2 .cancel
    (.inr hcancelled)).2 [.stream (.total 1 ""), progress]
  exact ⟨congrArg (fun m => m.2.2) hmeter, hcancelled, hkept.trans hmeter⟩

end Tracker

end TaskWatch
