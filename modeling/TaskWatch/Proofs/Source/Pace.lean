/-
# A watch comes to its end

Nothing counts the rounds of a watch.  What ends it is that its ticks are at least a period apart
whatever the checks take: late ticks are not made up for, and the second phase starts a schedule of
its own.  So a check that has others before it begins that many periods after the start or later
(`InOrder.paced`), and no check begins when the budget is used up.

**`bounded_run`** puts this together for every watch, cancelled or not, however its checks are
answered: it ends, what is left of the budget is never less than nothing, the checks are no more than
the shorter of the two periods fits into the budget, rounded up, and one check is over before the
next one begins.
-/
import TaskWatch.Proofs.Source.Waits
import Mathlib.Algebra.Order.Floor.Div

namespace TaskWatch

namespace Probe

/-- **Checks in order are few.** -/
theorem InOrder.length_le {s : ProbeSettings} {answers : Answers} {moments : List Nat}
    (h : InOrder s answers moments) (hpace : 0 < s.pace) :
    moments.length ≤ s.budget ⌈/⌉ s.pace := by
  rw [← Nat.not_lt]
  intro hlt
  -- the first check that is too many would begin when the budget is used up
  have hpaced := h.paced _ hlt
  have hwithin := h.within _ (List.getElem_mem hlt)
  have hspent : s.budget ≤ s.pace * (s.budget ⌈/⌉ s.pace) := le_smul_ceilDiv hpace
  rw [Nat.mul_comm] at hspent
  omega

/-- A check is waited for until the budget is used up. -/
theorem Stands.deadline_eq {s : ProbeSettings} {answers : Answers} {w : Wait}
    (h : Stands s answers w) {p : Probe} {deadline : Nat}
    (hstage : w.stage = .checking p deadline) :
    p.elapsed w.since < s.budget ∧ deadline = w.since + (s.budget - p.elapsed w.since) := by
  cases h with
  | checking hp hb ho =>
    cases hstage
    rw [hp.elapsed_eq]
    simp only
    omega
  | pausing => cases hstage
  | ended => cases hstage

/-- **What bounds a watch.** -/
structure Bounded (s : ProbeSettings) (answers : Answers) (c : Cancellation) (t : Trace) :
    Prop where
  /-- It comes to its end. -/
  ends : ∃ (w : Wait) (outcome : ProbeOutcome), Waiting s answers c w ∧
    w.stage = .ended outcome ∧ t = { deeds := w.done, outcome, endedAt := w.since }
  /-- When a check begins, something of the budget is left, and the check may take so long. -/
  left : ∀ (w : Wait) (p : Probe) (deadline : Nat), Waiting s answers c w →
    w.stage = .checking p deadline →
      p.elapsed w.since < s.budget ∧ deadline = w.since + (s.budget - p.elapsed w.since)
  /-- There are at most so many checks. -/
  few : (begun t.deeds).length ≤ s.budget ⌈/⌉ min s.downInterval s.upInterval
  /-- No two of them overlap. -/
  apart : Apart answers (begun t.deeds)

/-- **Every watch is bounded**, whatever its checks take, and whenever it is cancelled. -/
theorem bounded_run (s : ProbeSettings) (answers : Answers) (c : Cancellation)
    (hdown : 0 < s.downInterval) (hup : 0 < s.upInterval) :
    Bounded s answers c (run s answers c) := by
  have hi := ProbeSettings.interval_pos hdown hup
  obtain ⟨stage, deeds, hfirst⟩ : ∃ stage deeds,
      (Stage.fresh s).poll 0 (c.any (· ≤ 0)) none = some (stage, deeds) := ⟨_, _, rfl⟩
  have hbegun : Waiting s answers c { done := deeds.map (0, ·), since := 0, stage } :=
    .begun hfirst
  obtain ⟨w, outcome, hw, hended, htrace⟩ := hbegun.ends hi
  have hrun : run s answers c = { deeds := w.done, outcome, endedAt := w.since } := by
    rw [← hbegun.trace_eq hi (Nat.le_refl _)]
    exact htrace _ (Nat.le_refl _)
  have horder : InOrder s answers (begun (run s answers c).deeds) := by
    rw [hrun]
    exact (hw.stands hi).inOrder
  constructor
  case ends => exact ⟨w, outcome, hw, hended, hrun⟩
  case left =>
    intro w p deadline h hstage
    exact (h.stands hi).deadline_eq hstage
  case few => exact horder.length_le (Nat.lt_min.mpr ⟨hdown, hup⟩)
  case apart => exact horder.apart

/-- The server is seen down at 4, so the second phase has its first tick at 11.  The check of that
tick takes longer than a period, and the one after it has no answer. -/
theorem bounded_run_of_hang :
    let s : ProbeSettings := { budget := 25, downInterval := 10, upInterval := 7 }
    let answers : Answers := fun n =>
      if n = 0 then some (4, false) else if n = 1 then some (9, false) else none
    let t := run s answers none
    (t.outcome = .timeout 25 ∧ begun t.deeds = [0, 11, 20]) ∧
      (begun t.deeds).length ≤ s.budget ⌈/⌉ min s.downInterval s.upInterval ∧
      s.budget ⌈/⌉ min s.downInterval s.upInterval = 4 ∧ Bounded s answers none t := by
  intro s answers t
  have h : Bounded s answers none t :=
    bounded_run s answers none (by decide) (by decide)
  exact ⟨by decide, h.few, by decide, h⟩

end Probe

end TaskWatch
