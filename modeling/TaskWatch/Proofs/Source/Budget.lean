/-
# How long a watch lasts

The budget bounds every check, for a check is waited for only until the budget is used up.  It does
not bound the pause behind a check: the next tick is waited for in any case, and only the round that
it starts looks at the clock again.

**`ends_of_run`** says what this comes to.  A watch that finds the server back does so within the
budget.  A watch that waits for an answer in vain ends on the budget.  But one that has an answer
and pauses ends with the tick, which may be up to a whole period late (**`run_overtime`**).

What ends a watch is decided by its last check, so the law follows the rounds to the last one.
-/
import TaskWatch.Proofs.Source.Watching

namespace TaskWatch

namespace Probe

/-- **How a watch ends, and when**, by its last check. -/
inductive Ends (s : ProbeSettings) (checks : List Check) : ProbeOutcome → Nat → Prop
  /-- The server is seen to be back, within the budget. -/
  | ready {c : Check} {m : Nat} (hc : checks.getLast? = some c) (hphase : c.phase = .awaitingUp)
      (heard : c.heard? = some (m, true)) (hm : m ≤ s.budget) : Ends s checks (.ready m) m
  /-- The check is waited for until the budget is used up. -/
  | unheard {c : Check} (hc : checks.getLast? = some c) (heard : c.heard? = none) :
      Ends s checks (.timeout s.budget) s.budget
  /-- The check is answered within the budget, and the pause behind it is not cut short. -/
  | overtime {c : Check} {answered m : Nat} {up : Bool} (hc : checks.getLast? = some c)
      (heard : c.heard? = some (answered, up)) (hup : c.phase = .awaitingUp → up = false)
      (hin : answered ≤ s.budget) (hout : s.budget ≤ m)
      (hpause : m ≤ answered + s.interval (c.phase.after up)) : Ends s checks (.timeout m) m

/-- Only the last check counts. -/
theorem Ends.cons {s : ProbeSettings} {checks : List Check} {outcome : ProbeOutcome}
    {endedAt : Nat} (h : Ends s checks outcome endedAt) (c : Check) :
    Ends s (c :: checks) outcome endedAt := by
  have hlast : ∀ {d : Check}, checks.getLast? = some d → (c :: checks).getLast? = some d := by
    intro d hd
    rw [List.getLast?_cons, hd]
    rfl
  cases h with
  | ready hc hphase heard hm => exact .ready (hlast hc) hphase heard hm
  | unheard hc heard => exact .unheard (hlast hc) heard
  | overtime hc heard hup hin hout hpause =>
    exact .overtime (hlast hc) heard hup hin hout hpause

/-- A round that starts too late is the end. -/
theorem Rounds.eq_of_spent {s : ProbeSettings} {answers : Answers} {phase : ProbePhase}
    {n now : Nat} {t : Trace} (h : Rounds s answers phase n now t) (hb : s.budget ≤ now) :
    t = { outcome := .timeout now, endedAt := now } := by
  cases h with
  | spent => rfl
  | switched hlt | unheard hlt | ready hlt | goesOn hlt => omega

/-- **Rounds that start within the budget end so.** -/
theorem Rounds.ends {s : ProbeSettings} {answers : Answers} {phase : ProbePhase} {n now : Nat}
    {t : Trace} (h : Rounds s answers phase n now t) (hb : now < s.budget) :
    Ends s (checksOf s answers phase n t.deeds) t.outcome t.endedAt := by
  induction h with
  | spent hspent => exact absurd hb (Nat.not_lt.mpr hspent)
  | switched _ _ _ ih => exact ih hb
  | unheard _ _ hr => exact .unheard rfl hr
  | ready _ hr => exact .ready rfl rfl hr (ProbeSettings.le_of_heard? hr).2
  | @goesOn phase n now m next up t _ _ hr hup _ hnext h ih =>
    rcases Nat.lt_or_ge next s.budget with hlt | hge
    · exact (ih hlt).cons _
    · -- the tick comes when the budget is used up, so this check was the last one
      rw [h.eq_of_spent hge]
      exact .overtime rfl hr hup (ProbeSettings.le_of_heard? hr).2 hge hnext

/-- **A watch that nobody cancels** ends in one of these ways. -/
theorem ends_of_run (s : ProbeSettings) (answers : Answers) (hb : 0 < s.budget)
    (hdown : 0 < s.downInterval) (hup : 0 < s.upInterval) :
    Ends s ((run s answers none).checks s answers) (run s answers none).outcome
      (run s answers none).endedAt := by
  have hi : ∀ phase, 0 < s.interval phase := by
    rintro (- | -)
    · exact hdown
    · exact hup
  obtain ⟨t, h, heq⟩ : ∃ t, Rounds s answers .awaitingDown 0 0 t ∧
      run s answers none = t.after 0 [noted s .awaitingDown 0] := rounds_run hi
  rw [heq]
  exact h.ends hb

/-- Without an answer to the second check the watch ends on the budget. -/
theorem ends_of_run_of_silence :
    let s : ProbeSettings := { budget := 25, downInterval := 10, upInterval := 10 }
    let answers : Answers := fun n => if n = 0 then some (4, true) else none
    let t := run s answers none
    (t.outcome = .timeout 25 ∧ t.endedAt = 25) ∧
      Ends s (t.checks s answers) t.outcome t.endedAt := by
  intro s answers t
  exact ⟨by decide, ends_of_run s answers (by decide) (by decide) (by decide)⟩

/-- **The budget may be overrun.**  The server is up when the watch starts and down from then on:
the checks come every second from 1 s on, the budget is 30.5 s, and the watch ends after 31 s. -/
theorem run_overtime :
    ¬ ∀ (s : ProbeSettings) (answers : Answers), 0 < s.budget → 0 < s.downInterval →
      0 < s.upInterval → (run s answers none).endedAt ≤ s.budget ∧
        ∀ m, (run s answers none).outcome = .timeout m → m = s.budget := by
  intro h
  let s : ProbeSettings := { budget := 30500, upInterval := 1000 }
  let answers : Answers := fun n => some (0, decide (n = 0))
  have hended : (run s answers none).endedAt = 31000 := by decide +kernel
  have hle := (h s answers (by decide) (by decide) (by decide)).1
  rw [hended] at hle
  exact absurd hle (by decide)

end Probe

end TaskWatch
