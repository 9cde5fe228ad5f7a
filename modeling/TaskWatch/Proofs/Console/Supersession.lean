/-
# A refresh that is not called for any more

The pages are told to refresh a while after a task has come to its end, and the run waits for that
moment as it waits for everything: until it is retired.  So what is promised when the task is
settled is kept only if no other task takes its place, and nobody clears it, before the moment.

* Who is retired stays so, and tells the pages nothing (`refreshes_of_retired`).
* **`Supersedes`**: only the first step of `start`, `install` or `clear` under the lock retires a
  run, the one that is tracked (`supersedes_of_retired`, `retired_of_supersedes`).
* A run that has settled its task, and has neither told the pages nor been retired, awaits the
  moment (`awaits_of_settled`).

**`refreshed_unless_superseded`** puts them together, and **`refresh_lost`** is a history in which
the pages of a completed task are never told.
-/
import TaskWatch.Proofs.Console.Refresh

namespace TaskWatch

/-- A call with this plan puts the tracked task away. -/
def Plan.supersedes : Plan → Bool
  | .follow _ | .followInstall _ | .wipe => true
  | .cancel | .attend => false

namespace Run

variable {settings : ConsoleSettings} {now : Nat} {r r' : Run} {acts : List Act}

/-- A run does not retire by itself. -/
theorem Step.retired_eq (h : Step settings now r r' acts) : r'.retired = r.retired := by
  cases h <;> rfl

/-- **A retired run tells the pages nothing.** -/
theorem Step.not_refreshed_of_retired (h : Step settings now r r' acts) (hr : r.retired) :
    acts.filterMap Act.refreshed? = [] := by
  rcases h.refreshed with hquiet | ⟨due, -, hr', -⟩
  · exact hquiet
  · simp [hr] at hr'

end Run

namespace Console

variable {settings : ConsoleSettings} {c c' : Console} {r : Nat} {run run' : Run} {a : Action}
  {notes : List Note}

/-! ## 1. Retired for good -/

/-- **A retired run stays retired.** -/
theorem Fate.retired (h : Fate c a r run run') (hr : run.retired) : run'.retired := by
  cases h with
  | same => exact hr
  | steps _ hs => exact (Run.step_cases hs).retired_eq.trans hr
  | hears _ hs =>
    obtain ⟨s, s', cancelled, -, -, rfl⟩ := Run.hear_cases hs
    exact hr
  | told plan => cases plan <;> first | rfl | exact hr

/-- **From then on it tells the pages nothing.** -/
theorem refreshes_of_retired (hc : c.Guarded settings) (hrun : c.runs[r]? = some run)
    (hr : run.retired) {as : List Action} (h : c.steps as = some (c', notes)) :
    refreshes r notes = [] := by
  have hkeeps := hc.keeps (P := fun c notes => (∃ run, c.runs[r]? = some run ∧ run.retired) ∧
    refreshes r notes = []) ?_ ⟨⟨run, hrun, hr⟩, rfl⟩ h
  · exact hkeeps.2
  · rintro c₁ notes a c₂ first - ⟨⟨run, hrun, hr⟩, hnone⟩ hs
    obtain ⟨run', hrun', hfate⟩ := (step_cases hs).fate hrun
    refine ⟨⟨run', hrun', hfate.retired hr⟩, ?_⟩
    rw [refreshes_append, hnone, List.nil_append]
    rcases step_notes hs r with ⟨run₀, run₁, as, -, hrun₀, hstep, -, -, hfirst⟩ | ⟨-, -, hfirst⟩
    · cases hrun.symm.trans hrun₀
      rw [hfirst, hstep.not_refreshed_of_retired hr]
    · exact hfirst

/-! ## 2. Who retires a run -/

/-- **A call puts the run away** that is tracked: `start`, `install` or `clear` has got the lock. -/
def Supersedes (c : Console) (r : Nat) (a : Action) : Prop :=
  ∃ i news plan, a = .call i news ∧ plan.supersedes ∧ c.stage? i = some (.inLine plan) ∧
    c.lock.head? = some i ∧ c.active = some r

/-- The first step under the lock. -/
theorem step_of_inLine {i : Nat} {plan : Plan} (h : c.stage? i = some (.inLine plan))
    (hl : c.lock.head? = some i) (news : Option CallNews) :
    c.step (.call i news) = some (c.takeUp i plan, []) := by
  obtain ⟨call, hcall, hstage⟩ := Option.map_eq_some_iff.mp h
  simp [step, stepCall, hcall, hstage, hl]

/-- Retiring goes by the plan. -/
theorem takeUp_runs {i : Nat} {plan : Plan} (ha : c.active = some r) :
    (plan.supersedes → (c.takeUp i plan).runs = (c.retire r).runs) ∧
      (plan = .attend → (c.takeUp i plan).runs = c.runs) := by
  constructor
  · intro hplan
    cases plan with
    | follow | followInstall | wipe => simp only [takeUp, ha, setStage]
    | cancel | attend => cases hplan
  · rintro rfl
    simp only [takeUp, ha, setStage]

/-- When one run is replaced, a run that is not as it was is that one. -/
theorem eq_of_set {r₀ : Nat} {run₀ : Run} (hrun : c.runs[r]? = some run)
    (hrun' : (c.runs.set r₀ run₀)[r]? = some run') (hne : run' ≠ run) : r₀ = r ∧ run₀ = run' := by
  by_cases heq : r₀ = r
  · subst heq
    have hlt := (List.getElem?_eq_some_iff.mp hrun).1
    rw [List.getElem?_set_self hlt] at hrun'
    exact ⟨rfl, Option.some.inj hrun'⟩
  · rw [List.getElem?_set_ne heq] at hrun'
    exact absurd (Option.some.inj (hrun'.symm.trans hrun)) hne

/-- **Nothing else retires a run.** -/
theorem supersedes_of_retired (hrun : c.runs[r]? = some run) (hr : run.retired = false)
    (hs : c.step a = some (c', notes)) (hrun' : c'.runs[r]? = some run') (hr' : run'.retired) :
    c.Supersedes r a := by
  have hne : run' ≠ run := by
    rintro rfl
    simp [hr] at hr'
  have hsame : c'.runs[r]? ≠ c.runs[r]? := fun heq =>
    hne (Option.some.inj (hrun'.symm.trans (heq.trans hrun)))
  have hstep := step_cases hs
  cases hstep with
  | runs h₀ hs₀ =>
    rw [acts_runs] at hrun'
    obtain ⟨rfl, rfl⟩ := eq_of_set hrun hrun' hne
    cases hrun.symm.trans h₀
    rw [(Run.step_cases hs₀).retired_eq, hr] at hr'
    cases hr'
  | hears h₀ hs₀ =>
    obtain ⟨rfl, rfl⟩ := eq_of_set hrun hrun' hne
    cases hrun.symm.trans h₀
    obtain ⟨s, s', cancelled, -, -, rfl⟩ := Run.hear_cases hs₀
    simp [hr] at hr'
  | tells h hl ha =>
    rename_i i r₀ news plan
    have htold : r₀ = r := by
      refine Decidable.byContradiction fun hother => hsame ?_
      simp [setStage, hother]
    subst htold
    refine ⟨i, news, plan, rfl, ?_, h, hl, ha⟩
    cases plan with
    | follow | followInstall | wipe => rfl
    | cancel =>
      have htold : run' = Plan.cancel.tell run := by simpa [setStage, hrun] using hrun'.symm
      simp [htold, Plan.tell, hr] at hr'
    | attend =>
      have heq := (step_of_inLine h hl news).symm.trans hs
      simp only [Option.some.injEq, Prod.mk.injEq] at heq
      rw [← heq.1, (takeUp_runs ha).2 rfl] at hsame
      exact absurd rfl hsame
  | tracks =>
    have hlt := (List.getElem?_eq_some_iff.mp hrun).1
    exact absurd (List.getElem?_append_left hlt) hsame
  | _ => exact absurd rfl hsame

/-- **And each of these steps does.** -/
theorem retired_of_supersedes (hrun : c.runs[r]? = some run) (h : c.Supersedes r a)
    (hs : c.step a = some (c', notes)) : ∃ run', c'.runs[r]? = some run' ∧ run'.retired := by
  obtain ⟨i, news, plan, rfl, hplan, hi, hl, ha⟩ := h
  have heq := (step_of_inLine hi hl news).symm.trans hs
  simp only [Option.some.injEq, Prod.mk.injEq] at heq
  refine ⟨{ run with retired := true }, ?_, rfl⟩
  rw [← heq.1, (takeUp_runs ha).1 hplan]
  simp [retire, hrun]

/-! ## 3. What is promised -/

/-- **A run that has settled its task** with an outcome that calls for a refresh, and has neither
told the pages nor been retired, awaits the moment. -/
theorem awaits_of_settled {wall : WallClock} {as : List Action}
    (h : (new settings wall).steps as = some (c, notes)) {o : Outcome}
    (hrun : c.runs[r]? = some run) (hp : run.tracker.phase = .settled o) (ho : o.triggersRefresh)
    (hr : run.retired = false) (hnone : refreshes r notes = []) :
    ∃ due, c.Awaits r run.tracker o due := by
  have hkeeps := (guarded_new settings wall).keeps
    (P := fun c notes => ∀ run, c.runs[r]? = some run → run.tracker.phase = .settled o →
      run.retired = false → refreshes r notes = [] → ∃ due, c.Awaits r run.tracker o due)
    ?_ (fun run hrun => by simp [new] at hrun) h
  · exact hkeeps run hrun hp hr hnone
  · rintro c₁ notes a c₂ first hc hawaits hs run' hrun' hp' hr' hnone
    rw [refreshes_append, List.append_eq_nil_iff] at hnone
    by_cases hsettled : c₁.SettledRun r
    · obtain ⟨run, hrun, hp⟩ := hsettled
      obtain ⟨run₂, hrun₂, hfate⟩ := (step_cases hs).fate hrun
      cases hrun'.symm.trans hrun₂
      have hsame := hfate.tracker_of_isSettled hp
      rw [hsame] at hp' ⊢
      have hr : run.retired = false :=
        Bool.eq_false_iff.mpr fun hr => by simp [hfate.retired hr] at hr'
      obtain ⟨due, hdue⟩ := hawaits run hrun hp' hr hnone.1
      rcases hdue.step hc hp' ho hs with ⟨-, -, hgoes⟩ | ⟨hone, -⟩
      · exact ⟨due, hgoes fun run₃ hrun₃ => by cases hrun'.symm.trans hrun₃; exact hr'⟩
      · simp [hnone.2] at hone
    · have hworks := worksOff_of_settling hc hs hsettled hrun' hp'
      exact ⟨_, run', hrun', rfl, hr', .inl ⟨hworks, rfl⟩⟩

/-- **What has become of the refresh** for a task that has come to its end. -/
inductive Promised (c : Console) (r : Nat) (run : Run) (notes : List Note) : Prop
  /-- The pages were told. -/
  | kept (hone : refreshes r notes = [run.tracker.task])
  /-- They will be, once the moment is over, as long as the run is not retired before. -/
  | owed {due : Nat} (hnone : refreshes r notes = []) (hr : run.retired = false)
      (hnow : c.now ≤ due) (hdue : ∀ more c' later, c.steps more = some (c', later) →
        unretiredUntil r due c more →
          (refreshes r later = [] ∧ c'.now ≤ due) ∨
            (refreshes r later = [run.tracker.task] ∧ due ≤ c'.now))
  /-- They never will be. -/
  | lost (hnone : refreshes r notes = []) (hr : run.retired)
      (hnever : ∀ more c' later, c.steps more = some (c', later) → refreshes r later = [])

/-- **A refresh is lost only when the task is superseded.**  Of a task that has completed or
failed, or whose restart is confirmed, the pages have been told once, or they are told at the
moment, or the run was retired before.  A step retires it if and only if it is the first one of
`start`, `install` or `clear` under the lock, with this run tracked. -/
theorem refreshed_unless_superseded {wall : WallClock} {as : List Action}
    (h : (new settings wall).steps as = some (c, notes)) (hrun : c.runs[r]? = some run)
    {o : Outcome} (hp : run.tracker.phase = .settled o)
    (ho : o = .completed ∨ (∃ message, o = .failed message) ∨ o = .restartConfirmed) :
    c.Promised r run notes ∧
      ∀ a c' first, run.retired = false → c.step a = some (c', first) →
        ((∃ run', c'.runs[r]? = some run' ∧ run'.retired) ↔ c.Supersedes r a) := by
  refine ⟨?_, fun a c' first hr hs =>
    ⟨fun ⟨run', hrun', hr'⟩ => supersedes_of_retired hrun hr hs hrun' hr',
      fun hsupersedes => retired_of_supersedes hrun hsupersedes hs⟩⟩
  have hc := guarded_of_reachable ⟨as, notes, h⟩
  rw [← Outcome.triggersRefresh_iff] at ho
  rcases accounted_of_steps h r with hnone | ⟨run₀, -, hrun₀, -, -, -, hone⟩
  · cases hr : run.retired with
    | true => exact .lost hnone hr fun more c' later => refreshes_of_retired hc hrun hr
    | false =>
      obtain ⟨due, hawaits⟩ := awaits_of_settled h hrun hp ho hr hnone
      refine .owed hnone hr hawaits.now_le fun more c' later hmore hunretired => ?_
      refine (hawaits.steps hc hp ho hmore hunretired).imp_left fun ⟨hnone', hawaits'⟩ => ?_
      exact ⟨hnone', hawaits'.now_le⟩
  · cases hrun.symm.trans hrun₀
    exact .kept hone

/-- A package is in place, and the run of its task lingers, when a client clears it: with its first
step under the lock the call supersedes the task. -/
theorem refreshed_unless_superseded_of_clear :
    let actions : List Action :=
      [.invoke (.install ⟨"a.zip", []⟩), .call 0 none, .call 0 (some (.installed (.ok {}))),
        .call 0 none, .run 0, .run 0, .invoke .clear, .call 1 none]
    ∃ c notes run c', (new {} ⟨"", "7"⟩).steps actions = some (c, notes) ∧
      c.runs[0]? = some run ∧ run.tracker.phase = .settled .completed ∧ run.retired = false ∧
      c.step (.call 1 none) = some (c', []) ∧ c.Promised 0 run notes ∧
      c.Supersedes 0 (.call 1 none) := by
  intro actions
  have h : (new {} ⟨"", "7"⟩).steps actions = some (_, _) := rfl
  obtain ⟨hpromised, hretired⟩ := refreshed_unless_superseded h (r := 0) rfl rfl (.inl rfl)
  exact ⟨_, _, _, _, h, rfl, rfl, rfl, rfl, hpromised, (hretired _ _ _ rfl rfl).mp ⟨_, rfl, rfl⟩⟩

/-- **The moment may not come.**  The call has put the completed task away before the pages were
told, and they never will be. -/
theorem refresh_lost :
    let actions : List Action :=
      [.invoke (.install ⟨"a.zip", []⟩), .call 0 none, .call 0 (some (.installed (.ok {}))),
        .call 0 none, .run 0, .run 0, .invoke .clear, .call 1 none, .call 1 none, .run 0,
        .call 1 none]
    ∃ c notes run, (new {} ⟨"", "7"⟩).steps actions = some (c, notes) ∧
      c.runs[0]? = some run ∧ run.tracker.phase = .settled .completed ∧
      c.stage? 1 = some (.done .cleared) ∧
      ∀ more c' later, c.steps more = some (c', later) → refreshes 0 (notes ++ later) = [] := by
  intro actions
  have h : (new {} ⟨"", "7"⟩).steps actions = some (_, _) := rfl
  refine ⟨_, _, _, h, rfl, rfl, rfl, fun more c' later hmore => ?_⟩
  rw [refreshes_append, refreshes_of_retired (guarded_of_reachable ⟨_, _, h⟩) rfl rfl hmore]
  rfl

end Console

end TaskWatch
