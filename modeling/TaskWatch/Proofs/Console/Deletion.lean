/-
# Clearing a task that is settled

A deletion looks at the picture first: without a task it is refused, and so it is while a
task is in progress.  Only then does it get in line for the lock, and there it does not look
again.

* **`deleted_settled`**: what it looked at stays settled.  As long as no new task is tracked
  between the look and a later step of the call, that step puts away a settled run, or none,
  and the picture is a settled one.
* **`deleted_in_progress`**: the condition is needed.  A call that is ahead in line may track
  a new task after the look, and the deletion puts that one away.
-/
import TaskWatch.Proofs.Console.Lock

namespace TaskWatch

/-- The picture of a tracker is a settled one when the tracker is. -/
theorem Tracker.isSettled_view (t : Tracker) : t.view.isSettled = t.phase.isSettled := by
  cases hp : t.phase <;> simp [view, View.isSettled, phaseView, Phase.isSettled, hp]

namespace Console

variable {settings : ConsoleSettings} {c c' : Console}

/-! ## 1. Settled runs -/

/-- The task of a run is settled. -/
def SettledRun (c : Console) (r : Nat) : Prop :=
  ∃ run, c.runs[r]? = some run ∧ run.tracker.phase.isSettled

/-- **What is settled stays settled.** -/
theorem SettledRun.step {r : Nat} {a : Action} {notes : List Note} (hr : c.SettledRun r)
    (h : Step c a c' notes) : c'.SettledRun r := by
  obtain ⟨run, hrun, hp⟩ := hr
  obtain ⟨run', hrun', hfate⟩ := h.fate hrun
  exact ⟨run', hrun', by rw [hfate.tracker_of_isSettled hp]; exact hp⟩

theorem SettledRun.steps {r : Nat} {as : List Action} {notes : List Note} (hr : c.SettledRun r)
    (h : c.steps as = some (c', notes)) : c'.SettledRun r :=
  steps_keeps (P := (SettledRun · r)) (fun _ _ _ _ hr hstep => hr.step hstep) hr h

/-- A settled picture of a task is that of the last run, which is settled. -/
theorem Guarded.settledRun (hc : c.Guarded settings) (ht : c.view.task.isSome)
    (hs : c.view.isSettled) : ∃ r, r + 1 = c.runs.length ∧ c.SettledRun r := by
  rcases hc.view with hempty | ⟨r, run, hlast, hrun, hview⟩
  · rw [hempty] at ht
    cases ht
  · rw [hview, Tracker.isSettled_view] at hs
    exact ⟨r, hlast, run, hrun, hs⟩

/-- With the last run settled, the picture is a settled one. -/
theorem SettledRun.isSettled_view (hc : c.Guarded settings) {r : Nat} (hr : c.SettledRun r)
    (hlast : r + 1 = c.runs.length) : c.view.isSettled := by
  rcases hc.view with hempty | ⟨r', run, hlast', hrun, hview⟩
  · rw [hempty]
    rfl
  · obtain ⟨run', hrun', hp⟩ := hr
    obtain rfl : r' = r := by omega
    cases hrun.symm.trans hrun'
    rw [hview, Tracker.isSettled_view]
    exact hp

/-- **With the last run settled, a call puts away no run that is not.** -/
theorem SettledRun.isSettled_changed (hc : c.Guarded settings) {r : Nat} (hr : c.SettledRun r)
    (hlast : r + 1 = c.runs.length) {i : Nat} {news : Option CallNews} {notes : List Note}
    (h : Step c (.call i news) c' notes) {r' : Nat} {run : Run} (hrun : c.runs[r']? = some run)
    (hne : c'.runs[r']? ≠ some run) : run.tracker.phase.isSettled := by
  have hlt := (List.getElem?_eq_some_iff.mp hrun).1
  obtain ⟨hactive, -⟩ := h.told_of_changed hlt (by rw [hrun]; exact hne)
  have hlast' := hc.last r' (.inl hactive)
  obtain rfl : r' = r := by omega
  obtain ⟨run', hrun', hp⟩ := hr
  cases hrun.symm.trans hrun'
  exact hp

/-! ## 2. Deletions -/

/-- The first step of a deletion is its look. -/
theorem stepCall_delete {i : Nat} (hi : c.calls[i]? = some { operation := .delete })
    (news : Option CallNews) : c.step (.call i news) = some (c.begin i .delete) := by
  simp [step, stepCall, hi]

/-- **What a deletion sees** when it looks: no task, a task in progress, or a settled one. -/
theorem begin_delete_cases (c : Console) (i : Nat) :
    (c.view.task.isNone ∧
      c.begin i .delete = (c.setStage i (.done (.refused .noActiveTask)), [])) ∨
    (c.view.task.isSome ∧ c.view.isSettled = false ∧
      c.begin i .delete = (c.setStage i (.done (.refused .taskInProgress)), [])) ∨
    (c.view.task.isSome ∧ c.view.isSettled ∧ c.begin i .delete = (c.enqueue i .wipe, [])) := by
  cases ht : c.view.task with
  | none => exact .inl ⟨rfl, by simp [begin, ht]⟩
  | some task =>
    cases hs : c.view.isSettled with
    | false => exact .inr (.inl ⟨rfl, rfl, by simp [begin, ht, hs]⟩)
    | true => exact .inr (.inr ⟨rfl, rfl, by simp [begin, ht, hs]⟩)

/-- A call that is done takes no step any more. -/
theorem step_of_done {i : Nat} {reply : Reply} (h : c.stage? i = some (.done reply))
    (news : Option CallNews) : c.step (.call i news) = none := by
  obtain ⟨call, hcall, hstage⟩ := Option.map_eq_some_iff.mp h
  simp [step, stepCall, hcall, hstage]

/-- **A deletion puts away what is settled**, as long as no new task is tracked after its
look; and while a task is in progress it is refused, and that is all. -/
theorem deleted_settled {wall : WallClock} (h : Reachable settings wall c) {i : Nat}
    (hi : c.calls[i]? = some { operation := .delete }) :
    (c.view.task.isNone → ∀ news, c.step (.call i news) =
      some (c.setStage i (.done (.refused .noActiveTask)), [])) ∧
    (c.view.task.isSome → c.view.isSettled = false → ∀ news, c.step (.call i news) =
      some (c.setStage i (.done (.refused .taskInProgress)), [])) ∧
    ∀ news c₁ first, c.step (.call i news) = some (c₁, first) →
      ∀ as c₂ notes, c₁.steps as = some (c₂, notes) → c₂.runs.length = c.runs.length →
        ∀ news' c₃ last, c₂.step (.call i news') = some (c₃, last) →
          c₂.view.isSettled ∧
            ∀ (r : Nat) run, c₂.runs[r]? = some run → c₃.runs[r]? ≠ some run →
              run.tracker.phase.isSettled := by
  have hc := guarded_of_reachable h
  have hfresh : c.stage? i = some .fresh := by simp [stage?, hi]
  have hlook := begin_delete_cases c i
  refine ⟨fun ht news => ?_, fun ht hs news => ?_, ?_⟩
  · rcases hlook with ⟨-, heq⟩ | ⟨ht', -⟩ | ⟨ht', -⟩
    · rw [stepCall_delete hi, heq]
    · simp [Option.isNone_iff_eq_none.mp ht] at ht'
    · simp [Option.isNone_iff_eq_none.mp ht] at ht'
  · rcases hlook with ⟨ht', -⟩ | ⟨-, -, heq⟩ | ⟨-, hs', -⟩
    · simp [Option.isNone_iff_eq_none.mp ht'] at ht
    · rw [stepCall_delete hi, heq]
    · simp [hs] at hs'
  · intro news c₁ first hfirst as c₂ notes has hlength news' c₃ last hlast
    -- a deletion that was refused takes no further step
    have hrefused : ∀ e, c₁ = c.setStage i (.done (.refused e)) → False := by
      rintro e rfl
      have hdone := stage?_done_steps has (stage?_setStage_self hfresh (.done (.refused e)))
      rw [step_of_done hdone] at hlast
      cases hlast
    have hstep := step_cases hfirst
    rw [stepCall_delete hi] at hfirst
    rcases hlook with ⟨-, heq⟩ | ⟨-, -, heq⟩ | ⟨ht, hs, -⟩
    · rw [heq] at hfirst
      cases hfirst
      exact (hrefused _ rfl).elim
    · rw [heq] at hfirst
      cases hfirst
      exact (hrefused _ rfl).elim
    · obtain ⟨r, hr, hsettled⟩ := hc.settledRun ht hs
      have hc₂ := (hstep.guarded hc).steps has
      have hsettled₂ := (hsettled.step hstep).steps has
      have hlast₂ : r + 1 = c₂.runs.length := by omega
      exact ⟨hsettled₂.isSettled_view hc₂ hlast₂, fun r' run hrun hne =>
        hsettled₂.isSettled_changed hc₂ hlast₂ (step_cases hlast) hrun hne⟩

/-- A task that was installed without a restart is settled, and its run lingers when it is
deleted. -/
theorem deleted_settled_of_install :
    let actions : List Action :=
      [.invoke (.install ⟨"a.zip", []⟩), .call 0 none, .call 0 (some (.installed (.ok {}))),
        .call 0 none, .run 0, .run 0, .invoke .delete]
    ∃ c notes c₁ c₂ run, (new {} ⟨"", "7"⟩).steps actions = some (c, notes) ∧
      c.step (.call 1 none) = some (c₁, []) ∧ c₁.step (.call 1 none) = some (c₂, []) ∧
      c₁.runs[0]? = some run ∧ c₂.active = none ∧ c₁.view.isSettled ∧
      run.tracker.phase.isSettled := by
  intro actions
  have h : (new {} ⟨"", "7"⟩).steps actions = some (_, _) := rfl
  obtain ⟨-, -, hsettled⟩ := deleted_settled ⟨actions, _, h⟩ (i := 1) rfl
  obtain ⟨hview, hrun⟩ := hsettled none _ _ rfl [] _ _ rfl rfl none _ _ rfl
  refine ⟨_, _, _, _, _, h, rfl, rfl, rfl, rfl, hview, hrun 0 _ rfl fun heq => ?_⟩
  -- the run is retired by the last of these steps
  have hretired := congrArg (Option.map Run.retired) heq
  cases hretired

/-- **The look does not hold the lock.**  A package is in place, its task is settled, and the
second installation is ahead in line when the deletion looks.  So the deletion retires the run
that watches the restart after the second installation, and wipes its picture. -/
theorem deleted_in_progress :
    let receipt : InstallReceipt := { needRestart := true, autoRestart := true }
    let actions : List Action :=
      [.invoke (.install ⟨"a.zip", []⟩), .call 0 none, .call 0 (some (.installed (.ok {}))),
        .call 0 none, .run 0, .run 0,
        .invoke (.install ⟨"b.zip", []⟩), .call 1 none, .call 1 (some (.installed (.ok receipt))),
        .invoke .delete, .call 2 none,
        .call 1 none, .run 0, .call 1 none, .run 1, .run 1]
    ∃ c notes c₁ c₂ more, (new {} ⟨"", "7"⟩).steps actions = some (c, notes) ∧
      c.stage? 1 = some (.done (.installed receipt)) ∧ c.active = some 1 ∧
      c.view.phase = .awaitingRestart ∧ c.calls[2]?.map Call.operation = some .delete ∧
      c.step (.call 2 none) = some (c₁, []) ∧ c₁.runs[1]?.map Run.retired = some true ∧
      c₁.steps [.run 1, .run 1, .source 1 none, .run 1, .run 1, .call 2 none] = some (c₂, more) ∧
      c₂.stage? 2 = some (.done .cleared) ∧ c₂.view = .empty := by
  intro receipt actions
  exact ⟨_, _, _, _, _, rfl, rfl, rfl, rfl, rfl, rfl, rfl, rfl, rfl, rfl⟩

end Console

end TaskWatch
