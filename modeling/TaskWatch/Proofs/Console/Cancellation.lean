/-
# Cancelling

A cancellation is one more signal in the queue of the run that is tracked, and the call that
sent it waits for the end of that run.  Whatever the run is in the middle of, the signal
settles its task in the one step in which it is heard (`Accord.cancels`), and from there on
the run only works that off (**`Cancelling`**).  Nobody else has a say in the meantime: the
call holds the lock, and no step that is left needs any news.

**`cancelled_at_once`** says what the user, the server and the pages see of it.
-/
import TaskWatch.Proofs.Console.Refresh

namespace TaskWatch

/-! ## 1. The signal -/

namespace Tracker

/-- **What a cancellation makes of a task** that is not settled, and the tasks that the server
has to be told to stop. -/
inductive Cancels (t t' : Tracker) : List String → Prop
  /-- A task in progress is cancelled. -/
  | stopped (hp : t.phase.inProgress) (hs : t.task.status = .pending ∨ t.task.status = .running)
      (hp' : t'.phase = .settled .cancelled) (hs' : t'.task.status = .cancelled) :
      Cancels t t' [t.task.id]
  /-- A completed task is not waited for any more. -/
  | dismissed (hp : t.phase = .awaitingRestart) (hs : t.task.status = .completed)
      (hp' : t'.phase = .settled .dismissed) (htask : t'.task = t.task) : Cancels t t' []

/-- **Until a task is settled, a cancellation settles it.** -/
theorem Accord.cancels {t : Tracker} (ha : t.Accord) (hp : t.phase.isSettled = false) :
    ∃ calls, Cancels t (t.apply .cancel).1 calls ∧
      List.replicate ((t.apply .cancel).2.count .remoteCancel)
        (t.apply .cancel).1.task.id = calls := by
  have hmove := apply_move ha .cancel
  generalize t.apply .cancel = after at hmove
  obtain ⟨t', effects⟩ := after
  cases hmove with
  | ignored h => simp [Phase.heeds, Signal.phase?, hp] at h
  | dismissed h =>
    have hstatus := (ha.record h).1
    exact ⟨[], .dismissed h (Status.eq_of_final? hstatus) rfl rfl, rfl⟩
  | cancelled message h =>
    refine ⟨[t.task.id], .stopped h (Status.final?_eq_none_iff.mp (ha.not_final h)) rfl ?_, ?_⟩
    · simp [Task.push_eq]
    · simp

/-- The outcome is the user's doing. -/
theorem Cancels.exists_outcome {t t' : Tracker} {calls : List String} (h : Cancels t t' calls) :
    ∃ o, t'.phase = .settled o ∧ (o = .cancelled ∨ o = .dismissed) := by
  cases h with
  | stopped _ _ hp' => exact ⟨_, hp', .inl rfl⟩
  | dismissed _ _ hp' => exact ⟨_, hp', .inr rfl⟩

end Tracker

namespace Console

variable {settings : ConsoleSettings} {c c' : Console} {notes : List Note}

/-! ## 2. Before the cancellation -/

/-- **As long as its task is not settled**, a run has told the server nothing. -/
theorem told_of_unsettled {wall : WallClock} {as : List Action}
    (h : (new settings wall).steps as = some (c, notes)) {r : Nat} (hr : ¬ c.SettledRun r) :
    told r notes = [] := by
  refine (guarded_new settings wall).keeps
    (P := fun c notes => ¬ c.SettledRun r → told r notes = []) ?_ (fun _ => rfl) h hr
  intro c notes a c' first hc htold hs hr'
  have hr : ¬ c.SettledRun r := fun hr => hr' (hr.step (step_cases hs))
  rw [told_append, htold hr, List.nil_append]
  rcases step_notes hs r with ⟨run, run', acts, -, hrun, hstep, hrun', hfirst, -⟩ |
    ⟨-, hfirst, -⟩
  · have hunsettled : run'.tracker.phase.isSettled = false :=
      Bool.eq_false_iff.mpr fun hp => hr' ⟨run', hrun', hp⟩
    have hreached := hc.reached r run hrun
    rw [hfirst]
    exact (hstep.owes_of_unsettled hreached.accord hreached.owes_of_unsettled hunsettled).1
  · exact hfirst

/-! ## 3. From the cancellation on -/

/-- **The call waits for a run that works off its cancellation**, or is done.  `t` is the
tracker as it was settled, and `calls` is what the server has to be told. -/
structure Cancelling (c : Console) (i r : Nat) (t : Tracker) (o : Outcome) (moment : Nat)
    (calls : List String) (later : List Note) : Prop where
  run : ∃ run, c.runs[r]? = some run ∧ run.tracker = t ∧
    (run.WorksOff o ∨ run.stage = .ended) ∧ told r later ++ run.owes = calls
  refreshes : refreshes r later = []
  call : (c.stage? i = some (.joining r .cancel) ∧ c.view = t.view ∧ c.now = moment) ∨
    c.stage? i = some (.done .cancelled)

/-- A call stays where it is when something else happens. -/
theorem Step.stage?_keep {a : Action} (h : Step c a c' notes) {i : Nat}
    (ha : ∀ news, a ≠ .call i news) {s : CallStage} (hs : s ≠ .fresh)
    (hi : c.stage? i = some s) : c'.stage? i = some s := by
  cases a with
  | call j news =>
    obtain ⟨old, stage, -, -, hstage⟩ := h.moves
    rw [hstage, if_neg]
    · exact hi
    · rintro rfl
      exact ha news rfl
  | invoke op =>
    cases h
    exact (stage?_invoke c op hs i).mpr hi
  | run r =>
    cases h
    exact (acts_stage? _ _ _ _).trans hi
  | source r news | elapse ms =>
    cases h
    exact hi

/-- **As long as a call waits for a settled run**, the picture of that run stays. -/
theorem Step.view_joining (hc : c.Guarded settings) {a : Action} (h : Step c a c' notes)
    {i r : Nat} (ha : ∀ news, a ≠ .call i news) {plan : Plan}
    (hi : c.stage? i = some (.joining r plan)) {run : Run} (hrun : c.runs[r]? = some run)
    (hp : run.tracker.phase.isSettled) (hview : c.view = run.tracker.view) :
    c'.view = run.tracker.view := by
  have hhead := (hc.holder i r plan hi).1
  have hholds : ∀ {j plan' news}, c.Ready j plan' → a = .call j news → False := by
    intro j plan' news hready heq
    cases hhead.symm.trans (hc.head_of_ready hready)
    exact ha news heq
  cases h with
  | runs hrun₁ hs =>
    rename_i r' run₁ run₂ as
    have hstep := Run.step_cases hs
    have hlast := hc.last r (.inr ⟨i, plan, hi⟩)
    have hlast' := hc.last r' (hc.held r' run₁ hrun₁ hstep.stage_ne_ended)
    obtain rfl : r' = r := by omega
    cases hrun.symm.trans hrun₁
    rcases hstep.shows with ⟨rfl, -, -⟩ | ⟨-, hno⟩
    · exact congrArg Tracker.view (hstep.tracker_of_isSettled hp)
    · exact (acts_view hno r').trans hview
  | tracks hready | wipes hready => exact (hholds hready rfl).elim
  | _ => exact hview

/-- **The call returns** when the run has ended, and sees that it was this cancellation. -/
theorem step_of_joining {i r : Nat} (hi : c.stage? i = some (.joining r .cancel))
    {o : Outcome} (hnotice : c.view.notice = some o) (ho : o = .cancelled ∨ o = .dismissed)
    (news : Option CallNews) :
    c.step (.call i news) = if c.hasEnded r then some (c.finish i .cancelled, []) else none := by
  obtain ⟨call, hcall, hstage⟩ := Option.map_eq_some_iff.mp hi
  rcases ho with rfl | rfl <;> simp [step, stepCall, hcall, hstage, carryOut, hnotice]

variable {i r moment : Nat} {t : Tracker} {o : Outcome} {calls : List String} {later : List Note}

/-- **When the run has ended**, the call that waits for it returns. -/
theorem Cancelling.step_of_ended (h : c.Cancelling i r t o moment calls later)
    (hp : t.phase = .settled o) (ho : o = .cancelled ∨ o = .dismissed)
    (hi : c.stage? i = some (.joining r .cancel)) {run : Run} (hrun : c.runs[r]? = some run)
    (hended : run.stage = .ended) (news : Option CallNews) :
    c.step (.call i news) = some (c.finish i .cancelled, []) := by
  rcases h.call with ⟨-, hview, -⟩ | hdone
  · have hnotice : c.view.notice = some o := by simp [hview, Tracker.view, Tracker.outcome?, hp]
    simp [step_of_joining hi hnotice ho, hasEnded, hrun, Run.isEnded, hended]
  · cases hi.symm.trans hdone

/-- **While the call waits, something can go on without any news**, and so no time passes. -/
theorem Cancelling.not_isQuiet (h : c.Cancelling i r t o moment calls later)
    (hp : t.phase = .settled o) (ho : o = .cancelled ∨ o = .dismissed)
    (hi : c.stage? i = some (.joining r .cancel)) : c.isQuiet = false := by
  obtain ⟨run, hrun, -, hworks | hended, -⟩ := h.run
  · exact Console.not_isQuiet hrun (hworks.busy c.settings c.now)
  · exact not_isQuiet_of_call hi (by simp [h.step_of_ended hp ho hi hrun hended])

/-- The call goes on to wait, with the same picture at the same moment, or it returns. -/
theorem Cancelling.call_step (h : c.Cancelling i r t o moment calls later)
    (hc : c.Guarded settings) (hp : t.phase = .settled o) (ho : o = .cancelled ∨ o = .dismissed)
    {a : Action} (hs : c.step a = some (c', notes)) :
    (c'.stage? i = some (.joining r .cancel) ∧ c'.view = t.view ∧ c'.now = moment) ∨
      c'.stage? i = some (.done .cancelled) := by
  rcases h.call with ⟨hi, hview, hnow⟩ | hdone
  · by_cases ha : ∃ news, a = .call i news
    · obtain ⟨news, rfl⟩ := ha
      have hnotice : c.view.notice = some o := hview ▸ Tracker.outcome?_eq_some_iff.mpr hp
      rw [step_of_joining hi hnotice ho] at hs
      simp only [Option.ite_none_right_eq_some, Option.some.injEq, Prod.mk.injEq] at hs
      obtain ⟨-, rfl, -⟩ := hs
      exact .inr ((stage?_finish hi _ i).trans (if_pos rfl))
    · have ha : ∀ news, a ≠ .call i news := fun news heq => ha ⟨news, heq⟩
      obtain ⟨run, hrun, rfl, -⟩ := h.run
      have hstep := step_cases hs
      refine .inl ⟨hstep.stage?_keep ha (by simp) hi,
        hstep.view_joining hc ha hi hrun (by rw [hp]; rfl) hview, ?_⟩
      rcases now_step hs with heq | ⟨-, hquiet, -⟩
      · exact heq.trans hnow
      · simp [h.not_isQuiet hp ho hi] at hquiet
  · exact .inr ((step_cases hs).stage?_done hdone)

/-- **What every step leaves of it.** -/
theorem Cancelling.step (h : c.Cancelling i r t o moment calls later) (hc : c.Guarded settings)
    (hp : t.phase = .settled o) (ho : o = .cancelled ∨ o = .dismissed) {a : Action}
    (hs : c.step a = some (c', notes)) :
    c'.Cancelling i r t o moment calls (later ++ notes) := by
  have hcall := h.call_step hc hp ho hs
  obtain ⟨run, hrun, rfl, hstage, htold⟩ := h.run
  have hsettled : run.tracker.phase.isSettled := by
    rw [hp]
    rfl
  rcases step_notes hs r with ⟨run₀, run', as, -, hrun₀, hstep, hrun', hfirst, hrefreshes⟩ |
    ⟨ha, hfirst, hrefreshes⟩
  · cases hrun.symm.trans hrun₀
    have hworks := hstage.resolve_right hstep.stage_ne_ended
    refine ⟨⟨run', hrun', hstep.tracker_of_isSettled hsettled, ?_, ?_⟩, ?_, hcall⟩
    · rcases hworks.step hstep with hworks' | ⟨ho', -⟩ | ⟨-, hended⟩
      · exact .inl hworks'
      · rcases ho with rfl | rfl <;> cases ho'
      · exact .inr hended
    · rw [told_append, hfirst, List.append_assoc, hstep.owes_of_isSettled hsettled, htold]
    · rw [refreshes_append, h.refreshes, hrefreshes, hworks.not_refreshed hstep]
      rfl
  · obtain ⟨run', hrun', hfate⟩ := (step_cases hs).fate hrun
    have hstage' := hfate.stage_eq ha
    have htracker := hfate.tracker_eq ha
    refine ⟨⟨run', hrun', htracker, ?_, ?_⟩, ?_, hcall⟩
    · rwa [Run.WorksOff, hstage']
    · rw [told_append, hfirst, List.append_nil, ← htold, Run.owes, Run.owes, hstage', htracker]
    · rw [refreshes_append, h.refreshes, hrefreshes]
      rfl

/-- What a sequence of steps leaves of it. -/
theorem Cancelling.steps (h : c.Cancelling i r t o moment calls []) (hc : c.Guarded settings)
    (hp : t.phase = .settled o) (ho : o = .cancelled ∨ o = .dismissed) {as : List Action}
    (has : c.steps as = some (c', later)) : c'.Cancelling i r t o moment calls later := by
  refine hc.keeps (P := (Cancelling · i r t o moment calls ·)) ?_ h has
  exact fun c later a c' first hc h hs => h.step hc hp ho hs

/-! ## 4. The way back -/

/-- The step that brings a run closer to its end, in the console. -/
theorem exists_step_of_executing {run : Run} (hrun : c.runs[r]? = some run)
    {effects : List Effect} {outcome : Option Outcome}
    (hstage : run.stage = .executing effects outcome) :
    ∃ a c' first run', (a = .run r ∨ a = .source r none) ∧ c.step a = some (c', first) ∧
      c'.runs[r]? = some run' ∧ run'.left < run.left := by
  have hlt := (List.getElem?_eq_some_iff.mp hrun).1
  rcases Run.advances hstage c.settings c.now with ⟨run', acts, hs, hless⟩ |
    ⟨run', deeds, hs, -, hless⟩
  · have hstep : c.step (.run r) = some ((c.setRun r run').acts r acts) := by
      simp [step, stepRun, hrun, hs]
    exact ⟨_, _, _, run', .inl rfl, hstep, by simp [hlt], hless⟩
  · have hstep : c.step (.source r none) =
        some (c.setRun r run', deeds.filterMap (noteOf? r)) := by
      simp [step, stepSource, hrun, hs]
    exact ⟨_, _, _, run', .inr rfl, hstep, by simp [hlt], hless⟩

/-- **The call returns without any news**: the run works off what is left, and ends. -/
theorem Cancelling.returns (h : c.Cancelling i r t o moment calls later)
    (hc : c.Guarded settings) (hp : t.phase = .settled o) (ho : o = .cancelled ∨ o = .dismissed)
    (hi : c.stage? i = some (.joining r .cancel)) {run : Run} (hrun : c.runs[r]? = some run) :
    ∃ more c' rest, (∀ a ∈ more, a = .run r ∨ a = .source r none ∨ a = .call i none) ∧
      c.steps more = some (c', rest) ∧ c'.stage? i = some (.done .cancelled) := by
  -- by induction on how far the run is from its end
  induction hleft : run.left using Nat.strongRecOn generalizing c later run with
  | ind n ih =>
    subst hleft
    obtain ⟨run₀, hrun₀, rfl, hworks | hended, -⟩ := h.run
    all_goals cases hrun.symm.trans hrun₀
    · obtain ⟨effects, outcome, hstage⟩ := hworks.exists_stage
      obtain ⟨a, c₁, first, run₁, ha, hs, hrun₁, hless⟩ := exists_step_of_executing hrun hstage
      have hcall : ∀ news, a ≠ .call i news := by rcases ha with rfl | rfl <;> simp
      have hi₁ := (step_cases hs).stage?_keep hcall (by simp) hi
      obtain ⟨more, c₂, rest, hmore, hsteps, hdone⟩ :=
        ih _ hless (h.step hc hp ho hs) ((step_cases hs).guarded hc) hi₁ hrun₁ rfl
      exact ⟨a :: more, c₂, _, List.forall_mem_cons.mpr ⟨ha.imp_right .inl, hmore⟩,
        steps_of_step hs hsteps, hdone⟩
    · have hs := h.step_of_ended hp ho hi hrun hended none
      exact ⟨[.call i none], _, _, by simp, steps_of_step hs rfl,
        (stage?_finish hi _ i).trans (if_pos rfl)⟩

/-! ## 5. What is seen of it -/

/-- **A task that was called off at a moment**, by a call that waits or has returned.  `calls` is
what the server has to be told, and `notes` is all that has been noted. -/
inductive CalledOff (c : Console) (i r moment : Nat) (calls : List String) (notes : List Note) :
    Prop
  /-- No time passes before the call returns, and it needs no news for that. -/
  | waits (hi : c.stage? i = some (.joining r .cancel)) (htold : told r notes <+: calls)
      (hquiet : c.isQuiet = false) (hnow : c.now = moment)
      (hreturns : ∃ more c' rest, (∀ a ∈ more, a = .run r ∨ a = .source r none ∨ a = .call i none) ∧
        c.steps more = some (c', rest) ∧ c'.stage? i = some (.done .cancelled))
  /-- The server has been told, and the run does no more. -/
  | returned (hi : c.stage? i = some (.done .cancelled)) (htold : told r notes = calls)
      (hsilent : c.Silent r)

theorem Cancelling.calledOff (h : c.Cancelling i r t o moment calls later)
    (hc : c.Guarded settings) (hp : t.phase = .settled o) (ho : o = .cancelled ∨ o = .dismissed)
    (hstill : c.stage? i = some (.done .cancelled) → c.Still r) {before : List Note}
    (hbefore : told r before = []) : c.CalledOff i r moment calls (before ++ later) := by
  obtain ⟨run, hrun, -, -, htold⟩ := h.run
  have hall : told r (before ++ later) = told r later := by simp [hbefore]
  rcases h.call with ⟨hi, -, hnow⟩ | hdone
  · refine .waits hi ?_ (h.not_isQuiet hp ho hi) hnow (h.returns hc hp ho hi hrun)
    rw [hall, ← htold]
    exact List.prefix_append _ _
  · have hover := hstill hdone
    refine .returned hdone ?_ hover.silent
    obtain ⟨run₀, hrun₀, hended, -⟩ := hover
    cases hrun.symm.trans hrun₀
    rw [hall, ← htold, Run.owes_of_not_executing (by simp [hended]), List.append_nil]

/-- **The step in which a run hears that its task is cancelled.** -/
theorem step_of_cancel {run : Run} {rest : List Signal} (hrun : c.runs[r]? = some run)
    (hstage : run.stage = .listening) (hr : run.retired = false)
    (hinbox : run.inbox = .cancel :: rest) :
    ∃ c₁ run₁, c.step (.run r) = some (c₁, []) ∧ c₁.runs[r]? = some run₁ ∧
      run₁.tracker = (run.tracker.apply .cancel).1 ∧ c₁.view = run₁.tracker.view ∧
      run₁.stage = .executing (run.tracker.apply .cancel).2 none := by
  have hlt := (List.getElem?_eq_some_iff.mp hrun).1
  let run₁ : Run :=
    { run with
      tracker := (run.tracker.apply .cancel).1, inbox := rest
      stage := .executing (run.tracker.apply .cancel).2 none }
  refine ⟨(c.setRun r run₁).publish run₁.tracker.view, run₁, ?_, ?_, rfl, rfl, rfl⟩
  · simp [step, stepRun, hrun, Run.step, hstage, hr, hinbox, acts, act, run₁]
  · simp [publish, hlt]

/-- **A cancellation is immediate.**  The step in which a run hears it settles the task, if it is
not settled yet, and whatever happens then:

* the call returns without any news, and no time passes before;
* when it has returned, the server has been told once, or not at all if there was only a restart
  to wait for, the run and its source do no more, and the pages are not told to refresh;
* the picture stays until another task is tracked or the picture is wiped. -/
theorem cancelled_at_once {wall : WallClock} {as : List Action}
    (h : (new settings wall).steps as = some (c, notes))
    (hi : c.stage? i = some (.joining r .cancel)) {run : Run} (hrun : c.runs[r]? = some run)
    (hstage : run.stage = .listening) (hr : run.retired = false) {rest : List Signal}
    (hinbox : run.inbox = .cancel :: rest) (hp : run.tracker.phase.isSettled = false) :
    ∃ c₁ run₁ calls, c.step (.run r) = some (c₁, []) ∧ c₁.runs[r]? = some run₁ ∧
      run.tracker.Cancels run₁.tracker calls ∧ c₁.view = run₁.tracker.view ∧
      ∀ more c₂ later, c₁.steps more = some (c₂, later) →
        c₂.CalledOff i r c.now calls (notes ++ later) ∧ refreshes r (notes ++ later) = [] ∧
        (c₂.runs.length = c₁.runs.length → (∀ j, c₂.Cleared j → c₁.Cleared j) →
          c₂.view = run₁.tracker.view) := by
  have hc := guarded_of_reachable ⟨as, notes, h⟩
  have hreached := hc.reached r run hrun
  obtain ⟨c₁, run₁, hs, hrun₁, htracker, hview, hstage₁⟩ := step_of_cancel hrun hstage hr hinbox
  obtain ⟨calls, hcancels, hcalls⟩ := hreached.accord.cancels hp
  rw [← htracker] at hcancels hcalls
  obtain ⟨o, ho, hwho⟩ := hcancels.exists_outcome
  have hstep := step_cases hs
  have hc₁ := hstep.guarded hc
  have hi₁ := hstep.stage?_keep (by simp) (by simp) hi
  have hunsettled : ¬ c.SettledRun r := by
    rintro ⟨run₀, hrun₀, hp₀⟩
    cases hrun.symm.trans hrun₀
    simp [hp] at hp₀
  have hnotold := told_of_unsettled h hunsettled
  have hnorefresh : refreshes r notes = [] := by
    rcases accounted_of_steps h r with hnone | ⟨run₀, o, hrun₀, hended, -⟩
    · exact hnone
    · cases hrun.symm.trans hrun₀
      cases hstage.symm.trans hended
  have hcancelling : c₁.Cancelling i r run₁.tracker o c.now calls [] := by
    have hworks := worksOff_of_settling hc hs hunsettled hrun₁ ho
    refine ⟨⟨run₁, hrun₁, rfl, .inl hworks, ?_⟩, rfl, .inl ⟨hi₁, hview, now_step_run hs⟩⟩
    simp [Run.owes_of_executing hstage₁, hcalls]
  refine ⟨c₁, run₁, calls, hs, hrun₁, hcancels, hview, fun more c₂ later hmore => ?_⟩
  have hcancelling₂ := hcancelling.steps hc₁ ho hwho hmore
  refine ⟨?_, ?_, fun hlength hcleared => ?_⟩
  · exact hcancelling₂.calledOff (hc₁.steps hmore) ho hwho
      (fun hdone => still_of_joining hc₁ hi₁ hmore hdone) hnotold
  · simp [hnorefresh, hcancelling₂.refreshes]
  · have hshows : c₁.Shows r run₁.tracker.task.id := ⟨run₁, hrun₁, hview, rfl⟩
    have hlast := hc₁.last r (.inr ⟨i, .cancel, hi₁⟩)
    obtain ⟨run₂, hrun₂, hview₂, -⟩ := hshows.steps hc₁ hlast hmore hlength hcleared
    obtain ⟨run₃, hrun₃, htracker₂, -⟩ := hcancelling₂.run
    cases hrun₂.symm.trans hrun₃
    rw [hview₂, htracker₂]

/-- A stream is attached, and the server has not answered yet, when the user cancels.  The run
lets its source go and is over, and the server is told once. -/
theorem cancelled_at_once_of_start :
    let params : Params := { repoUrl := "http://[::]" }
    let before : List Action :=
      [.invoke (.start params), .call 0 none, .call 0 (some (.launched (.ok "t"))), .call 0 none,
        .run 0, .run 0, .source 0 none, .invoke .cancel, .call 1 none, .call 1 none]
    let after : List Action :=
      [.run 0, .run 0, .source 0 none, .run 0, .run 0, .run 0, .call 1 none]
    let t := (Tracker.streaming (.new "t" "") 3).begin.1
    let t₁ := (t.apply .cancel).1
    let source : Source := .subscriber "t" 15 (.attaching 15)
    let run : Run :=
      { tracker := t, stage := .listening, inbox := [.cancel], source := (source, false) }
    let run₁ : Run :=
      { tracker := t₁, stage := .executing [.remoteCancel, .settle .cancelled] none
        source := (source, false) }
    let c : Console :=
      { settings := { idleTimeout := 15 }, wall := ⟨"", "7"⟩, view := t.view, revision := 1
        runs := [run], lock := [1]
        calls := [⟨.start params, .done (.started "t")⟩, ⟨.cancel, .joining 0 .cancel⟩] }
    let c₁ : Console := { c with view := t₁.view, revision := 2, runs := [run₁] }
    ∃ notes c₂ later, (new c.settings c.wall).steps before = some (c, notes) ∧
      c.stage? 1 = some (.joining 0 .cancel) ∧ t.phase.isSettled = false ∧
      c.step (.run 0) = some (c₁, []) ∧ c₁.steps after = some (c₂, later) ∧
      c₂.CalledOff 1 0 0 ["t"] (notes ++ later) ∧ c₂.stage? 1 = some (.done .cancelled) ∧
      c₂.view = t₁.view := by
  intro params before after t t₁ source run run₁ c c₁
  -- reading the address takes long, so it is done once, and not again with the steps
  have hprepare : params.prepare = .ok params := by
    have hok : params.prepare.toOption = some params := by decide +kernel
    generalize params.prepare = prepared at hok
    cases prepared with
    | ok p => exact congrArg Except.ok (Option.some.inj hok)
    | error e => cases hok
  have hasks : step { new c.settings c.wall with calls := [⟨.start params, .fresh⟩] }
      (.call 0 none) =
        some ({ new c.settings c.wall with calls := [⟨.start params, .asking⟩] },
          [.launch 0 params]) := by
    simp [step, stepCall, begin, hprepare, setStage, new]
  have h : (new c.settings c.wall).steps before = some (c, _) :=
    steps_of_step rfl (steps_of_step hasks rfl)
  obtain ⟨c', run', calls, hs, hrun', hcancels, -, hafter⟩ :=
    cancelled_at_once (i := 1) (r := 0) h rfl rfl rfl rfl rfl rfl
  cases hs.symm.trans (rfl : _ = some (c₁, []))
  cases hrun'
  obtain ⟨hoff, -⟩ := hafter after _ _ rfl
  cases hcancels with
  | stopped => exact ⟨_, _, _, h, rfl, rfl, rfl, rfl, hoff, rfl, rfl⟩
  | dismissed hp => cases hp

end Console

end TaskWatch
