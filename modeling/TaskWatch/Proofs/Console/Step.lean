/-
# What can happen in a console

A step of the console is a call's, a run's, a source's, the clock's, or a new call.  This
module says once what comes of it, so that no later proof has to open `Console.step`.

* **`Step`** lists what a step can be, one constructor for each, with what was the case
  before it.  **`step_cases`**: every step is one of them.
* A call under the lock with no run in its way is `Ready`.  It carries out its plan, and that
  tracks a task, wipes the picture, or does neither.
* Nothing is forgotten: runs stay where they are, and a call that is done stays done
  (`Step.length_runs_le`, `Step.stage?_done`).
-/
import TaskWatch.Console
import TaskWatch.Proofs.Run.Attention

namespace TaskWatch

/-- **The reply of a call that put an earlier task away.** -/
def Reply.replaces : Reply → Bool
  | .started _ | .installed _ | .cleared => true
  | .cancelled | .settled _ | .finished | .refused _ => false

/-- A call at this stage has nothing to do with the lock. -/
def CallStage.isOutside : CallStage → Bool
  | .fresh | .asking | .attending _ => true
  | .inLine _ | .joining .. | .done _ => false

/-- A call at this stage is in line for the lock, or holds it. -/
def CallStage.isInLine : CallStage → Bool
  | .inLine _ | .joining .. => true
  | .fresh | .asking | .attending _ | .done _ => false

/-- **What a call tells the tracked run**: that the user cancels, or that it is retired. -/
def Plan.tell (plan : Plan) (run : Run) : Run :=
  match plan with
  | .cancel => { run with inbox := run.inbox ++ [.cancel] }
  | .follow _ | .followInstall _ | .wipe | .attend => { run with retired := true }

namespace Plan

variable (plan : Plan) (run : Run)

@[simp] theorem tell_stage : (plan.tell run).stage = run.stage := by
  cases plan <;> rfl

@[simp] theorem tell_source : (plan.tell run).source = run.source := by
  cases plan <;> rfl

@[simp] theorem tell_tracker : (plan.tell run).tracker = run.tracker := by
  cases plan <;> rfl

theorem reached_tell {settings : ConsoleSettings} {run : Run} (h : Run.Reached settings run) :
    Run.Reached settings (plan.tell run) := by
  cases plan with
  | cancel => exact h.cancel
  | follow | followInstall | wipe | attend => exact h.retire

end Plan

theorem CallStage.isInLine_of_isOutside {s : CallStage} (h : s.isOutside) :
    s.isInLine = false := by
  cases s with
  | fresh | asking | attending => rfl
  | inLine | joining | done => cases h

namespace Console

/-! ## 1. Parts -/

/-- Where a call stands. -/
def stage? (c : Console) (i : Nat) : Option CallStage :=
  c.calls[i]?.map Call.stage

variable {c c' : Console}

/-- **A call that moves on**, and only that one. -/
theorem stage?_setStage {i : Nat} {old : CallStage} (h : c.stage? i = some old)
    (stage : CallStage) (j : Nat) :
    (c.setStage i stage).stage? j = if i = j then some stage else c.stage? j := by
  by_cases hij : i = j
  · subst hij
    obtain ⟨call, hcall, -⟩ := Option.map_eq_some_iff.mp h
    simp [stage?, setStage, hcall]
  · simp [stage?, setStage, hij]

theorem stage?_setStage_self {i : Nat} {old : CallStage} (h : c.stage? i = some old)
    (stage : CallStage) : (c.setStage i stage).stage? i = some stage :=
  (stage?_setStage h stage i).trans (if_pos rfl)

/-- **A stage that a call neither leaves nor comes to** is where it was. -/
theorem stage?_iff_of_ne {i : Nat} {old stage : CallStage} (h : c.stage? i = some old)
    (hstage : ∀ j, c'.stage? j = if i = j then some stage else c.stage? j) {s : CallStage}
    (ho : old ≠ s) (hn : stage ≠ s) (j : Nat) : c'.stage? j = some s ↔ c.stage? j = some s := by
  rw [hstage]
  split
  · rename_i hij
    subst hij
    rw [h]
    exact iff_of_false (fun heq => hn (Option.some.inj heq)) fun heq => ho (Option.some.inj heq)
  · exact Iff.rfl

/-- A new call has not begun. -/
theorem stage?_invoke (c : Console) (op : Operation) {s : CallStage} (hs : s ≠ .fresh) (j : Nat) :
    stage? { c with calls := c.calls ++ [{ operation := op }] } j = some s ↔
      c.stage? j = some s := by
  rcases Nat.lt_trichotomy j c.calls.length with hlt | rfl | hgt
  · simp [stage?, List.getElem?_append_left hlt]
  · simpa [stage?] using hs.symm
  · have hge : c.calls.length ≤ j := Nat.le_of_lt hgt
    have hne : j - c.calls.length ≠ 0 := by omega
    simp [stage?, List.getElem?_append_right hge, List.getElem?_eq_none hge, hne]

/-- A call that leaves the lock with its reply. -/
theorem stage?_finish {i : Nat} {old : CallStage} (h : c.stage? i = some old) (reply : Reply)
    (j : Nat) :
    (c.finish i reply).stage? j = if i = j then some (.done reply) else c.stage? j :=
  stage?_setStage (c := { c with lock := c.lock.filter (· ≠ i) }) h _ j

/-- A call that gets in line. -/
theorem stage?_enqueue {i : Nat} {old : CallStage} (h : c.stage? i = some old) (plan : Plan)
    (j : Nat) :
    (c.enqueue i plan).stage? j = if i = j then some (.inLine plan) else c.stage? j :=
  stage?_setStage (c := { c with lock := c.lock ++ [i] }) h _ j

section SetRun

variable (c : Console) (r : Nat) (run : Run)

@[simp] theorem setRun_settings : (c.setRun r run).settings = c.settings := rfl
@[simp] theorem setRun_runs : (c.setRun r run).runs = c.runs.set r run := rfl
@[simp] theorem setRun_active : (c.setRun r run).active = c.active := rfl
@[simp] theorem setRun_lock : (c.setRun r run).lock = c.lock := rfl
@[simp] theorem setRun_stage? (i : Nat) : (c.setRun r run).stage? i = c.stage? i := rfl

end SetRun

/-- **The acts of a run** change the picture at most. -/
theorem acts_keeps (c : Console) (r : Nat) (as : List Run.Act) :
    ∃ view revision, (c.acts r as).1 = { c with view, revision } := by
  induction as generalizing c with
  | nil => exact ⟨c.view, c.revision, rfl⟩
  | cons a as ih =>
    obtain ⟨view, revision, heq⟩ := ih (c.act r a).1
    refine ⟨view, revision, heq.trans ?_⟩
    cases a <;> rfl

section Acts

variable (c : Console) (r : Nat) (as : List Run.Act)

@[simp] theorem acts_settings : (c.acts r as).1.settings = c.settings := by
  obtain ⟨view, revision, heq⟩ := acts_keeps c r as
  rw [heq]

@[simp] theorem acts_runs : (c.acts r as).1.runs = c.runs := by
  obtain ⟨view, revision, heq⟩ := acts_keeps c r as
  rw [heq]

@[simp] theorem acts_active : (c.acts r as).1.active = c.active := by
  obtain ⟨view, revision, heq⟩ := acts_keeps c r as
  rw [heq]

@[simp] theorem acts_lock : (c.acts r as).1.lock = c.lock := by
  obtain ⟨view, revision, heq⟩ := acts_keeps c r as
  rw [heq]

@[simp] theorem acts_stage? (i : Nat) : (c.acts r as).1.stage? i = c.stage? i := by
  obtain ⟨view, revision, heq⟩ := acts_keeps c r as
  rw [heq]
  rfl

end Acts

/-- No act of a run is a source's question. -/
theorem ask_not_mem_acts (c : Console) (r : Nat) (as : List Run.Act) (r' : Nat) (q : Query) :
    Note.ask r' q ∉ (c.acts r as).2 := by
  induction as generalizing c with
  | nil => simp [acts]
  | cons a as ih =>
    have ha : Note.ask r' q ∉ (c.act r a).2 := by cases a <;> simp [act]
    simpa [acts, ha] using ih (c.act r a).1

/-! ## 2. Steps -/

/-- **A call under the lock, with no run in its way.** -/
inductive Ready (c : Console) (i : Nat) (plan : Plan) : Prop
  /-- No run is tracked. -/
  | free (h : c.stage? i = some (.inLine plan)) (hl : c.lock.head? = some i)
      (ha : c.active = none)
  /-- The run that it waits for has ended. -/
  | joined {r : Nat} (h : c.stage? i = some (.joining r plan)) (he : c.hasEnded r)

theorem Ready.stage? {i : Nat} {plan : Plan} (h : c.Ready i plan) :
    ∃ stage, c.stage? i = some stage ∧ stage.isInLine := by
  cases h with
  | free h => exact ⟨_, h, rfl⟩
  | joined h => exact ⟨_, h, rfl⟩

/-- **What one step of a console can be.** -/
inductive Step (c : Console) : Action → Console → List Note → Prop
  | invokes (op : Operation) :
      Step c (.invoke op) { c with calls := c.calls ++ [{ operation := op }] } []
  | elapses {ms : Nat} : Step c (.elapse ms) { c with now := c.now + ms } []
  | runs {r : Nat} {run run' : Run} {as : List Run.Act} (h : c.runs[r]? = some run)
      (hs : run.step c.settings c.now = some (run', as)) :
      Step c (.run r) ((c.setRun r run').acts r as).1 ((c.setRun r run').acts r as).2
  | hears {r : Nat} {news : Option News} {run run' : Run} {deeds : List Deed}
      (h : c.runs[r]? = some run) (hs : run.hear c.now news = some (run', deeds)) :
      Step c (.source r news) (c.setRun r run') (deeds.filterMap (noteOf? r))
  /-- The server is asked, or the picture is watched. -/
  | asks {i : Nat} {news : Option CallNews} {notes : List Note} (h : c.stage? i = some .fresh)
      (hn : ∀ r q, Note.ask r q ∉ notes) : Step c (.call i news) (c.setStage i .asking) notes
  /-- A call ends that has not been in line. -/
  | replies {i : Nat} {news : Option CallNews} {stage : CallStage} {reply : Reply}
      (h : c.stage? i = some stage) (ho : stage.isOutside) (hr : reply.replaces = false) :
      Step c (.call i news) (c.setStage i (.done reply)) []
  | enqueues {i : Nat} {news : Option CallNews} {stage : CallStage} {plan : Plan}
      (h : c.stage? i = some stage) (ho : stage.isOutside) :
      Step c (.call i news) (c.enqueue i plan) []
  /-- A call finds the run to wait for, and leaves the lock. -/
  | attends {i r : Nat} {news : Option CallNews} (h : c.stage? i = some (.inLine .attend))
      (hl : c.lock.head? = some i) (ha : c.active = some r) :
      Step c (.call i news)
        ({ c with lock := c.lock.filter (· ≠ i) }.setStage i (.attending r)) []
  /-- A cancellation finds nothing to cancel. -/
  | refuses {i : Nat} {news : Option CallNews} (h : c.stage? i = some (.inLine .cancel))
      (hl : c.lock.head? = some i) :
      Step c (.call i news) (c.finish i (.refused .noActiveTask)) []
  /-- The tracked run is told to end. -/
  | tells {i r : Nat} {news : Option CallNews} {plan : Plan}
      (h : c.stage? i = some (.inLine plan)) (hl : c.lock.head? = some i)
      (ha : c.active = some r) :
      Step c (.call i news)
        ({ c with runs := c.runs.modify r plan.tell, active := none }.setStage i
          (.joining r plan)) []
  /-- A new task is tracked. -/
  | tracks {i : Nat} {news : Option CallNews} {plan : Plan} {s : Tracker.Start}
      {reply : Reply} (h : c.Ready i plan) (hr : reply.replaces)
      (hid : ∀ taskId, reply = .started taskId → s.tracker.task.id = taskId) :
      Step c (.call i news) ((c.track s.tracker).finish i reply) []
  | wipes {i : Nat} {news : Option CallNews} (h : c.Ready i .wipe) :
      Step c (.call i news) ((c.publish .empty).finish i .cleared) []
  /-- A call ends that had only to wait. -/
  | finishes {i : Nat} {news : Option CallNews} {plan : Plan} {reply : Reply}
      (h : c.Ready i plan) (hr : reply.replaces = false) :
      Step c (.call i news) (c.finish i reply) []

/-- **A plan carried out.** -/
theorem carryOut_cases {i : Nat} {plan : Plan} (news : Option CallNews) (h : c.Ready i plan) :
    Step c (.call i news) (c.carryOut i plan) [] := by
  cases plan with
  | follow taskId =>
    refine .tracks (s := .streaming taskId c.wall.stamp c.settings.maxReattach) h rfl ?_
    intro taskId' heq
    cases heq
    rfl
  | followInstall receipt =>
    refine .tracks (s := .ofInstall ("install-" ++ c.wall.millis) c.wall.stamp receipt) h rfl ?_
    intro taskId heq
    cases heq
  | wipe => exact .wipes h
  | cancel =>
    simp only [carryOut]
    split <;>
      · refine .finishes h ?_
        rfl
  | attend =>
    refine .finishes h ?_
    rfl

/-- The first step under the lock. -/
theorem takeUp_cases {i : Nat} {plan : Plan} (news : Option CallNews)
    (h : c.stage? i = some (.inLine plan)) (hl : c.lock.head? = some i) :
    Step c (.call i news) (c.takeUp i plan) [] := by
  cases ha : c.active with
  | none =>
    cases plan with
    | cancel =>
      simp only [takeUp, ha]
      exact .refuses h hl
    | follow | followInstall | wipe | attend =>
      simp only [takeUp, ha]
      exact carryOut_cases news (.free h hl ha)
  | some r =>
    cases plan with
    | attend =>
      simp only [takeUp, ha]
      rw [← ha]
      exact .attends h hl ha
    | cancel =>
      simp only [takeUp, ha]
      split
      · exact .refuses h hl
      · exact .tells h hl ha
    | follow | followInstall | wipe =>
      simp only [takeUp, ha]
      exact .tells h hl ha

/-- The first step of a call. -/
theorem begin_cases {i : Nat} (op : Operation) (news : Option CallNews)
    (h : c.stage? i = some .fresh) :
    Step c (.call i news) (c.begin i op).1 (c.begin i op).2 := by
  cases op with
  | start params =>
    simp only [begin]
    split
    · refine .replies h rfl ?_
      rfl
    · refine .asks h ?_
      simp
  | install package =>
    refine .asks h ?_
    simp [begin]
  | cancel | clear | awaitFinished => exact .enqueues h rfl
  | delete =>
    simp only [begin]
    split
    · refine .replies h rfl ?_
      rfl
    · split
      · refine .replies h rfl ?_
        rfl
      · exact .enqueues h rfl
  | awaitSettled =>
    refine .asks h ?_
    simp [begin]

theorem answered_cases {i : Nat} (answer : CallNews) (news : Option CallNews)
    (h : c.stage? i = some .asking) : Step c (.call i news) (c.answered i answer) [] := by
  cases answer with
  | launched result | installed result =>
    cases result with
    | error e =>
      refine .replies h rfl ?_
      rfl
    | ok value => exact .enqueues h rfl

/-- **Every step of a call is one of the list.** -/
theorem stepCall_cases {i : Nat} {news : Option CallNews} {notes : List Note}
    (h : c.stepCall i news = some (c', notes)) : Step c (.call i news) c' notes := by
  simp only [stepCall, Option.bind_eq_bind, Option.bind_eq_some_iff] at h
  obtain ⟨call, hcall, h⟩ := h
  have hstage : c.stage? i = some call.stage := by simp [stage?, hcall]
  cases hs : call.stage with
  | fresh =>
    have hstep := begin_cases call.operation news (hstage.trans (congrArg some hs))
    simp only [hs, Option.some.injEq] at h
    rwa [h] at hstep
  | asking =>
    rw [hs] at hstage
    simp only [hs] at h
    cases hop : call.operation with
    | awaitSettled =>
      simp only [hop] at h
      split at h
      · cases h
        refine .replies hstage rfl ?_
        rfl
      · cases h
    | start params | install package =>
      rcases news with - | ⟨result⟩ | ⟨result⟩ <;> simp only [hop] at h <;> cases h
      exact answered_cases _ _ hstage
    | cancel | clear | delete | awaitFinished =>
      simp only [hop] at h
      cases h
  | inLine plan =>
    rw [hs] at hstage
    simp only [hs] at h
    split at h
    · rename_i hl
      cases h
      exact takeUp_cases news hstage hl
    · cases h
  | joining r plan =>
    rw [hs] at hstage
    simp only [hs] at h
    split at h
    · rename_i he
      cases h
      exact carryOut_cases news (.joined hstage he)
    · cases h
  | attending r =>
    rw [hs] at hstage
    simp only [hs] at h
    split at h
    · cases h
      refine .replies hstage rfl ?_
      rfl
    · cases h
  | done reply =>
    simp only [hs] at h
    cases h

/-- **Every step is one of the list.** -/
theorem step_cases {a : Action} {notes : List Note} (h : c.step a = some (c', notes)) :
    Step c a c' notes := by
  cases a with
  | invoke op =>
    cases h
    exact .invokes op
  | call i news => exact stepCall_cases h
  | run r =>
    simp only [step, stepRun, Option.bind_eq_bind, Option.bind_eq_some_iff] at h
    obtain ⟨run, hrun, ⟨run', as⟩, hs, heq⟩ := h
    have hstep := Step.runs hrun hs
    rwa [Option.some.inj heq] at hstep
  | source r news =>
    simp only [step, stepSource, Option.bind_eq_bind, Option.bind_eq_some_iff] at h
    obtain ⟨run, hrun, ⟨run', deeds⟩, hs, heq⟩ := h
    cases heq
    exact .hears hrun hs
  | elapse ms =>
    simp only [step] at h
    split at h
    · cases h
      exact .elapses
    · cases h

/-! ## 3. What a step leaves alone -/

namespace Step

variable {a : Action} {notes : List Note}

/-- Runs are never forgotten. -/
theorem length_runs_le (h : Step c a c' notes) : c.runs.length ≤ c'.runs.length := by
  cases h with
  | runs h hs => simp [setRun]
  | hears h hs => simp [setRun]
  | tells => simp [setStage]
  | tracks => simp [track, publish, finish, setStage]
  | _ => exact Nat.le_refl _

/-- **A step of a call moves that call**, which was not done, and no other. -/
theorem moves {i : Nat} {news : Option CallNews} (h : Step c (.call i news) c' notes) :
    ∃ old stage, c.stage? i = some old ∧ (∀ reply, old ≠ .done reply) ∧
      ∀ j, c'.stage? j = if i = j then some stage else c.stage? j := by
  cases h with
  | asks h => exact ⟨_, _, h, by simp, stage?_setStage h _⟩
  | replies h ho =>
    refine ⟨_, _, h, ?_, stage?_setStage h _⟩
    rintro reply rfl
    cases ho
  | enqueues h ho =>
    refine ⟨_, _, h, ?_, stage?_enqueue h _⟩
    rintro reply rfl
    cases ho
  | attends h | tells h => exact ⟨_, _, h, by simp, stage?_setStage h _⟩
  | refuses h => exact ⟨_, _, h, by simp, stage?_finish h _⟩
  | tracks h | wipes h | finishes h =>
    obtain ⟨old, hold, hin⟩ := h.stage?
    refine ⟨_, _, hold, ?_, stage?_finish hold _⟩
    rintro reply rfl
    cases hin

/-- **A call that is done is done.** -/
theorem stage?_done (h : Step c a c' notes) {i : Nat} {reply : Reply}
    (hi : c.stage? i = some (.done reply)) : c'.stage? i = some (.done reply) := by
  cases a with
  | call j news =>
    obtain ⟨old, stage, hold, hne, hstage⟩ := h.moves
    rw [hstage]
    split
    · rename_i hij
      subst hij
      exact absurd (Option.some.inj (hold.symm.trans hi)) (hne reply)
    · exact hi
  | invoke op =>
    cases h
    exact (stage?_invoke c op (by simp) i).mpr hi
  | run r =>
    cases h
    exact (acts_stage? _ _ _ _).trans hi
  | source r news | elapse ms =>
    cases h
    exact hi

end Step

/-! ## 4. What a step does to one run -/

/-- **What becomes of a run** in one step of the console. -/
inductive Fate (c : Console) (a : Action) (r : Nat) (run : Run) : Run → Prop
  | same : Fate c a r run run
  | steps {run' : Run} {as : List Run.Act} (ha : a = .run r)
      (hs : run.step c.settings c.now = some (run', as)) : Fate c a r run run'
  | hears {run' : Run} {news : Option News} {deeds : List Deed} (ha : a = .source r news)
      (hs : run.hear c.now news = some (run', deeds)) : Fate c a r run run'
  | told (plan : Plan) : Fate c a r run (plan.tell run)

/-- What becomes of one run leaves the others as they are. -/
theorem Fate.set {a : Action} {r r' : Nat} {run run₀ run' : Run} (hr : c.runs[r]? = some run)
    (h : c.runs[r']? = some run₀) (hf : Fate c a r' run₀ run') :
    ∃ run₁, (c.runs.set r' run')[r]? = some run₁ ∧ Fate c a r run run₁ := by
  by_cases heq : r' = r
  · subst heq
    cases hr.symm.trans h
    have hlt := (List.getElem?_eq_some_iff.mp h).1
    exact ⟨run', by simp [hlt], hf⟩
  · exact ⟨run, by simp [heq, hr], .same⟩

/-- **A run is never forgotten**, and only this can become of it. -/
theorem Step.fate {a : Action} {notes : List Note} (h : Step c a c' notes) {r : Nat} {run : Run}
    (hr : c.runs[r]? = some run) : ∃ run', c'.runs[r]? = some run' ∧ Fate c a r run run' := by
  cases h with
  | runs h hs => simpa using Fate.set hr h (.steps rfl hs)
  | hears h hs => exact Fate.set hr h (.hears rfl hs)
  | tells h hl ha =>
    rename_i r' news plan
    by_cases heq : r' = r
    · subst heq
      exact ⟨plan.tell run, by simp [setStage, hr], .told plan⟩
    · exact ⟨run, by simp [setStage, heq, hr], .same⟩
  | tracks =>
    have hlt := (List.getElem?_eq_some_iff.mp hr).1
    exact ⟨run, (List.getElem?_append_left hlt).trans hr, .same⟩
  | _ => exact ⟨run, hr, .same⟩

/-- **A call that changes a run that is there** tells it to end: it is the tracked run, and the
call waits for it from then on. -/
theorem Step.told_of_changed {i r : Nat} {news : Option CallNews} {notes : List Note}
    (h : Step c (.call i news) c' notes) (hr : r < c.runs.length)
    (hne : c'.runs[r]? ≠ c.runs[r]?) :
    c.active = some r ∧ ∃ plan, c'.stage? i = some (.joining r plan) := by
  cases h with
  | tells h hl ha =>
    rename_i r' plan
    have heq : r' = r := by
      refine Decidable.byContradiction fun hrr => hne ?_
      simp [setStage, hrr]
    subst heq
    exact ⟨ha, plan, stage?_setStage_self (c := { c with runs := _, active := none }) h _⟩
  | tracks => exact absurd (List.getElem?_append_left hr) hne
  | _ => exact absurd rfl hne

namespace Fate

variable {a : Action} {r : Nat} {run run' : Run}

/-- Only its own steps move the tracker of a run. -/
theorem tracker_eq (h : Fate c a r run run') (ha : a ≠ .run r) : run'.tracker = run.tracker := by
  cases h with
  | same => rfl
  | steps ha' hs => exact absurd ha' ha
  | hears ha' hs =>
    obtain ⟨s, s', cancelled, -, -, rfl⟩ := Run.hear_cases hs
    rfl
  | told plan => exact plan.tell_tracker run

/-- **A settled tracker stays as it is.** -/
theorem tracker_of_isSettled (h : Fate c a r run run') (hp : run.tracker.phase.isSettled) :
    run'.tracker = run.tracker := by
  cases h with
  | steps ha hs => exact (Run.step_cases hs).tracker_of_isSettled hp
  | same => rfl
  | hears ha hs =>
    obtain ⟨s, s', cancelled, -, -, rfl⟩ := Run.hear_cases hs
    rfl
  | told plan => exact plan.tell_tracker run

end Fate

/-! ## 5. Steps one after another -/

/-- The first step, and the others. -/
theorem steps_cons {a : Action} {as : List Action} {notes : List Note}
    (h : c.steps (a :: as) = some (c', notes)) :
    ∃ c₁ first rest, Step c a c₁ first ∧ c₁.steps as = some (c', rest) ∧ notes = first ++ rest := by
  simp only [steps, Option.bind_eq_bind, Option.bind_eq_some_iff] at h
  obtain ⟨⟨c₁, first⟩, hfirst, ⟨c₂, rest⟩, hrest, heq⟩ := h
  cases heq
  exact ⟨c₁, first, rest, step_cases hfirst, hrest, rfl⟩

/-- **What every step preserves, a sequence of steps preserves.** -/
theorem steps_keeps {P : Console → Prop}
    (hstep : ∀ c a c' notes, P c → Step c a c' notes → P c') {as : List Action}
    {notes : List Note} (hc : P c) (h : c.steps as = some (c', notes)) : P c' := by
  induction as generalizing c notes with
  | nil =>
    cases h
    exact hc
  | cons a as ih =>
    obtain ⟨c₁, first, rest, hfirst, hrest, -⟩ := steps_cons h
    exact ih (hstep c a c₁ first hc hfirst) hrest

theorem length_runs_steps {as : List Action} {notes : List Note}
    (h : c.steps as = some (c', notes)) : c.runs.length ≤ c'.runs.length :=
  steps_keeps (P := fun c' => c.runs.length ≤ c'.runs.length)
    (fun _ _ _ _ hle hstep => Nat.le_trans hle hstep.length_runs_le) (Nat.le_refl _) h

theorem stage?_done_steps {as : List Action} {notes : List Note}
    (h : c.steps as = some (c', notes)) {i : Nat} {reply : Reply}
    (hi : c.stage? i = some (.done reply)) : c'.stage? i = some (.done reply) :=
  steps_keeps (P := fun c' => c'.stage? i = some (.done reply))
    (fun _ _ _ _ hdone hstep => hstep.stage?_done hdone) hi h

end Console

end TaskWatch
