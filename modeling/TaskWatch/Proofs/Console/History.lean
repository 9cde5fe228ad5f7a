/-
# What a console has done so far

A sequence of steps leaves its notes behind, and what a run has done to the outside is among
them: `told` is what it told the server, and `refreshes` is what it told the pages.  Only the
steps of the run itself add to them (**`step_notes`**).

Two things follow from the way time passes.  It passes only while nothing is left to do, so it
stands still as long as a run is busy (`not_isQuiet`), and it never passes over the moment at
which a run goes on by itself (**`now_step`**).

**`Shown`**: a run that has not ended is the one that is shown.
-/
import TaskWatch.Proofs.Console.Succession
import TaskWatch.Proofs.Run.Ending

namespace TaskWatch

/-- The server is asked something, or its stream is. -/
def Note.isQuestion : Note → Bool
  | .launch .. | .install .. | .ask .. | .await _ => true
  | .remoteCancel .. | .refresh .. => false

namespace Console

variable {settings : ConsoleSettings} {c c' : Console} {notes : List Note}

/-! ## 1. Notes -/

/-- **What a run told the server**: the tasks that it should stop. -/
def told (r : Nat) (notes : List Note) : List String :=
  notes.filterMap fun
    | .remoteCancel r' taskId => if r' = r then some taskId else none
    | _ => none

/-- **What a run told the pages**: the tasks that they should refresh for. -/
def refreshes (r : Nat) (notes : List Note) : List Task :=
  notes.filterMap fun
    | .refresh r' task => if r' = r then some task else none
    | _ => none

section Lists

variable (r : Nat) (notes more : List Note)

@[simp] theorem told_nil : told r [] = [] := rfl

@[simp] theorem refreshes_nil : refreshes r [] = [] := rfl

@[simp] theorem told_append : told r (notes ++ more) = told r notes ++ told r more :=
  List.filterMap_append

@[simp] theorem refreshes_append :
    refreshes r (notes ++ more) = refreshes r notes ++ refreshes r more :=
  List.filterMap_append

end Lists

/-- Questions are none of this. -/
theorem told_of_questions (h : ∀ note ∈ notes, note.isQuestion) (r : Nat) :
    told r notes = [] ∧ refreshes r notes = [] := by
  constructor <;>
    · refine List.filterMap_eq_nil_iff.mpr fun note hn => ?_
      have hq := h note hn
      cases note <;> first | rfl | cases hq

/-- **The notes of a run's acts.** -/
theorem acts_notes (c : Console) (r r' : Nat) (as : List Run.Act) :
    told r (c.acts r' as).2 = (if r' = r then as.filterMap Run.Act.told? else []) ∧
      refreshes r (c.acts r' as).2 =
        if r' = r then as.filterMap Run.Act.refreshed? else [] := by
  induction as generalizing c with
  | nil => simp [acts]
  | cons a as ih =>
    obtain ⟨htold, hrefreshes⟩ := ih (c.act r' a).1
    simp only [acts, told_append, refreshes_append, htold, hrefreshes]
    by_cases hr : r' = r <;> cases a <;>
      simp [act, told, refreshes, hr, Run.Act.told?, Run.Act.refreshed?, List.filterMap_cons]

/-- A call only asks. -/
theorem begin_notes (c : Console) (i : Nat) (op : Operation) :
    ∀ note ∈ (c.begin i op).2, note.isQuestion := by
  cases op with
  | start params =>
    simp only [begin]
    split <;> simp [Note.isQuestion]
  | delete =>
    simp only [begin]
    split
    · simp
    · split <;> simp
  | install | cancel | clear | awaitSettled | awaitFinished => simp [begin, Note.isQuestion]

theorem stepCall_notes {i : Nat} {news : Option CallNews}
    (h : c.stepCall i news = some (c', notes)) : ∀ note ∈ notes, note.isQuestion := by
  simp only [stepCall, Option.bind_eq_bind, Option.bind_eq_some_iff] at h
  obtain ⟨call, -, h⟩ := h
  split at h
  · have heq : (c.begin i call.operation).2 = notes := congrArg Prod.snd (Option.some.inj h)
    rw [← heq]
    exact c.begin_notes i call.operation
  all_goals
    try split at h
    all_goals cases h <;> simp

/-- So does a source. -/
theorem deeds_notes (r : Nat) (deeds : List Deed) :
    ∀ note ∈ deeds.filterMap (noteOf? r), note.isQuestion := by
  intro note hn
  obtain ⟨deed, -, hdeed⟩ := List.mem_filterMap.mp hn
  cases deed with
  | ask | await =>
    cases hdeed
    rfl
  | send => cases hdeed

/-- **Only its own steps add to what a run has done.** -/
theorem step_notes {a : Action} (h : c.step a = some (c', notes)) (r : Nat) :
    (∃ run run' as, a = .run r ∧ c.runs[r]? = some run ∧
      Run.Step c.settings c.now run run' as ∧ c'.runs[r]? = some run' ∧
        told r notes = as.filterMap Run.Act.told? ∧
        refreshes r notes = as.filterMap Run.Act.refreshed?) ∨
      (a ≠ .run r ∧ told r notes = [] ∧ refreshes r notes = []) := by
  have hstep := step_cases h
  cases a with
  | run r' =>
    cases hstep with
    | runs hrun hs =>
      rename_i run run' as
      obtain ⟨htold, hrefreshes⟩ := (c.setRun r' run').acts_notes r r' as
      by_cases hr : r' = r
      · subst hr
        have hlt := (List.getElem?_eq_some_iff.mp hrun).1
        exact .inl ⟨run, run', as, rfl, hrun, Run.step_cases hs, by simp [hlt],
          by simpa using htold, by simpa using hrefreshes⟩
      · exact .inr ⟨by simp [hr], by simpa [hr] using htold, by simpa [hr] using hrefreshes⟩
  | call i news => exact .inr ⟨by simp, told_of_questions (stepCall_notes h) r⟩
  | source r' news =>
    cases hstep with
    | hears hrun hs => exact .inr ⟨by simp, told_of_questions (deeds_notes r' _) r⟩
  | invoke op =>
    cases hstep
    exact .inr ⟨by simp, rfl, rfl⟩
  | elapse ms =>
    cases hstep
    exact .inr ⟨by simp, rfl, rfl⟩

/-! ## 2. Histories -/

/-- The first step and its notes, and the others. -/
theorem step_of_steps_cons {a : Action} {as : List Action}
    (h : c.steps (a :: as) = some (c', notes)) :
    ∃ c₁ first rest, c.step a = some (c₁, first) ∧ c₁.steps as = some (c', rest) ∧
      notes = first ++ rest := by
  simp only [steps, Option.bind_eq_bind, Option.bind_eq_some_iff] at h
  obtain ⟨⟨c₁, first⟩, hfirst, ⟨c₂, rest⟩, hrest, heq⟩ := h
  cases heq
  exact ⟨c₁, first, rest, hfirst, hrest, rfl⟩

theorem steps_of_step {a : Action} {as : List Action} {c₁ : Console} {first rest : List Note}
    (hfirst : c.step a = some (c₁, first)) (hrest : c₁.steps as = some (c', rest)) :
    c.steps (a :: as) = some (c', first ++ rest) := by
  simp [steps, hfirst, hrest]

/-- Some steps, and others after them. -/
theorem steps_append {as as' : List Action} {c₁ : Console} {first rest : List Note}
    (hfirst : c.steps as = some (c₁, first)) (hrest : c₁.steps as' = some (c', rest)) :
    c.steps (as ++ as') = some (c', first ++ rest) := by
  induction as generalizing c first with
  | nil =>
    cases hfirst
    exact hrest
  | cons a as ih =>
    obtain ⟨c₂, note, more, ha, has, rfl⟩ := step_of_steps_cons hfirst
    rw [List.append_assoc]
    exact steps_of_step ha (ih has)

/-- **What every step preserves of a console and the notes before it**, a sequence of steps
preserves. -/
theorem steps_keeps_notes {P : Console → List Note → Prop}
    (hstep : ∀ c notes a c' first, P c notes → c.step a = some (c', first) →
      P c' (notes ++ first))
    {before : List Note} {as : List Action} (hc : P c before)
    (h : c.steps as = some (c', notes)) : P c' (before ++ notes) := by
  induction as generalizing c before notes with
  | nil =>
    cases h
    simpa using hc
  | cons a as ih =>
    obtain ⟨c₁, first, rest, hfirst, hrest, rfl⟩ := step_of_steps_cons h
    rw [← List.append_assoc]
    exact ih (hstep c before a c₁ first hc hfirst) hrest

/-- **So it is of what has been noted since the first of them**, and a step may count on the
order that the console is in. -/
theorem Guarded.keeps {P : Console → List Note → Prop}
    (hstep : ∀ c notes a c' first, c.Guarded settings → P c notes →
      c.step a = some (c', first) → P c' (notes ++ first))
    {as : List Action} (hg : c.Guarded settings) (hc : P c [])
    (h : c.steps as = some (c', notes)) : P c' notes := by
  have hboth : c'.Guarded settings ∧ P c' ([] ++ notes) := by
    refine steps_keeps_notes (P := fun c notes => c.Guarded settings ∧ P c notes) ?_ ⟨hg, hc⟩ h
    rintro c notes a c' first ⟨hg, hc⟩ hs
    exact ⟨(step_cases hs).guarded hg, hstep c notes a c' first hg hc hs⟩
  exact hboth.2

/-! ## 3. Time -/

@[simp] theorem acts_now (c : Console) (r : Nat) (as : List Run.Act) :
    (c.acts r as).1.now = c.now := by
  obtain ⟨view, revision, heq⟩ := acts_keeps c r as
  rw [heq]

/-- **A busy run holds up the clock.** -/
theorem not_isQuiet {r : Nat} {run : Run} (hr : c.runs[r]? = some run)
    (hbusy : (run.step c.settings c.now).isSome ∨ (run.hear c.now none).isSome) :
    c.isQuiet = false := by
  have hlt := (List.getElem?_eq_some_iff.mp hr).1
  refine Bool.eq_false_iff.mpr fun hquiet => ?_
  simp only [isQuiet, Bool.and_eq_true, List.all_eq_true, List.mem_range,
    Option.isNone_iff_eq_none] at hquiet
  obtain ⟨hstep, hhear⟩ := hquiet.2 r hlt
  rcases hbusy with hs | hs <;> obtain ⟨x, hx⟩ := Option.isSome_iff_exists.mp hs
  · simp [stepRun, hr, hx] at hstep
  · simp [stepSource, hr, hx] at hhear

/-- So does a call that does not wait. -/
theorem not_isQuiet_of_call {i : Nat} {s : CallStage} (hi : c.stage? i = some s)
    (hbusy : c.step (.call i none) ≠ none) : c.isQuiet = false := by
  obtain ⟨call, hcall, -⟩ := Option.map_eq_some_iff.mp hi
  have hlt := (List.getElem?_eq_some_iff.mp hcall).1
  refine Bool.eq_false_iff.mpr fun hquiet => ?_
  simp only [isQuiet, Bool.and_eq_true, List.all_eq_true, List.mem_range,
    Option.isNone_iff_eq_none] at hquiet
  exact hbusy (hquiet.1 i hlt)

/-- **Time passes while nothing is left to do**, and stops where a run goes on by itself. -/
theorem now_step {a : Action} (h : c.step a = some (c', notes)) :
    c'.now = c.now ∨
      ((∃ ms, a = .elapse ms) ∧ c.isQuiet ∧ c.now ≤ c'.now ∧
        ∀ (r : Nat) run due, c.runs[r]? = some run → run.stage = .lingering due →
          c'.now ≤ due) := by
  have hstep := step_cases h
  cases hstep with
  | elapses =>
    rename_i ms
    simp only [step, Option.ite_none_right_eq_some, mayElapse, Bool.and_eq_true,
      List.all_eq_true, decide_eq_true_eq] at h
    obtain ⟨⟨hquiet, hdue⟩, -⟩ := h
    refine .inr ⟨⟨ms, rfl⟩, hquiet, Nat.le_add_right _ _, fun r run due hrun hstage =>
      hdue due ?_⟩
    exact List.mem_flatMap.mpr ⟨run, List.mem_of_getElem? hrun, by simp [Run.deadline?, hstage]⟩
  | runs | hears | tells => exact .inl (by simp [setRun, setStage])
  | tracks | wipes | finishes | refuses =>
    exact .inl (by simp [track, publish, finish, setStage])
  | invokes | asks | replies | attends => exact .inl rfl
  | enqueues => exact .inl rfl

/-- A run's step takes no time. -/
theorem now_step_run {r : Nat} (h : c.step (.run r) = some (c', notes)) : c'.now = c.now := by
  rcases now_step h with heq | ⟨⟨ms, helapse⟩, -⟩
  · exact heq
  · cases helapse

theorem now_le_step {a : Action} (h : c.step a = some (c', notes)) : c.now ≤ c'.now := by
  rcases now_step h with heq | ⟨-, -, hle, -⟩
  · exact Nat.le_of_eq heq.symm
  · exact hle

/-! ## 4. The run that is shown -/

/-- Only its own steps move a run on. -/
theorem Fate.stage_eq {a : Action} {r : Nat} {run run' : Run} (h : Fate c a r run run')
    (ha : a ≠ .run r) : run'.stage = run.stage := by
  cases h with
  | same => rfl
  | steps ha' hs => exact absurd ha' ha
  | hears ha' hs =>
    obtain ⟨s, s', cancelled, -, -, rfl⟩ := Run.hear_cases hs
    rfl
  | told plan => exact plan.tell_stage run

/-- **A run that has not ended is shown.** -/
def Shown (c : Console) : Prop :=
  ∀ (r : Nat) run, c.runs[r]? = some run → run.stage ≠ .ended → c.view = run.tracker.view

/-- As long as nobody is tracked or wiped, and no run takes a step, the picture stays. -/
theorem Shown.keep (hs : c.Shown) {a : Action} (h : Step c a c' notes) (ha : ∀ r, a ≠ .run r)
    (hlength : c'.runs.length = c.runs.length) (hview : c'.view = c.view) : c'.Shown := by
  intro r run' hrun' hne
  have hlt := (List.getElem?_eq_some_iff.mp hrun').1
  rw [hlength] at hlt
  obtain ⟨run₁, hrun₁, hfate⟩ := h.fate (List.getElem?_eq_getElem hlt)
  cases hrun'.symm.trans hrun₁
  rw [hview, hfate.tracker_eq (ha r)]
  refine hs r _ (List.getElem?_eq_getElem hlt) ?_
  rwa [← hfate.stage_eq (ha r)]

theorem Step.shown (hc : c.Guarded settings) {a : Action} (h : Step c a c' notes)
    (hs : c.Shown) : c'.Shown := by
  have hkeep := hs.keep h
  cases h with
  | tracks hready hr hid =>
    rename_i start reply
    intro r run hrun hne
    have hrun : (c.runs ++ [(Run.start start.tracker).1])[r]? = some run := hrun
    rcases Nat.lt_or_ge r c.runs.length with hlt | hge
    · rw [List.getElem?_append_left hlt] at hrun
      exact absurd (hc.ended_of_ready hready hrun) hne
    · rw [List.getElem?_append_right hge, List.getElem?_singleton] at hrun
      split at hrun
      · cases hrun
        rfl
      · cases hrun
  | wipes hready => exact fun r run hrun hne => absurd (hc.ended_of_ready hready hrun) hne
  | runs hrun hstep =>
    rename_i r run run₁ as
    have hgoes : run.stage ≠ .ended := by
      intro he
      simp [Run.step, he] at hstep
    intro r' run' hrun' hne
    rw [acts_runs, setRun_runs, List.getElem?_set] at hrun'
    split at hrun'
    · split at hrun'
      · cases hrun'
        rcases (Run.step_cases hstep).shows with ⟨rfl, -, -⟩ | ⟨htracker, hno⟩
        · rfl
        · rw [acts_view hno, htracker]
          exact hs r run hrun hgoes
      · cases hrun'
    · -- two runs that have not ended would both be the last one
      rename_i hrr
      have hlast := hc.last r (hc.held r run hrun hgoes)
      have hlast' := hc.last r' (hc.held r' run' hrun' hne)
      omega
  | hears => exact hkeep (by simp) (by simp) rfl
  | tells => exact hkeep (by simp) (by simp [setStage]) rfl
  | _ => exact hkeep (by simp) rfl rfl

/-- So it stays. -/
theorem Shown.steps (hc : c.Guarded settings) (hs : c.Shown) {as : List Action}
    (h : c.steps as = some (c', notes)) : c'.Shown := by
  refine hc.keeps (P := fun c _ => c.Shown) ?_ hs h
  exact fun c notes a c' first hc hs hstep => (step_cases hstep).shown hc hs

/-- **So it is in every console that can come about.** -/
theorem shown_of_reachable {wall : WallClock} (h : Reachable settings wall c) : c.Shown := by
  obtain ⟨as, notes, has⟩ := h
  exact Shown.steps (guarded_new settings wall) (by simp [Shown, new]) has

end Console

end TaskWatch
