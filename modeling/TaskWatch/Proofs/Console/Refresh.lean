/-
# One refresh for each task

The pages are told to refresh when a task has come to an end of its own, and not at once: the
last message is shown for a while before.

* A run tells the pages at the end of its lingering, and with that it has ended.  So it tells
  them once at most, and only for an outcome that calls for it (`Accounted`).
* From the settling on, the console **`Awaits`** that: the run works off the effects, while the
  clock stands still, and then it lingers, while the clock cannot pass the moment.  There it is
  told to leave, or it tells the pages.

**`refreshed_once`** puts both together.
-/
import TaskWatch.Proofs.Console.Deletion
import TaskWatch.Proofs.Console.History

namespace TaskWatch

/-- **The outcomes that call for a refresh.** -/
theorem Outcome.triggersRefresh_iff {o : Outcome} :
    o.triggersRefresh ↔
      o = .completed ∨ (∃ message, o = .failed message) ∨ o = .restartConfirmed := by
  cases o <;> simp [triggersRefresh]

namespace Run

variable {settings : ConsoleSettings} {now : Nat} {r r' : Run} {acts : List Act}

/-- **A run tells the pages** at the end of its lingering, and never else. -/
theorem Step.refreshed (h : Step settings now r r' acts) :
    acts.filterMap Act.refreshed? = [] ∨ ∃ due, r.stage = .lingering due ∧ r.retired = false ∧
      due ≤ now ∧ acts.filterMap Act.refreshed? = [r.tracker.task] := by
  cases h with
  | refreshes hstage hr hd => exact .inr ⟨_, hstage, hr, hd, rfl⟩
  | _ => exact .inl rfl

/-- A run that works off does not. -/
theorem WorksOff.not_refreshed {o : Outcome} (h : r.WorksOff o)
    (hs : Step settings now r r' acts) : acts.filterMap Act.refreshed? = [] := by
  obtain ⟨effects, outcome, hstage⟩ := h.exists_stage
  rcases hs.refreshed with hquiet | ⟨due, hlingers, -⟩
  · exact hquiet
  · cases hstage.symm.trans hlingers

/-- A run lingers with an outcome that calls for a refresh. -/
theorem Reached.settled_of_lingering (h : Reached settings r) {due : Nat}
    (hstage : r.stage = .lingering due) :
    ∃ o, r.tracker.phase = .settled o ∧ o.triggersRefresh := by
  obtain ⟨start, ts, x, hx, rfl⟩ := h
  have hsit := (Signed.orderly_turns hx).situation
  simp only [Signed.Situation, hstage] at hsit
  obtain ⟨o, -, hp, -, ho⟩ := hsit
  exact ⟨o, hp, ho⟩

end Run

namespace Console

variable {settings : ConsoleSettings} {c c' : Console} {notes : List Note}

/-! ## 1. Once at most -/

/-- **A run has not told the pages anything**, or it has ended with that. -/
def Accounted (c : Console) (r : Nat) (notes : List Note) : Prop :=
  refreshes r notes = [] ∨ ∃ run o, c.runs[r]? = some run ∧ run.stage = .ended ∧
    run.tracker.phase = .settled o ∧ o.triggersRefresh ∧ refreshes r notes = [run.tracker.task]

theorem Accounted.step (hc : c.Guarded settings) {r : Nat} (h : c.Accounted r notes) {a : Action}
    {first : List Note} (hs : c.step a = some (c', first)) : c'.Accounted r (notes ++ first) := by
  rcases step_notes hs r with ⟨run, run', as, -, hrun, hstep, hrun', -, hfirst⟩ | ⟨ha, -, hfirst⟩
  · have hnone : refreshes r notes = [] := by
      rcases h with hnone | ⟨run₀, o, hrun₀, hended, -⟩
      · exact hnone
      · cases hrun.symm.trans hrun₀
        exact absurd hended hstep.stage_ne_ended
    rcases hstep.refreshed with hquiet | ⟨due, hstage, -, -, htold⟩
    · exact .inl (by simp [hnone, hfirst, hquiet])
    · obtain ⟨o, hp, ho⟩ := (hc.reached r run hrun).settled_of_lingering hstage
      have hsame := hstep.tracker_of_isSettled (by rw [hp]; rfl)
      refine .inr ⟨run', o, hrun', (Run.step_lingering hstage hstep).1, by rw [hsame, hp], ho, ?_⟩
      rw [refreshes_append, hnone, hfirst, htold, hsame]
      rfl
  · rcases h with hnone | ⟨run, o, hrun, hended, hp, ho, hone⟩
    · exact .inl (by simp [hnone, hfirst])
    · obtain ⟨run', hrun', hfate⟩ := (step_cases hs).fate hrun
      have hsame := hfate.tracker_eq ha
      refine .inr ⟨run', o, hrun', by rw [hfate.stage_eq ha, hended], by rw [hsame, hp], ho, ?_⟩
      simp [hone, hfirst, hsame]

/-- **So it is in every history.** -/
theorem accounted_of_steps {wall : WallClock} {as : List Action}
    (h : (new settings wall).steps as = some (c, notes)) (r : Nat) : c.Accounted r notes := by
  refine (guarded_new settings wall).keeps (P := (Accounted · r ·)) ?_ (.inl rfl) h
  exact fun c notes a c' first hc hr hs => hr.step hc hs

/-! ## 2. Until the refresh -/

/-- **As far as these steps lead, the run is not retired** before the moment is over. -/
def unretiredUntil (r due : Nat) (c : Console) (as : List Action) : Bool :=
  (due < c.now || c.runs[r]?.all fun run => !run.retired) &&
    match as with
    | [] => true
    | a :: as => (c.step a).all fun (c', _) => unretiredUntil r due c' as

/-- **From the settling of its task until the moment of the refresh**: the run works off the
effects, or it lingers. -/
def Awaits (c : Console) (r : Nat) (t : Tracker) (o : Outcome) (due : Nat) : Prop :=
  ∃ run, c.runs[r]? = some run ∧ run.tracker = t ∧ run.retired = false ∧
    ((run.WorksOff o ∧ due = c.now + c.settings.refreshDelay) ∨
      (run.stage = .lingering due ∧ c.now ≤ due))

variable {r due : Nat} {t : Tracker} {o : Outcome}

theorem retired_of_unretiredUntil {as : List Action} (h : unretiredUntil r due c as)
    (hnow : c.now ≤ due) {run : Run} (hrun : c.runs[r]? = some run) : run.retired = false := by
  unfold unretiredUntil at h
  simpa [hrun, Nat.not_lt.mpr hnow] using (Bool.and_eq_true_iff.mp h).1

theorem unretiredUntil_of_cons {a : Action} {as : List Action}
    (h : unretiredUntil r due c (a :: as)) (hs : c.step a = some (c', notes)) :
    unretiredUntil r due c' as := by
  unfold unretiredUntil at h
  simpa [hs] using (Bool.and_eq_true_iff.mp h).2

theorem Awaits.now_le (h : c.Awaits r t o due) : c.now ≤ due := by
  obtain ⟨run, -, -, -, ⟨-, rfl⟩ | ⟨-, hnow⟩⟩ := h
  · exact Nat.le_add_right _ _
  · exact hnow

/-- **At the moment itself the clock stands still**, and before the run lingers as well. -/
theorem Awaits.lt_of_isQuiet (h : c.Awaits r t o due) (hquiet : c.isQuiet) : c.now < due := by
  obtain ⟨run, hrun, -, hr, ⟨hworks, -⟩ | ⟨hstage, hnow⟩⟩ := h
  · have hbusy := not_isQuiet hrun (hworks.busy c.settings c.now)
    simp [hbusy] at hquiet
  · refine Nat.lt_of_le_of_ne hnow fun heq => ?_
    have hbusy := not_isQuiet hrun (.inl (by simp [Run.step, hstage, hr, heq]))
    simp [hbusy] at hquiet

/-- **One step of the wait**: it goes on, or the pages are told, and that at the moment. -/
theorem Awaits.step (h : c.Awaits r t o due) (hc : c.Guarded settings)
    (hp : t.phase = .settled o) (ho : o.triggersRefresh) {a : Action}
    (hs : c.step a = some (c', notes)) :
    (refreshes r notes = [] ∧ c'.now ≤ due ∧
        ((∀ run, c'.runs[r]? = some run → run.retired = false) → c'.Awaits r t o due)) ∨
      (refreshes r notes = [t.task] ∧ c.now = due ∧
        ∃ run, c'.runs[r]? = some run ∧ run.stage = .ended) := by
  have hsettings : c'.settings = c.settings :=
    ((step_cases hs).guarded hc).settings_eq.trans hc.settings_eq.symm
  have hbefore := h.now_le
  obtain ⟨run, hrun, rfl, hr, hstage⟩ := h
  rcases step_notes hs r with ⟨run₀, run', as, rfl, hrun₀, hstep, hrun', -, hfirst⟩ |
    ⟨ha, -, hfirst⟩
  · cases hrun.symm.trans hrun₀
    have hnow := now_step_run hs
    have hsame := hstep.tracker_of_isSettled (by rw [hp]; rfl)
    rcases hstage with ⟨hworks, hdue⟩ | ⟨hlingers, hle⟩
    · refine .inl ⟨hfirst.trans (hworks.not_refreshed hstep), by omega,
        fun hretired => ⟨run', hrun', hsame, hretired run' hrun', ?_⟩⟩
      rw [hnow, hsettings]
      rcases hworks.step hstep with hworks' | ⟨-, hlingers⟩ | ⟨ho', -⟩
      · exact .inl ⟨hworks', hdue⟩
      · exact .inr ⟨hdue ▸ hlingers, by omega⟩
      · simp [ho] at ho'
    · obtain ⟨hended, ⟨hr', -⟩ | ⟨-, hdue, rfl⟩⟩ := Run.step_lingering hlingers hstep
      · simp [hr] at hr'
      · exact .inr ⟨hfirst, Nat.le_antisymm hle hdue, run', hrun', hended⟩
  · obtain ⟨run', hrun', hfate⟩ := (step_cases hs).fate hrun
    have hstage' := hfate.stage_eq ha
    rcases hstage with ⟨hworks, hdue⟩ | ⟨hlingers, -⟩
    · -- the run is busy, so no time passes
      have hnow : c'.now = c.now := by
        rcases now_step hs with heq | ⟨-, hquiet, -⟩
        · exact heq
        · simp [not_isQuiet hrun (hworks.busy c.settings c.now)] at hquiet
      refine .inl ⟨hfirst, by omega, fun hretired =>
        ⟨run', hrun', hfate.tracker_eq ha, hretired run' hrun', .inl ⟨?_, ?_⟩⟩⟩
      · rwa [Run.WorksOff, hstage']
      · rw [hnow, hsettings, hdue]
    · have hle : c'.now ≤ due := by
        rcases now_step hs with heq | ⟨-, -, -, hdue⟩
        · omega
        · exact hdue r run due hrun hlingers
      exact .inl ⟨hfirst, hle, fun hretired =>
        ⟨run', hrun', hfate.tracker_eq ha, hretired run' hrun', .inr ⟨hstage'.trans hlingers, hle⟩⟩⟩

/-- A run that has ended tells the pages nothing more. -/
theorem refreshes_of_ended (hc : c.Guarded settings) {as : List Action}
    (h : c.steps as = some (c', notes))
    (hended : ∃ run, c.runs[r]? = some run ∧ run.stage = .ended) :
    refreshes r notes = [] ∧ c.now ≤ c'.now := by
  have hkeeps := hc.keeps
    (P := fun c' notes => (∃ run, c'.runs[r]? = some run ∧ run.stage = .ended) ∧
      refreshes r notes = [] ∧ c.now ≤ c'.now) ?_ ⟨hended, rfl, Nat.le_refl _⟩ h
  · exact hkeeps.2
  · rintro c₁ notes a c₂ first - ⟨⟨run, hrun, hended⟩, hnone, hle⟩ hs
    rcases step_notes hs r with ⟨run₀, run', as, -, hrun₀, hstep, -⟩ | ⟨ha, -, hfirst⟩
    · cases hrun.symm.trans hrun₀
      exact absurd hended hstep.stage_ne_ended
    · obtain ⟨run', hrun', hfate⟩ := (step_cases hs).fate hrun
      exact ⟨⟨run', hrun', (hfate.stage_eq ha).trans hended⟩, by simp [hnone, hfirst],
        Nat.le_trans hle (now_le_step hs)⟩

/-- **The whole wait**: it goes on, or the pages have been told. -/
theorem Awaits.steps (h : c.Awaits r t o due) (hc : c.Guarded settings)
    (hp : t.phase = .settled o) (ho : o.triggersRefresh) {as : List Action}
    (has : c.steps as = some (c', notes)) (hr : unretiredUntil r due c as) :
    (refreshes r notes = [] ∧ c'.Awaits r t o due) ∨
      (refreshes r notes = [t.task] ∧ due ≤ c'.now) := by
  induction as generalizing c notes with
  | nil =>
    cases has
    exact .inl ⟨rfl, h⟩
  | cons a as ih =>
    obtain ⟨c₁, first, rest, hfirst, hrest, rfl⟩ := step_of_steps_cons has
    have hr₁ := unretiredUntil_of_cons hr hfirst
    have hc₁ := (step_cases hfirst).guarded hc
    rcases h.step hc hp ho hfirst with ⟨hnone, hle, hgoes⟩ | ⟨hone, hnow, hended⟩
    · have hawaits := hgoes fun run hrun => retired_of_unretiredUntil hr₁ hle hrun
      rw [refreshes_append, hnone, List.nil_append]
      exact ih hawaits hc₁ hrest hr₁
    · obtain ⟨hrefreshes, hle⟩ := refreshes_of_ended hc₁ hrest hended
      have hle₁ := now_le_step hfirst
      exact .inr ⟨by simp [hone, hrefreshes], by omega⟩

/-! ## 3. The settling -/

/-- **When a run settles its task**, it works that off: it has heard a signal, or it is new. -/
theorem worksOff_of_settling (hc : c.Guarded settings) {a : Action}
    (hs : c.step a = some (c', notes)) (hnot : ¬ c.SettledRun r) {run : Run}
    (hrun : c'.runs[r]? = some run) (hp : run.tracker.phase = .settled o) : run.WorksOff o := by
  have hstep := step_cases hs
  rcases Nat.lt_or_ge r c.runs.length with hlt | hge
  · have hrun₀ := List.getElem?_eq_getElem hlt
    generalize c.runs[r] = run₀ at hrun₀
    have hp₀ : run₀.tracker.phase.isSettled = false :=
      Bool.eq_false_iff.mpr fun hp₀ => hnot ⟨run₀, hrun₀, hp₀⟩
    obtain ⟨run₁, hrun₁, hfate⟩ := hstep.fate hrun₀
    cases hrun.symm.trans hrun₁
    by_cases ha : a = .run r
    · cases hfate with
      | steps _ hs =>
        rw [hc.settings_eq] at hs
        exact Run.worksOff_of_settles (hc.reached r run₀ hrun₀) (Run.step_cases hs) hp₀ hp
      | same =>
        rw [hp] at hp₀
        cases hp₀
      | hears ha' => cases ha.symm.trans ha'
      | told plan =>
        rw [plan.tell_tracker] at hp
        rw [hp] at hp₀
        cases hp₀
    · rw [← hfate.tracker_eq ha, hp] at hp₀
      cases hp₀
  · have hlt' := (List.getElem?_eq_some_iff.mp hrun).1
    obtain ⟨i, plan, reply, start, -, rfl, -⟩ := hstep.tracks_of_length_lt (by omega)
    have hrun' : (c.runs ++ [(Run.start start.tracker).1])[r]? = some run := hrun
    rw [List.getElem?_append_right hge, List.getElem?_singleton] at hrun'
    split at hrun'
    · cases hrun'
      exact Run.worksOff_start hp
    · cases hrun'

/-- **What the pages hear of a settled run**, which nobody retires before the moment. -/
inductive Refreshed (c : Console) (r : Nat) (t : Tracker) (due : Nat) (later : List Note) : Prop
  /-- Not before the moment, and not after it: the clock waits for it.  Until then the settled
  task is shown. -/
  | waits (hnone : refreshes r later = []) (hview : c.view = t.view) (hnow : c.now ≤ due)
      (hquiet : c.isQuiet → c.now < due)
      (hnext : ∀ a c' notes, c.step a = some (c', notes) →
        refreshes r notes = [] ∨ (c.now = due ∧ refreshes r notes = [t.task]))
  | told (hone : refreshes r later = [t.task]) (hnow : due ≤ c.now)

theorem Awaits.refreshed (h : c.Awaits r t o due) (hc : c.Guarded settings) (hs : c.Shown)
    (hp : t.phase = .settled o) (ho : o.triggersRefresh) {later : List Note}
    (hnone : refreshes r later = []) : c.Refreshed r t due later := by
  refine .waits hnone ?_ h.now_le h.lt_of_isQuiet fun a c' notes hstep => ?_
  · obtain ⟨run, hrun, rfl, -, hstage⟩ := h
    refine hs r run hrun fun hended => ?_
    rcases hstage with ⟨hworks, -⟩ | ⟨hlingers, -⟩
    · exact hworks.stage_ne_ended hended
    · cases hended.symm.trans hlingers
  · rcases h.step hc hp ho hstep with ⟨hquiet, -⟩ | ⟨hone, hnow, -⟩
    · exact .inl hquiet
    · exact .inr ⟨hnow, hone⟩

/-- **The pages are told to refresh once for each task**, if at all:

* no run tells them twice, and only with a task that has completed or failed, or whose restart
  is confirmed, and with its last record;
* when such a run has settled its task, it tells them exactly the refresh delay later, unless
  it is retired before, with the record that has been shown since. -/
theorem refreshed_once {wall : WallClock} {as : List Action}
    (h : (new settings wall).steps as = some (c, notes)) (r : Nat) :
    (refreshes r notes).length ≤ 1 ∧
    (∀ task ∈ refreshes r notes, ∃ run o, c.runs[r]? = some run ∧ run.tracker.task = task ∧
      run.tracker.phase = .settled o ∧
      (o = .completed ∨ (∃ message, o = .failed message) ∨ o = .restartConfirmed)) ∧
    ∀ a c₁ first run o, c.step a = some (c₁, first) → ¬ c.SettledRun r →
      c₁.runs[r]? = some run → run.tracker.phase = .settled o →
      (o = .completed ∨ (∃ message, o = .failed message) ∨ o = .restartConfirmed) →
      refreshes r (notes ++ first) = [] ∧
        ∀ more c₂ later, c₁.steps more = some (c₂, later) →
          unretiredUntil r (c₁.now + settings.refreshDelay) c₁ more →
            c₂.Refreshed r run.tracker (c₁.now + settings.refreshDelay) later := by
  have hreachable : Reachable settings wall c := ⟨as, notes, h⟩
  have hc := guarded_of_reachable hreachable
  have hshown := shown_of_reachable hreachable
  have haccounted := accounted_of_steps h r
  refine ⟨?_, fun task htask => ?_, fun a c₁ first run o hs hnot hrun hp ho => ?_⟩
  · rcases haccounted with hnone | ⟨run, o, -, -, -, -, hone⟩
    · simp [hnone]
    · simp [hone]
  · rcases haccounted with hnone | ⟨run, o, hrun, -, hp, ho, hone⟩
    · simp [hnone] at htask
    · rw [hone] at htask
      exact ⟨run, o, hrun, (List.mem_singleton.mp htask).symm, hp,
        Outcome.triggersRefresh_iff.mp ho⟩
  · have ho := Outcome.triggersRefresh_iff.mpr ho
    have hc₁ := (step_cases hs).guarded hc
    have hworks := worksOff_of_settling hc hs hnot hrun hp
    refine ⟨?_, fun more c₂ later hmore hunretired => ?_⟩
    · rcases haccounted.step hc hs with hnone | ⟨run', o', hrun', hended, -⟩
      · exact hnone
      · cases hrun.symm.trans hrun'
        exact absurd hended hworks.stage_ne_ended
    · have hawaits : c₁.Awaits r run.tracker o (c₁.now + settings.refreshDelay) := by
        refine ⟨run, hrun, rfl, ?_, .inl ⟨hworks, by rw [hc₁.settings_eq]⟩⟩
        exact retired_of_unretiredUntil hunretired (Nat.le_add_right _ _) hrun
      rcases hawaits.steps hc₁ hp ho hmore hunretired with ⟨hnone, hawaits₂⟩ | ⟨hone, hnow⟩
      · have hshown₂ := ((step_cases hs).shown hc hshown).steps hc₁ hmore
        exact hawaits₂.refreshed (hc₁.steps hmore) hshown₂ hp ho hnone
      · exact .told hone hnow

/-- A package is installed and needs no restart, so its task is settled from the start.  After
the delay the pages have been told, with its record. -/
theorem refreshed_once_of_install :
    let before : List Action :=
      [.invoke (.install ⟨"a.zip", []⟩), .call 0 none, .call 0 (some (.installed (.ok {})))]
    let after : List Action := [.run 0, .run 0, .elapse 15, .run 0]
    ∃ c notes c₁ run c₂ later,
      (new { refreshDelay := 15 } ⟨"", "7"⟩).steps before = some (c, notes) ∧
      c.step (.call 0 none) = some (c₁, []) ∧ c₁.runs[0]? = some run ∧
      run.tracker.phase = .settled .completed ∧ c₁.steps after = some (c₂, later) ∧
      unretiredUntil 0 (c₁.now + 15) c₁ after ∧ c₂.now = 15 ∧
      refreshes 0 later = [run.tracker.task] ∧ c₂.Refreshed 0 run.tracker 15 later := by
  intro before after
  have h : (new { refreshDelay := 15 } ⟨"", "7"⟩).steps before = some (_, _) := rfl
  refine ⟨_, _, _, _, _, _, h, rfl, rfl, rfl, rfl, rfl, rfl, rfl, ?_⟩
  obtain ⟨-, -, hsettles⟩ := refreshed_once h 0
  exact (hsettles (.call 0 none) _ _ _ _ rfl (by rintro ⟨_, ⟨⟩, _⟩) rfl rfl (.inl rfl)).2 after _ _
    rfl rfl

end Console

end TaskWatch
