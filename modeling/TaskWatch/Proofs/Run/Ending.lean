/-
# The end of a run

Once its task is settled, a run works off what was asked for with the settling (`WorksOff`),
and then it lingers or has ended.  Nothing of that has to be waited for: a source that is
cancelled is over at its next step (`Source.poll_cancelled`), so a run that carries out
effects can take a step, or its source can, without any news (**`advances`**).

* **`WorksOff.step`**: the effects are followed by the end, or, if the outcome calls for a
  refresh, by lingering for exactly the refresh delay.
* **`Step.owes_cases`**: what a run still owes the server, which is to tell it that the task is
  cancelled, it pays once.  As long as the task is not settled there is nothing to pay
  (**`Reached.owes_of_unsettled`**).
-/
import TaskWatch.Proofs.Run.Attention

namespace TaskWatch

open Tracker (Opens)

/-! ## 1. Sources that are cancelled -/

/-- A watch that is cancelled does not get past the start of a round. -/
theorem Probe.round_cancelled (p : Probe) (now : Nat) :
    ∃ outcome, (p.round now true).1 = .ended outcome := by
  by_cases hb : p.settings.budget ≤ p.elapsed now
  · exact ⟨.timeout (p.elapsed now), by simp [round, hb]⟩
  · exact ⟨.cancelled, by simp [round, hb]⟩

/-- **A source that is cancelled is over at its next step**, which needs no news. -/
theorem Source.poll_cancelled {s : Source} (h : s.isOver = false) (now : Nat) :
    ∃ s' deeds, s.poll now true none = some (s', deeds) ∧ s'.isOver := by
  cases s with
  | subscriber taskId idle stage =>
    cases stage with
    | ended => cases h
    | fresh | attaching | reading => exact ⟨_, _, rfl, rfl⟩
  | inquiry taskId stage =>
    cases stage with
    | ended => cases h
    | fresh | asking => exact ⟨_, _, rfl, rfl⟩
  | grace length stage =>
    cases stage with
    | ended => cases h
    | fresh | waiting => exact ⟨_, _, rfl, rfl⟩
  | probe stage =>
    cases stage with
    | ended outcome => cases h
    | checking | pausing => exact ⟨_, _, rfl, rfl⟩
    | fresh settings =>
      let p : Probe :=
        { settings, phase := .awaitingDown, ticker := .start now settings.downInterval }
      obtain ⟨outcome, heq⟩ := p.round_cancelled now
      have hpoll : (probe (.fresh settings)).poll now true none =
          some (probe (p.round now true).1, _) := rfl
      refine ⟨_, _, hpoll, ?_⟩
      rw [heq]
      rfl

/-! ## 2. Telling the server -/

namespace Tracker

theorem remoteCancel_not_mem_close (t : Tracker) (event : Event) :
    .remoteCancel ∉ (t.close event).2 := by
  unfold close
  cases event.outcome? <;> simp [settle]

/-- **As long as the task is not settled**, the server need not be told to stop it. -/
theorem Move.remoteCancel_not_mem {t t' : Tracker} {signal : Signal} {effects : List Effect}
    (h : Move t signal t' effects) (hp : t'.phase.isSettled = false) :
    .remoteCancel ∉ effects := by
  cases h with
  | ended => simp [remoteCancel_not_mem_close]
  | reconciled => exact remoteCancel_not_mem_close _ _
  | cancelled => simp [Phase.isSettled] at hp
  | _ => simp

theorem remoteCancel_not_mem_begin (t : Tracker) : .remoteCancel ∉ t.begin.2 := by
  unfold begin
  split <;> simp

end Tracker

namespace Run

variable {settings : ConsoleSettings} {now : Nat} {r r' : Run} {acts : List Act}

/-! ## 3. Runs that do not wait -/

/-- How far a source is from being forgotten by a run that stops it. -/
def sourceLeft : Option (Source × Bool) → Nat
  | none => 0
  | some (s, cancelled) => if s.isOver then 1 else if cancelled then 2 else 3

theorem sourceLeft_le (source : Option (Source × Bool)) : sourceLeft source ≤ 3 := by
  unfold sourceLeft
  repeat' split
  all_goals omega

/-- **How far a run is from having carried out its effects.** -/
def left (r : Run) : Nat :=
  match r.stage with
  | .executing effects _ => 4 * (effects.length + 1) + sourceLeft r.source
  | _ => 0

/-- **Every step brings it closer.** -/
theorem Step.left_lt (h : Step settings now r r' acts) {effects : List Effect}
    {outcome : Option Outcome} (hstage : r.stage = .executing effects outcome) :
    r'.left < r.left := by
  cases h with
  | cancelsSource _ hs ho | forgetsSource _ hs ho => simp [left, hstage, hs, sourceLeft, ho]
  | tells h =>
    cases hstage.symm.trans h
    simp only [left, hstage, List.length_cons]
    omega
  | performs h _ _ hs | settles h hs =>
    cases hstage.symm.trans h
    simp only [left, hstage, List.length_cons]
    have hle := sourceLeft_le
    grind
  | listens | lingers | closes =>
    simp only [left, hstage]
    omega
  | leaves h | hears h | departs h | abandons h | refreshes h => cases hstage.symm.trans h

/-- With its source in the way, a run lets it go, or waits for a source that is cancelled. -/
theorem stopSource_busy (r : Run) (next : Run → Run × List Act) :
    (r.stopSource next).isSome ∨ ∃ s, r.source = some (s, true) ∧ s.isOver = false := by
  cases hs : r.source with
  | none => exact .inl (by simp [stopSource, hs])
  | some source =>
    obtain ⟨s, cancelled⟩ := source
    cases ho : s.isOver with
    | true => exact .inl (by simp [stopSource, hs, ho])
    | false =>
      cases cancelled with
      | false => exact .inl (by simp [stopSource, hs, ho])
      | true => exact .inr ⟨s, rfl, ho⟩

/-- **A run that carries out effects does not wait**: it takes a step, or its source does without
any news, and either brings it closer to the end. -/
theorem advances {effects : List Effect} {outcome : Option Outcome}
    (h : r.stage = .executing effects outcome) (settings : ConsoleSettings) (now : Nat) :
    (∃ r' acts, r.step settings now = some (r', acts) ∧ r'.left < r.left) ∨
      ∃ r' deeds, r.hear now none = some (r', deeds) ∧ r'.stage = r.stage ∧
        r'.left < r.left := by
  have hstep : (r.step settings now).isSome → ∃ r' acts,
      r.step settings now = some (r', acts) ∧ r'.left < r.left := by
    intro hsome
    obtain ⟨⟨r', acts⟩, hs⟩ := Option.isSome_iff_exists.mp hsome
    exact ⟨r', acts, hs, (step_cases hs).left_lt h⟩
  have hstop : ∀ next, r.step settings now = r.stopSource next →
      (r.step settings now).isSome ∨ ∃ s, r.source = some (s, true) ∧ s.isOver = false := by
    intro next heq
    rw [heq]
    exact r.stopSource_busy next
  have hbusy : (r.step settings now).isSome ∨
      ∃ s, r.source = some (s, true) ∧ s.isOver = false := by
    cases effects with
    | nil => exact .inl (by simp [step, h])
    | cons effect rest =>
      cases effect with
      | remoteCancel => exact .inl (by simp [step, h, perform])
      | settle | subscribe | closeStream | queryFallback | startGrace | startProbe =>
        exact hstop _ (by simp only [step, h, perform]; rfl)
  rcases hbusy with hsome | ⟨s, hs, ho⟩
  · exact .inl (hstep hsome)
  · obtain ⟨s', deeds, hpoll, ho'⟩ := s.poll_cancelled ho now
    refine .inr ⟨{ r with source := some (s', true), inbox := r.inbox ++ saying deeds }, deeds,
      ?_, rfl, ?_⟩
    · simp [hear, hs, hpoll]
      rfl
    · simp [left, h, hs, sourceLeft, ho, ho']

/-- A run that has ended takes no step. -/
theorem Step.stage_ne_ended (h : Step settings now r r' acts) : r.stage ≠ .ended := by
  intro he
  cases h with
  | cancelsSource hstop | forgetsSource hstop => simp [stops, he] at hstop
  | tells hstage | performs hstage | settles hstage | listens hstage | lingers hstage
  | closes hstage | leaves hstage | hears hstage | departs hstage | abandons hstage
  | refreshes hstage => cases he.symm.trans hstage

/-! ## 4. Working off -/

/-- **A run that works off the settling of its task**: the settling is the last of its
effects, or it was. -/
def WorksOff (r : Run) (o : Outcome) : Prop :=
  (∃ effects, r.stage = .executing effects none ∧ Opens (.settled o) effects) ∨
    r.stage = .executing [] (some o)

theorem WorksOff.exists_stage {o : Outcome} (h : r.WorksOff o) :
    ∃ effects outcome, r.stage = .executing effects outcome := by
  obtain ⟨effects, h, -⟩ | h := h <;> exact ⟨_, _, h⟩

theorem WorksOff.stage_ne_ended {o : Outcome} (h : r.WorksOff o) : r.stage ≠ .ended := by
  obtain ⟨effects, outcome, hstage⟩ := h.exists_stage
  simp [hstage]

/-- A run that works off does not wait. -/
theorem WorksOff.busy {o : Outcome} (h : r.WorksOff o) (settings : ConsoleSettings) (now : Nat) :
    (r.step settings now).isSome ∨ (r.hear now none).isSome := by
  obtain ⟨effects, outcome, hstage⟩ := h.exists_stage
  rcases advances hstage settings now with ⟨r', acts, hs, -⟩ | ⟨r', deeds, hs, -⟩
  · exact .inl (by simp [hs])
  · exact .inr (by simp [hs])

/-- The effects of a run that works off: something aside, or the settling, and then no more. -/
theorem WorksOff.cons_cases {o : Outcome} (h : r.WorksOff o) {effect : Effect}
    {rest : List Effect} {outcome : Option Outcome}
    (hstage : r.stage = .executing (effect :: rest) outcome) :
    outcome = none ∧
      ((effect.isAside ∧ Opens (.settled o) rest) ∨ (effect = .settle o ∧ rest = [])) := by
  obtain ⟨effects, heq, hopens⟩ | heq := h
  · cases hstage.symm.trans heq
    exact ⟨rfl, hopens.cons_cases⟩
  · cases hstage.symm.trans heq

/-- With no effect left, it has carried out the settling. -/
theorem WorksOff.outcome_eq {o : Outcome} (h : r.WorksOff o) {outcome : Option Outcome}
    (hstage : r.stage = .executing [] outcome) : outcome = some o := by
  obtain ⟨effects, heq, hopens⟩ | heq := h
  · cases hstage.symm.trans heq
    obtain ⟨effect, rest, hcons⟩ := hopens.exists_cons
    cases hcons
  · cases hstage.symm.trans heq
    rfl

/-- **After the last effect comes the end**, or the delay before the refresh begins. -/
theorem WorksOff.step {o : Outcome} (h : r.WorksOff o) (hs : Step settings now r r' acts) :
    r'.WorksOff o ∨
      (o.triggersRefresh ∧ r'.stage = .lingering (now + settings.refreshDelay)) ∨
      (o.triggersRefresh = false ∧ r'.stage = .ended) := by
  cases hs with
  | cancelsSource | forgetsSource => exact .inl h
  | tells hstage =>
    obtain ⟨rfl, ⟨-, hrest⟩ | ⟨heq, -⟩⟩ := h.cons_cases hstage
    · exact .inl (.inl ⟨_, rfl, hrest⟩)
    · cases heq
  | performs hstage hc ho =>
    obtain ⟨rfl, ⟨-, hrest⟩ | ⟨heq, -⟩⟩ := h.cons_cases hstage
    · exact .inl (.inl ⟨_, rfl, hrest⟩)
    · exact absurd heq (ho o)
  | settles hstage =>
    obtain ⟨rfl, ⟨haside, -⟩ | ⟨heq, rfl⟩⟩ := h.cons_cases hstage
    · cases haside
    · cases heq
      exact .inl (.inr rfl)
  | listens hstage => cases h.outcome_eq hstage
  | lingers hstage ho =>
    cases h.outcome_eq hstage
    exact .inr (.inl ⟨ho, rfl⟩)
  | closes hstage ho =>
    cases h.outcome_eq hstage
    exact .inr (.inr ⟨ho, rfl⟩)
  | leaves hstage | hears hstage | departs hstage | abandons hstage | refreshes hstage =>
    obtain ⟨effects, outcome, heq⟩ := h.exists_stage
    cases hstage.symm.trans heq

/-- **The last step of a run that lingers**: it has been retired, or the time has come. -/
theorem step_lingering {due : Nat} (h : r.stage = .lingering due)
    (hs : Step settings now r r' acts) :
    r'.stage = .ended ∧ ((r.retired ∧ acts = []) ∨
      (r.retired = false ∧ due ≤ now ∧ acts = [.refresh r.tracker.task])) := by
  cases hs with
  | abandons hstage hr => exact ⟨rfl, .inl ⟨hr, rfl⟩⟩
  | refreshes hstage hr hd =>
    cases h.symm.trans hstage
    exact ⟨rfl, .inr ⟨hr, hd, rfl⟩⟩
  | cancelsSource hstop | forgetsSource hstop => simp [stops, h] at hstop
  | tells hstage | performs hstage | settles hstage | listens hstage | lingers hstage
  | closes hstage | leaves hstage | hears hstage | departs hstage =>
    cases h.symm.trans hstage

/-! ## 5. Settling -/

/-- **A run settles its task** when it hears a signal, and works that off from then on. -/
theorem worksOff_of_settles {o : Outcome} (hr : Reached settings r)
    (hs : Step settings now r r' acts) (hp : r.tracker.phase.isSettled = false)
    (hp' : r'.tracker.phase = .settled o) : r'.WorksOff o := by
  have hne : r'.tracker ≠ r.tracker := by
    intro heq
    rw [← heq, hp'] at hp
    cases hp
  cases hs with
  | hears hstage hretired hi =>
    rename_i signal rest
    rcases (Tracker.apply_move hr.accord signal).opens with ⟨-, hphase, -⟩ | ⟨hopens, -⟩
    · rw [← hphase, hp'] at hp
      cases hp
    · rw [hp'] at hopens
      exact .inl ⟨_, rfl, hopens⟩
  | _ => exact absurd rfl hne

/-- So does a run of a task that is settled from the start. -/
theorem worksOff_start {start : Tracker.Start} {o : Outcome}
    (hp : (Run.start start.tracker).1.tracker.phase = .settled o) :
    (Run.start start.tracker).1.WorksOff o := by
  have hopens : Opens (Run.start start.tracker).1.tracker.phase start.tracker.begin.2 :=
    start.opens_begin
  rw [hp] at hopens
  exact .inl ⟨_, rfl, hopens⟩

/-! ## 6. What is owed to the server -/

/-- The server is told. -/
def Act.told? : Act → Option String
  | .remoteCancel taskId => some taskId
  | .show _ | .refresh _ => none

/-- The pages are told. -/
def Act.refreshed? : Act → Option Task
  | .refresh task => some task
  | .show _ | .remoteCancel _ => none

/-- **What a run still has to tell the server.** -/
def owes (r : Run) : List String :=
  match r.stage with
  | .executing effects _ => List.replicate (effects.count .remoteCancel) r.tracker.task.id
  | _ => []

theorem owes_of_executing {effects : List Effect} {outcome : Option Outcome}
    (h : r.stage = .executing effects outcome) :
    r.owes = List.replicate (effects.count .remoteCancel) r.tracker.task.id := by
  simp [owes, h]

theorem owes_of_not_executing (h : ∀ effects outcome, r.stage ≠ .executing effects outcome) :
    r.owes = [] := by
  unfold owes
  split
  · rename_i effects outcome hstage
    exact absurd hstage (h effects outcome)
  · rfl

/-- **What is owed is paid once**, and nothing is added to it but by a signal that is heard. -/
theorem Step.owes_cases (h : Step settings now r r' acts) :
    acts.filterMap Act.told? ++ r'.owes = r.owes ∨
      ∃ signal, r.owes = [] ∧ acts.filterMap Act.told? = [] ∧
        r'.tracker = (r.tracker.apply signal).1 ∧
        r'.owes =
          List.replicate ((r.tracker.apply signal).2.count .remoteCancel) r'.tracker.task.id := by
  cases h with
  | cancelsSource | forgetsSource => exact .inl rfl
  | tells hstage =>
    rw [owes_of_executing hstage, owes_of_executing rfl, List.count_cons_self, List.replicate_succ]
    exact .inl rfl
  | performs hstage hc =>
    rw [owes_of_executing hstage, owes_of_executing rfl, List.count_cons_of_ne hc]
    exact .inl rfl
  | settles hstage =>
    rw [owes_of_executing hstage, owes_of_executing rfl, List.count_cons_of_ne (by simp)]
    exact .inl rfl
  | listens hstage | lingers hstage | closes hstage =>
    rw [owes_of_executing hstage]
    exact .inl rfl
  | hears hstage =>
    have hnone : r.owes = [] := owes_of_not_executing (by simp [hstage])
    exact .inr ⟨_, hnone, rfl, rfl, owes_of_executing rfl⟩
  | leaves hstage | departs hstage | abandons hstage | refreshes hstage =>
    rw [owes_of_not_executing (r := r) (by simp [hstage])]
    exact .inl rfl

/-- **A settled run only pays.** -/
theorem Step.owes_of_isSettled (h : Step settings now r r' acts)
    (hp : r.tracker.phase.isSettled) : acts.filterMap Act.told? ++ r'.owes = r.owes := by
  rcases h.owes_cases with hpays | ⟨signal, hnone, htold, -, howes⟩
  · exact hpays
  · have hignored : r.tracker.apply signal = (r.tracker, []) := by
      refine Tracker.apply_of_not_heeds ?_
      cases ho : r.tracker.phase with
      | settled o => exact Tracker.heeds_settled o signal
      | _ => simp [ho, Phase.isSettled] at hp
    rw [hnone, htold, howes, hignored]
    rfl

/-- **A run whose task is not settled owes nothing**, and pays nothing. -/
theorem Step.owes_of_unsettled (h : Step settings now r r' acts) (ha : r.tracker.Accord)
    (howes : r.tracker.phase.isSettled = false → r.owes = [])
    (hp : r'.tracker.phase.isSettled = false) :
    acts.filterMap Act.told? = [] ∧ r'.owes = [] := by
  have hbefore : r.tracker.phase.isSettled = false := by
    cases hb : r.tracker.phase.isSettled with
    | false => rfl
    | true =>
      rw [h.tracker_of_isSettled hb, hb] at hp
      cases hp
  rcases h.owes_cases with hpays | ⟨signal, -, htold, htracker, hcalls⟩
  · rw [howes hbefore] at hpays
    exact List.append_eq_nil_iff.mp hpays
  · have hmove := Tracker.apply_move ha signal
    rw [htracker] at hp
    rw [hcalls, List.count_eq_zero.mpr (hmove.remoteCancel_not_mem hp)]
    exact ⟨htold, rfl⟩

/-- **Nothing is owed as long as the task is not settled.** -/
theorem Reached.owes_of_unsettled (h : Reached settings r)
    (hp : r.tracker.phase.isSettled = false) : r.owes = [] := by
  obtain ⟨start, ts, x, hx, rfl⟩ := h
  have hkeeps : x.Orderly ∧ (x.run.tracker.phase.isSettled = false → x.run.owes = []) := by
    refine Signed.keeps (P := fun x => x.Orderly ∧
      (x.run.tracker.phase.isSettled = false → x.run.owes = [])) ?_
      ⟨Signed.orderly_opening start, fun hp => ?_⟩ hx
    · rintro x x' t ⟨hx, howes⟩ ht
      refine ⟨Signed.orderly_turn hx ht, fun hp' => ?_⟩
      rcases Signed.turn_cases ht with ⟨now, run, acts, -, hstep, rfl⟩ |
        ⟨now, news, s, s', cancelled, deeds, -, -, -, rfl⟩ | ⟨-, rfl⟩ | ⟨-, rfl⟩
      · exact (hstep.owes_of_unsettled hx.accord howes hp').2
      · exact howes hp'
      · exact howes hp'
      · exact howes hp'
    · have hcount := List.count_eq_zero.mpr start.tracker.remoteCancel_not_mem_begin
      exact (owes_of_executing rfl).trans (congrArg (List.replicate · _) hcount)
  exact hkeeps.2 hp

end Run

end TaskWatch
