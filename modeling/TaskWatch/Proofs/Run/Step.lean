/-
# What a run can do

A step of a run is made of a stage, an effect and a source that may have to be stopped
first.  This module says once what comes of it, so that no later proof has to open
`Run.step`.

* **`Step`** lists what a step can be, one constructor for each, with what was the case
  before it.  **`step_cases`**: every step is one of them.
* A run lets go of a source only when that source is over (`Step.keeps_source`).
* What a source says while it takes a step goes into the queue (`hear_cases`).
-/
import TaskWatch.Run
import TaskWatch.Proofs.Source.Speech

namespace TaskWatch

namespace Run

/-! ## 1. Steps -/

/-- The run is about to stop its source. -/
def stops (r : Run) : Bool :=
  match r.stage with
  | .executing (.remoteCancel :: _) _ => false
  | .executing (_ :: _) _ | .leaving => true
  | _ => false

/-- **What one step of a run can be**, at a moment. -/
inductive Step (settings : ConsoleSettings) (now : Nat) (r : Run) : Run → List Act → Prop
  /-- The source is told to stop. -/
  | cancelsSource {s : Source} (h : r.stops) (hs : r.source = some (s, false))
      (ho : s.isOver = false) : Step settings now r { r with source := some (s, true) } []
  /-- The source has come to its end. -/
  | forgetsSource {s : Source} {cancelled : Bool} (h : r.stops)
      (hs : r.source = some (s, cancelled)) (ho : s.isOver) :
      Step settings now r { r with source := none } []
  /-- The server is told to stop the task. -/
  | tells {rest : List Effect} {outcome : Option Outcome}
      (h : r.stage = .executing (.remoteCancel :: rest) outcome) :
      Step settings now r { r with stage := .executing rest outcome }
        [.remoteCancel r.tracker.task.id]
  /-- An effect that starts a source, or leaves none. -/
  | performs {effect : Effect} {rest : List Effect} {outcome : Option Outcome}
      (h : r.stage = .executing (effect :: rest) outcome) (hc : effect ≠ .remoteCancel)
      (ho : ∀ o, effect ≠ .settle o) (hs : r.source = none) :
      Step settings now r
        { r with
          stage := .executing rest outcome
          source := (sourceOf? settings r.tracker.task.id effect).map (·, false) } []
  | settles {o : Outcome} {rest : List Effect} {outcome : Option Outcome}
      (h : r.stage = .executing (.settle o :: rest) outcome) (hs : r.source = none) :
      Step settings now r { r with stage := .executing rest (some o), source := none } []
  | listens (h : r.stage = .executing [] none) :
      Step settings now r { r with stage := .listening } []
  | lingers {o : Outcome} (h : r.stage = .executing [] (some o)) (ho : o.triggersRefresh) :
      Step settings now r { r with stage := .lingering (now + settings.refreshDelay) } []
  /-- Settled, and no refresh is called for. -/
  | closes {o : Outcome} (h : r.stage = .executing [] (some o))
      (ho : o.triggersRefresh = false) : Step settings now r { r with stage := .ended } []
  /-- Retired while it listens. -/
  | leaves (h : r.stage = .listening) (hr : r.retired) :
      Step settings now r { r with stage := .leaving } []
  | hears {signal : Signal} {rest : List Signal} (h : r.stage = .listening)
      (hr : r.retired = false) (hi : r.inbox = signal :: rest) :
      Step settings now r
        { r with
          tracker := (r.tracker.apply signal).1
          inbox := rest
          stage := .executing (r.tracker.apply signal).2 none }
        [.show (r.tracker.apply signal).1.view]
  | departs (h : r.stage = .leaving) (hs : r.source = none) :
      Step settings now r { r with stage := .ended } []
  /-- Retired while it lingers. -/
  | abandons {due : Nat} (h : r.stage = .lingering due) (hr : r.retired) :
      Step settings now r { r with stage := .ended } []
  | refreshes {due : Nat} (h : r.stage = .lingering due) (hr : r.retired = false)
      (hd : due ≤ now) : Step settings now r { r with stage := .ended } [.refresh r.tracker.task]

variable {settings : ConsoleSettings} {now : Nat} {r r' : Run} {acts : List Act}

/-- With a source in the way, its end comes first. -/
theorem stopSource_cases {next : Run → Run × List Act} (hstop : r.stops)
    (h : r.stopSource next = some (r', acts))
    (hnext : r.source = none → Step settings now r (next r).1 (next r).2) :
    Step settings now r r' acts := by
  unfold stopSource at h
  split at h
  · rename_i hs
    rw [Option.some.injEq] at h
    have := hnext hs
    rwa [h] at this
  · rename_i source cancelled hs
    split at h
    · rename_i ho
      cases h
      exact .forgetsSource hstop hs ho
    · rename_i ho
      cases cancelled with
      | true => cases h
      | false =>
        cases h
        exact .cancelsSource hstop hs (Bool.eq_false_iff.mpr ho)

/-- **Every step is one of the list.** -/
theorem step_cases (h : r.step settings now = some (r', acts)) : Step settings now r r' acts := by
  unfold step at h
  split at h
  · rename_i effect rest outcome hstage
    cases effect with
    | remoteCancel =>
      cases h
      exact .tells hstage
    | settle o =>
      simp only [perform] at h
      refine stopSource_cases (by simp [stops, hstage]) h fun hs => ?_
      exact .settles hstage hs
    | subscribe | closeStream | queryFallback | startGrace | startProbe =>
      simp only [perform] at h
      refine stopSource_cases (by simp [stops, hstage]) h fun hs => ?_
      exact .performs hstage (by simp) (by simp) hs
  · rename_i outcome hstage
    cases h
    cases outcome with
    | none => exact .listens hstage
    | some o =>
      simp only [afterEffects]
      split
      · rename_i ho
        exact .lingers hstage ho
      · rename_i ho
        exact .closes hstage (Bool.eq_false_iff.mpr ho)
  · rename_i hstage
    split at h
    · rename_i hr
      cases h
      exact .leaves hstage hr
    · rename_i hr
      split at h
      · cases h
      · rename_i signal inbox hi
        cases h
        exact .hears hstage (Bool.eq_false_iff.mpr hr) hi
  · rename_i hstage
    refine stopSource_cases (by simp [stops, hstage]) h fun hs => ?_
    exact .departs hstage hs
  · rename_i due hstage
    split at h
    · rename_i hr
      cases h
      exact .abandons hstage hr
    · rename_i hr
      split at h
      · rename_i hd
        cases h
        exact .refreshes hstage (Bool.eq_false_iff.mpr hr) hd
      · cases h
  · cases h

/-! ## 2. What a step leaves alone -/

namespace Step

/-- **A run lets go of a source only when the source is over.** -/
theorem keeps_source (h : Step settings now r r' acts) {s : Source} {cancelled : Bool}
    (hs : r.source = some (s, cancelled)) (ho : s.isOver = false) :
    ∃ cancelled', r'.source = some (s, cancelled') := by
  cases h with
  | cancelsSource _ hs' _ =>
    rw [hs] at hs'
    cases hs'
    exact ⟨true, rfl⟩
  | forgetsSource _ hs' ho' =>
    rw [hs] at hs'
    cases hs'
    simp [ho] at ho'
  | performs _ _ _ hs' | settles _ hs' =>
    rw [hs] at hs'
    cases hs'
  | tells | listens | lingers | closes | leaves | hears | departs | abandons | refreshes =>
    exact ⟨cancelled, hs⟩

/-- **A settled tracker hears nothing any more.** -/
theorem tracker_of_isSettled (h : Step settings now r r' acts) (hp : r.tracker.phase.isSettled) :
    r'.tracker = r.tracker := by
  cases h with
  | hears hstage hr hi =>
    rename_i signal rest
    cases ho : r.tracker.phase with
    | settled o =>
      have hnot : r.tracker.phase.heeds signal = false := by
        rw [ho]
        exact Tracker.heeds_settled o signal
      exact congrArg Prod.fst (Tracker.apply_of_not_heeds hnot)
    | _ =>
      rw [ho] at hp
      cases hp
  | _ => rfl

/-- A step shows the new picture of a tracker, or the tracker stays as it is. -/
theorem shows (h : Step settings now r r' acts) :
    (acts = [.show r'.tracker.view] ∧ r.stage = .listening ∧ r.retired = false) ∨
      (r'.tracker = r.tracker ∧ ∀ v, Act.show v ∉ acts) := by
  cases h with
  | hears hstage hr hi => exact .inl ⟨rfl, hstage, hr⟩
  | _ => exact .inr ⟨rfl, by simp⟩

end Step

/-- **What a source's step does to its run**: the source goes on, and what it says is queued. -/
theorem hear_cases {news : Option News} {deeds : List Deed}
    (h : r.hear now news = some (r', deeds)) :
    ∃ s s' cancelled, r.source = some (s, cancelled) ∧
      s.poll now (cancelled || r.retired) news = some (s', deeds) ∧
      r' = { r with source := some (s', cancelled), inbox := r.inbox ++ saying deeds } := by
  simp only [hear, Option.bind_eq_bind, Option.bind_eq_some_iff, Option.some.injEq] at h
  obtain ⟨⟨s, cancelled⟩, hs, ⟨s', deeds'⟩, hpoll, heq⟩ := h
  cases heq
  exact ⟨s, s', cancelled, hs, hpoll, rfl⟩

end Run

end TaskWatch
