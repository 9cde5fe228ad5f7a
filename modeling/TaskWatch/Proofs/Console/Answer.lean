/-
# How a cancellation is answered

The call that cancels puts its signal behind all that the tracked run has still to hear, waits for
the end of the run, and then judges by the outcome that is shown.

* The tracked run is not retired, and holds no cancellation yet (`Untouched`).
* **`Judging`** is what every step leaves of the call: as long as the signal is in the queue, the
  ruling on what is left ahead of it is the same; once the task is settled, the outcome is what
  the answer goes by.
* The call needs neither a client nor a server to come back (`Judging.returns`): the run hears one
  signal after another until the task is settled, and lingers for a while at most.

**`cancel_judged`** puts them together.  The call is meant to say that it has cancelled a task
only when its own signal has settled it; **`cancelled_by_memory`** is a history in which it says so
though the server had cancelled the task before, and has been told nothing.
-/
import TaskWatch.Proofs.Console.Ruling
import TaskWatch.Proofs.Console.Rest
import TaskWatch.Proofs.Console.Supersession

namespace TaskWatch

namespace Run

variable {settings : ConsoleSettings} {now : Nat} {r r' : Run} {acts : List Act}

/-! ## 1. A run and its queue -/

/-- **A step hears the first signal of the queue**, or it leaves queue and tracker alone. -/
theorem Step.hears_or_keeps (h : Step settings now r r' acts) :
    (∃ signal, r.inbox = signal :: r'.inbox ∧ r'.tracker = (r.tracker.apply signal).1 ∧
      r'.stage = .executing (r.tracker.apply signal).2 none ∧
      acts = [.show r'.tracker.view]) ∨
    (r'.inbox = r.inbox ∧ r'.tracker = r.tracker) := by
  cases h with
  | hears hstage hr hi => exact .inl ⟨_, hi, rfl, rfl, rfl⟩
  | _ => exact .inr ⟨rfl, rfl⟩

/-- **A run does not end before its task is settled**, unless it is retired. -/
theorem Reached.stage_ne_ended (h : Reached settings r) (hr : r.retired = false)
    (hp : r.tracker.phase.isSettled = false) {other : ConsoleSettings}
    (hs : Step other now r r' acts) : r'.stage ≠ .ended := by
  obtain ⟨start, ts, x, hx, rfl⟩ := h
  have hsit := (Signed.orderly_turns hx).situation
  cases hs with
  | cancelsSource hstop | forgetsSource hstop =>
    intro hended
    have hended : x.run.stage = .ended := hended
    simp [stops, hended] at hstop
  | closes hstage =>
    simp only [Signed.Situation, hstage] at hsit
    simp [hsit.2.1, Phase.isSettled] at hp
  | departs hstage =>
    simp only [Signed.Situation, hstage] at hsit
    simp [hr] at hsit
  | abandons hstage | refreshes hstage =>
    simp only [Signed.Situation, hstage] at hsit
    obtain ⟨o, -, ho, -⟩ := hsit
    simp [ho, Phase.isSettled] at hp
  | _ => simp

/-- **As long as its task is not settled**, a run carries out effects or listens. -/
theorem Reached.executing_or_listening (h : Reached settings r) (hr : r.retired = false)
    (hp : r.tracker.phase.isSettled = false) (hgoes : r.stage ≠ .ended) :
    (∃ effects outcome, r.stage = .executing effects outcome) ∨ r.stage = .listening := by
  obtain ⟨start, ts, x, hx, rfl⟩ := h
  have hsit := (Signed.orderly_turns hx).situation
  cases hstage : x.run.stage with
  | executing effects outcome => exact .inl ⟨effects, outcome, rfl⟩
  | listening => exact .inr rfl
  | leaving =>
    simp only [Signed.Situation, hstage] at hsit
    simp [hr] at hsit
  | lingering due =>
    simp only [Signed.Situation, hstage] at hsit
    obtain ⟨o, -, ho, -⟩ := hsit
    simp [ho, Phase.isSettled] at hp
  | ended => exact absurd hstage hgoes

/-- **Nobody has interfered with a run**: it is not retired, and no cancellation is in its
queue. -/
structure Untouched (r : Run) : Prop where
  retired : r.retired = false
  inbox : .cancel ∉ r.inbox

theorem Untouched.step (h : r.Untouched) (hs : Step settings now r r' acts) : r'.Untouched := by
  refine ⟨hs.retired_eq.trans h.retired, fun hmem => h.inbox ?_⟩
  rcases hs.hears_or_keeps with ⟨signal, hi, -⟩ | ⟨hi, -⟩
  · rw [hi]
    exact List.mem_cons_of_mem _ hmem
  · rwa [← hi]

theorem Untouched.hear (h : r.Untouched) {news : Option News} {deeds : List Deed}
    (hs : r.hear now news = some (r', deeds)) : r'.Untouched := by
  obtain ⟨s, s', cancelled, -, hpoll, rfl⟩ := hear_cases hs
  refine ⟨h.retired, fun hmem => ?_⟩
  rcases List.mem_append.mp hmem with hmem | hmem
  · exact h.inbox hmem
  · exact Source.cancel_not_mem_saying hpoll hmem

/-- **Only the queue has grown.** -/
structure Grows (r r' : Run) : Prop where
  tracker : r'.tracker = r.tracker
  stage : r'.stage = r.stage
  retired : r'.retired = r.retired
  inbox : ∃ more, r'.inbox = r.inbox ++ more

theorem Grows.refl (r : Run) : r.Grows r :=
  ⟨rfl, rfl, rfl, [], (List.append_nil _).symm⟩

end Run

namespace Console

variable {settings : ConsoleSettings} {c c' : Console} {notes : List Note}

/-! ## 2. The tracked run -/

/-- With one run replaced, the tracked one is untouched if it was. -/
theorem untouched_set (hu : ∀ r run, c.active = some r → c.runs[r]? = some run → run.Untouched)
    {r₀ : Nat} {run₀ run₁ : Run} (hrun₀ : c.runs[r₀]? = some run₀)
    (hkeeps : run₀.Untouched → run₁.Untouched) (r : Nat) (run : Run) (ha : c.active = some r)
    (hrun : (c.runs.set r₀ run₁)[r]? = some run) : run.Untouched := by
  rw [List.getElem?_set] at hrun
  split at hrun
  · rename_i heq
    subst heq
    split at hrun
    · cases hrun
      exact hkeeps (hu r₀ run₀ ha hrun₀)
    · cases hrun
  · exact hu r run ha hrun

/-- **The tracked run is untouched**: whoever retires or cancels it stops tracking it. -/
theorem untouched_of_reachable {wall : WallClock} (h : Reachable settings wall c) (r : Nat)
    (run : Run) (ha : c.active = some r) (hrun : c.runs[r]? = some run) : run.Untouched := by
  obtain ⟨as, notes, has⟩ := h
  refine steps_keeps
    (P := fun c => ∀ r run, c.active = some r → c.runs[r]? = some run → run.Untouched)
    (fun c a c' notes hu hstep r run ha hrun => ?_) ?_ has r run ha hrun
  · cases hstep with
    | runs hrun₀ hs =>
      rw [acts_active] at ha
      rw [acts_runs] at hrun
      exact untouched_set hu hrun₀ (·.step (Run.step_cases hs)) r run ha hrun
    | hears hrun₀ hs => exact untouched_set hu hrun₀ (·.hear hs) r run ha hrun
    | tells => cases ha
    | tracks =>
      cases ha
      have hnew : (c.runs ++ [_])[c.runs.length]? = some run := hrun
      rw [List.getElem?_concat_length] at hnew
      cases hnew
      exact ⟨rfl, List.not_mem_nil⟩
    | _ => exact hu r run ha hrun
  · intro r run ha
    cases ha

/-- **While a call waits for a run**, the others only add to its queue. -/
theorem Step.grows_joining (hc : c.Guarded settings) {a : Action} (h : Step c a c' notes)
    {i r : Nat} {plan : Plan} (hi : c.stage? i = some (.joining r plan)) {run : Run}
    (hrun : c.runs[r]? = some run) (ha : a ≠ .run r) :
    ∃ run', c'.runs[r]? = some run' ∧ run.Grows run' := by
  cases h with
  | runs hrun₀ hs =>
    have hne : _ ≠ r := fun heq => ha (congrArg Action.run heq)
    exact ⟨run, by simp [hne, hrun], .refl run⟩
  | hears hrun₀ hs =>
    rename_i r₀ news run₀ run₁ deeds
    by_cases heq : r₀ = r
    · subst heq
      cases hrun.symm.trans hrun₀
      have hlt := (List.getElem?_eq_some_iff.mp hrun).1
      obtain ⟨s, s', cancelled, -, -, rfl⟩ := Run.hear_cases hs
      exact ⟨_, List.getElem?_set_self hlt, rfl, rfl, rfl, _, rfl⟩
    · exact ⟨run, by simp [heq, hrun], .refl run⟩
  | tells h hl hactive => cases (hc.holder i r plan hi).2.symm.trans hactive
  | tracks =>
    have hlt := (List.getElem?_eq_some_iff.mp hrun).1
    exact ⟨run, (List.getElem?_append_left hlt).trans hrun, .refl run⟩
  | _ => exact ⟨run, hrun, .refl run⟩

/-- A run that hears something new shows it. -/
theorem Step.view_of_heard {r : Nat} (h : Step c (.run r) c' notes) {run run' : Run}
    (hrun : c.runs[r]? = some run) (hrun' : c'.runs[r]? = some run')
    (hne : run'.tracker ≠ run.tracker) : c'.view = run'.tracker.view := by
  cases h with
  | runs h₀ hs₀ =>
    cases hrun.symm.trans h₀
    have hlt := (List.getElem?_eq_some_iff.mp hrun).1
    rw [acts_runs, setRun_runs, List.getElem?_set_self hlt] at hrun'
    cases hrun'
    rcases (Run.step_cases hs₀).shows with ⟨rfl, -, -⟩ | ⟨hsame, -⟩
    · rfl
    · exact absurd hsame hne

/-! ## 3. From the signal to the answer -/

variable {i r : Nat} {run : Run} {reply : Reply} {calls : List String} {o : Outcome}
  {ahead : List Signal}

/-- **The cancellation is in the queue**, with these signals ahead of it. -/
structure Queues (c : Console) (i r : Nat) (run : Run) (ahead : List Signal) (reply : Reply)
    (calls : List String) : Prop where
  call : c.stage? i = some (.joining r .cancel)
  place : c.runs[r]? = some run
  retired : run.retired = false
  goesOn : run.stage ≠ .ended
  unsettled : run.tracker.phase.isSettled = false
  inbox : ∃ behind, run.inbox = ahead ++ .cancel :: behind
  clear : .cancel ∉ ahead
  ruling : run.tracker.Ruling ahead reply calls

/-- **The task is settled**, and the call waits for the end of the run. -/
structure Settles (c : Console) (i r : Nat) (run : Run) (o : Outcome) : Prop where
  call : c.stage? i = some (.joining r .cancel)
  place : c.runs[r]? = some run
  retired : run.retired = false
  phase : run.tracker.phase = .settled o
  stage : run.WorksOff o ∨ (∃ due, run.stage = .lingering due) ∨ run.stage = .ended
  view : c.view = run.tracker.view

/-- The call does not come back before the run has ended. -/
theorem step_of_not_ended {plan : Plan} (hi : c.stage? i = some (.joining r plan))
    (hrun : c.runs[r]? = some run) (hgoes : run.stage ≠ .ended) (news : Option CallNews) :
    c.step (.call i news) = none := by
  obtain ⟨call, hcall, hstage⟩ := Option.map_eq_some_iff.mp hi
  simp [step, stepCall, hcall, hstage, hasEnded, hrun, Run.isEnded, hgoes]

/-- **When the run has ended, the call answers** by the outcome. -/
theorem Settles.step_of_ended (h : c.Settles i r run o) (hended : run.stage = .ended)
    (news : Option CallNews) : c.step (.call i news) = some (c.finish i o.answer, []) := by
  obtain ⟨call, hcall, hstage⟩ := Option.map_eq_some_iff.mp h.call
  have hnotice : c.view.notice = some o := by
    rw [h.view]
    exact Tracker.outcome?_eq_some_iff.mpr h.phase
  cases o <;>
    simp [step, stepCall, hcall, hstage, hasEnded, h.place, Run.isEnded, hended, carryOut, hnotice,
      Outcome.answer]

/-- **One signal is heard**: it is the cancellation, or one that is ahead of it. -/
theorem Queues.heard (h : c.Queues i r run ahead reply calls) (ha : run.tracker.Accord)
    {signal : Signal} {rest : List Signal} (hi : run.inbox = signal :: rest) :
    (∃ ahead', (∃ behind, rest = ahead' ++ .cancel :: behind) ∧ .cancel ∉ ahead' ∧
      ahead'.length < ahead.length ∧
      (run.tracker.apply signal).1.phase.isSettled = false ∧
      (run.tracker.apply signal).1.Ruling ahead' reply calls) ∨
    ∃ o, (run.tracker.apply signal).1.phase = .settled o ∧ reply = o.answer ∧
      List.replicate ((run.tracker.apply signal).2.count .remoteCancel)
        (run.tracker.apply signal).1.task.id = calls := by
  obtain ⟨behind, hinbox⟩ := h.inbox
  rw [hi] at hinbox
  have hruling := h.ruling
  cases ahead with
  | nil =>
    cases hinbox
    obtain ⟨rfl, hcancels⟩ := hruling.nil_cases
    obtain ⟨calls', hcancels', hcalls⟩ := ha.cancels h.unsettled
    obtain ⟨o, ho, hwho⟩ := hcancels.exists_outcome
    refine .inr ⟨o, ho, ?_, hcalls.trans (hcancels'.unique hcancels)⟩
    rcases hwho with rfl | rfl <;> rfl
  | cons first ahead =>
    cases hinbox
    obtain ⟨hne, hclear⟩ : .cancel ≠ signal ∧ .cancel ∉ ahead := by simpa using h.clear
    rcases hruling.cons_cases with ⟨hp, hruling'⟩ | ⟨o, ho, hreply, rfl⟩
    · exact .inl ⟨ahead, ⟨behind, rfl⟩, hclear, Nat.lt_succ_self _, hp, hruling'⟩
    · have hmove := Tracker.apply_move ha signal
      have hnone := hmove.remoteCancel_not_mem_of_ne (Ne.symm hne)
      exact .inr ⟨o, ho, hreply, by rw [List.count_eq_zero.mpr hnone]; rfl⟩

/-- **One step with the cancellation in the queue**: it is still there, with nothing more ahead of
it, or the task is settled. -/
theorem Queues.step (h : c.Queues i r run ahead reply calls) (hc : c.Guarded settings)
    {a : Action} (hs : c.step a = some (c', notes)) :
    (∃ run' ahead', c'.Queues i r run' ahead' reply calls ∧ told r notes = [] ∧
      ((ahead' = ahead ∧ run.inbox <+: run'.inbox) ∨ ahead'.length < ahead.length)) ∨
    ∃ run' o, c'.Settles i r run' o ∧ reply = o.answer ∧ told r notes ++ run'.owes = calls := by
  have hreached := hc.reached r run h.place
  have ha : ∀ news, a ≠ .call i news := by
    rintro news rfl
    simp [step_of_not_ended h.call h.place h.goesOn] at hs
  have hcall := (step_cases hs).stage?_keep ha (by simp) h.call
  rcases step_notes hs r with ⟨run₀, run', as, rfl, hrun₀, hstep, hrun', htold, -⟩ |
    ⟨hne, htold, -⟩
  · cases h.place.symm.trans hrun₀
    have hretired := hstep.retired_eq.trans h.retired
    have hgoes := hreached.stage_ne_ended h.retired h.unsettled hstep
    rcases hstep.hears_or_keeps with ⟨signal, hi, htracker, hstage, rfl⟩ | ⟨hi, htracker⟩
    · rcases h.heard hreached.accord hi with
        ⟨ahead', hinbox, hclear, hless, hp, hruling⟩ | ⟨o, ho, hreply, hcalls⟩
      · rw [← htracker] at hp hruling
        exact .inl ⟨run', ahead', ⟨hcall, hrun', hretired, hgoes, hp, hinbox, hclear, hruling⟩,
          htold, .inr hless⟩
      · rw [← htracker] at ho hcalls
        refine .inr ⟨run', o, ⟨hcall, hrun', hretired, ho, .inl ?_, ?_⟩, hreply, ?_⟩
        · rw [hc.settings_eq] at hstep
          exact Run.worksOff_of_settles hreached hstep h.unsettled ho
        · refine (step_cases hs).view_of_heard h.place hrun' fun hsame => ?_
          have hp := h.unsettled
          rw [← hsame, ho] at hp
          cases hp
        · rw [htold, Run.owes_of_executing hstage]
          exact hcalls
    · have hp := h.unsettled
      have hruling := h.ruling
      have hinbox := h.inbox
      rw [← htracker] at hp hruling
      rw [← hi] at hinbox
      have hnone := (hstep.owes_of_unsettled hreached.accord hreached.owes_of_unsettled hp).1
      exact .inl ⟨run', ahead, ⟨hcall, hrun', hretired, hgoes, hp, hinbox, h.clear, hruling⟩,
        htold.trans hnone, .inl ⟨rfl, hi ▸ List.prefix_rfl⟩⟩
  · obtain ⟨run', hrun', hgrows⟩ := (step_cases hs).grows_joining hc h.call h.place hne
    have hp := h.unsettled
    have hruling := h.ruling
    rw [← hgrows.tracker] at hp hruling
    obtain ⟨behind, hinbox⟩ := h.inbox
    obtain ⟨more, hmore⟩ := hgrows.inbox
    refine .inl ⟨run', ahead, ⟨hcall, hrun', hgrows.retired.trans h.retired, ?_, hp, ?_, h.clear,
      hruling⟩, htold, .inl ⟨rfl, more, hmore.symm⟩⟩
    · rw [hgrows.stage]
      exact h.goesOn
    · exact ⟨behind ++ more, by rw [hmore, hinbox, List.append_assoc, List.cons_append]⟩

/-- **One step with the task settled**: the run works off what is left, or the call answers. -/
theorem Settles.step (h : c.Settles i r run o) (hc : c.Guarded settings) {a : Action}
    (hs : c.step a = some (c', notes)) :
    (∃ run', c'.Settles i r run' o ∧ told r notes ++ run'.owes = run.owes) ∨
      (c'.stage? i = some (.done o.answer) ∧ told r notes = run.owes ∧ c'.Still r) := by
  have hsettled : run.tracker.phase.isSettled := by rw [h.phase]; rfl
  by_cases ha : ∃ news, a = .call i news
  · obtain ⟨news, rfl⟩ := ha
    have hended : run.stage = .ended := by
      refine Decidable.byContradiction fun hgoes => ?_
      simp [step_of_not_ended h.call h.place hgoes] at hs
    rw [h.step_of_ended hended] at hs
    cases hs
    have hsource := (hc.reached r run h.place).source_of_ended hended
    exact .inr ⟨(stage?_finish h.call _ i).trans (if_pos rfl),
      (Run.owes_of_not_executing (by simp [hended])).symm, run, h.place, hended, hsource⟩
  · have ha : ∀ news, a ≠ .call i news := fun news heq => ha ⟨news, heq⟩
    have hcall := (step_cases hs).stage?_keep ha (by simp) h.call
    have hview := (step_cases hs).view_joining hc ha h.call h.place hsettled h.view
    rcases step_notes hs r with ⟨run₀, run', as, rfl, hrun₀, hstep, hrun', htold, -⟩ |
      ⟨hne, htold, -⟩
    · cases h.place.symm.trans hrun₀
      have htracker := hstep.tracker_of_isSettled hsettled
      refine .inl ⟨run', ⟨hcall, hrun', hstep.retired_eq.trans h.retired, ?_, ?_, ?_⟩, ?_⟩
      · rw [htracker, h.phase]
      · rcases h.stage with hworks | ⟨due, hlingers⟩ | hended
        · rcases hworks.step hstep with hworks' | ⟨-, hlingers⟩ | ⟨-, hended⟩
          · exact .inl hworks'
          · exact .inr (.inl ⟨_, hlingers⟩)
          · exact .inr (.inr hended)
        · exact .inr (.inr (Run.step_lingering hlingers hstep).1)
        · exact absurd hended hstep.stage_ne_ended
      · rw [hview, htracker]
      · rw [htold]
        exact hstep.owes_of_isSettled hsettled
    · obtain ⟨run', hrun', hgrows⟩ := (step_cases hs).grows_joining hc h.call h.place hne
      refine .inl ⟨run', ⟨hcall, hrun', hgrows.retired.trans h.retired, ?_, ?_, ?_⟩, ?_⟩
      · rw [hgrows.tracker, h.phase]
      · rw [Run.WorksOff, hgrows.stage]
        exact h.stage
      · rw [hview, hgrows.tracker]
      · rw [htold, List.nil_append, Run.owes, hgrows.stage, hgrows.tracker, Run.owes]

/-- **A call that waits for the ruling**, or has it, after all these notes. -/
inductive Judging (c : Console) (i r : Nat) (reply : Reply) (calls : List String)
    (notes : List Note) : Prop
  | queues {run : Run} {ahead : List Signal} (h : c.Queues i r run ahead reply calls)
      (htold : told r notes = [])
  | settles {run : Run} {o : Outcome} (h : c.Settles i r run o) (hreply : reply = o.answer)
      (htold : told r notes ++ run.owes = calls)
  | answered (hi : c.stage? i = some (.done reply)) (htold : told r notes = calls)
      (hstill : c.Still r)

/-- **What every step leaves of it.** -/
theorem Judging.step (h : c.Judging i r reply calls notes) (hc : c.Guarded settings) {a : Action}
    {first : List Note} (hs : c.step a = some (c', first)) :
    c'.Judging i r reply calls (notes ++ first) := by
  cases h with
  | queues h hnone =>
    rcases h.step hc hs with ⟨run', ahead', h', htold, -⟩ | ⟨run', o, h', hreply, htold⟩
    · exact .queues h' (by rw [told_append, hnone, htold]; rfl)
    · exact .settles h' hreply (by rw [told_append, hnone, List.nil_append, htold])
  | settles h hreply htold =>
    rcases h.step hc hs with ⟨run', h', hpaid⟩ | ⟨hdone, hpaid, hstill⟩
    · exact .settles h' hreply (by rw [told_append, List.append_assoc, hpaid, htold])
    · exact .answered (hreply ▸ hdone) (by rw [told_append, hpaid, htold]) hstill
  | answered hi htold hstill =>
    refine .answered ((step_cases hs).stage?_done hi) ?_ (hstill.step (step_cases hs))
    rw [told_append, htold]
    rcases step_notes hs r with ⟨run₀, run', as, -, hrun₀, hstep, -⟩ | ⟨-, hnone, -⟩
    · obtain ⟨run, hrun, hended, -⟩ := hstill
      cases hrun.symm.trans hrun₀
      exact absurd hended hstep.stage_ne_ended
    · rw [hnone, List.append_nil]

/-- What a sequence of steps leaves of it. -/
theorem Judging.steps (h : c.Judging i r reply calls notes) (hc : c.Guarded settings)
    {as : List Action} {later : List Note} (has : c.steps as = some (c', later)) :
    c'.Judging i r reply calls (notes ++ later) := by
  refine hc.keeps (P := fun c later => c.Judging i r reply calls (notes ++ later)) ?_
    (by rwa [List.append_nil]) has
  intro c later a c' first hc h hs
  rw [← List.append_assoc]
  exact h.step hc hs

/-! ## 4. The way back -/

/-- **The call comes back with this reply**, if nobody interferes, without any client or server. -/
def Returns (c : Console) (i : Nat) (reply : Reply) : Prop :=
  ∃ more c' rest, (∀ a ∈ more, a.isUnaided) ∧ c.steps more = some (c', rest) ∧
    c'.stage? i = some (.done reply)

theorem Returns.of_steps {as : List Action} (has : c.steps as = some (c', notes))
    (ha : ∀ a ∈ as, a.isUnaided) (h : c'.Returns i reply) : c.Returns i reply := by
  obtain ⟨more, c₂, rest, hmore, hsteps, hdone⟩ := h
  refine ⟨as ++ more, c₂, _, fun a hmem => ?_, steps_append has hsteps, hdone⟩
  rcases List.mem_append.mp hmem with hmem | hmem
  · exact ha a hmem
  · exact hmore a hmem

theorem Returns.of_step {a : Action} (hs : c.step a = some (c', notes)) (ha : a.isUnaided)
    (h : c'.Returns i reply) : c.Returns i reply :=
  have has : c.steps [a] = some (c', notes ++ []) := steps_of_step hs rfl
  .of_steps has (by simpa using ha) h

theorem step_of_run {run' : Run} {as : List Run.Act} (hrun : c.runs[r]? = some run)
    (hs : run.step c.settings c.now = some (run', as)) :
    ∃ c' notes, c.step (.run r) = some (c', notes) ∧ c'.runs[r]? = some run' := by
  have hlt := (List.getElem?_eq_some_iff.mp hrun).1
  exact ⟨_, _, by simp [step, stepRun, hrun, hs]; rfl, by simp [hlt]⟩

/-- As long as the call itself takes no step, the settled run is waited for. -/
theorem Settles.goes (h : c.Settles i r run o) (hc : c.Guarded settings) {a : Action}
    (hs : c.step a = some (c', notes)) (ha : ∀ news, a ≠ .call i news) {run' : Run}
    (hrun' : c'.runs[r]? = some run') : c'.Settles i r run' o := by
  rcases h.step hc hs with ⟨run₁, h', -⟩ | ⟨hdone, -⟩
  · cases hrun'.symm.trans h'.place
    exact h'
  · cases ((step_cases hs).stage?_keep ha (by simp) h.call).symm.trans hdone

/-- It is waited for until the call is done. -/
theorem Settles.steps (h : c.Settles i r run o) (hc : c.Guarded settings) {as : List Action}
    (has : c.steps as = some (c', notes)) :
    (∃ run', c'.Settles i r run' o) ∨ c'.stage? i = some (.done o.answer) := by
  refine hc.keeps (P := fun c _ => (∃ run, c.Settles i r run o) ∨
    c.stage? i = some (.done o.answer)) ?_ (.inl ⟨run, h⟩) has
  rintro c notes a c' first hc (⟨run, h⟩ | hdone) hs
  · rcases h.step hc hs with ⟨run', h', -⟩ | ⟨hdone, -⟩
    · exact .inl ⟨run', h'⟩
    · exact .inr hdone
  · exact .inr ((step_cases hs).stage?_done hdone)

/-- A run that has ended lets the call come back. -/
theorem Settles.returns_of_ended (h : c.Settles i r run o) (hended : run.stage = .ended) :
    c.Returns i o.answer :=
  .of_step (h.step_of_ended hended none) rfl
    ⟨[], _, [], by simp, rfl, (stage?_finish h.call _ i).trans (if_pos rfl)⟩

/-- So does one that lingers, once its moment has come. -/
theorem Settles.returns_of_due (h : c.Settles i r run o) (hc : c.Guarded settings) {due : Nat}
    (hlingers : run.stage = .lingering due) (hdue : due ≤ c.now) : c.Returns i o.answer := by
  have hrefreshes : run.step c.settings c.now =
      some ({ run with stage := .ended }, [.refresh run.tracker.task]) := by
    simp [Run.step, hlingers, h.retired, hdue]
  obtain ⟨c₁, first, hs, hrun₁⟩ := step_of_run h.place hrefreshes
  exact .of_step hs rfl ((h.goes hc hs (by simp) hrun₁).returns_of_ended rfl)

/-- And its moment does come. -/
theorem Settles.returns_of_lingering (h : c.Settles i r run o) (hc : c.Guarded settings)
    {due : Nat} (hlingers : run.stage = .lingering due) : c.Returns i o.answer := by
  rcases Nat.lt_or_ge c.now due with hnow | hdue
  · obtain ⟨more, c₁, rest, hmore, hsteps, hrun₁, hnow₁, hi₁⟩ :=
      exists_due hc h.call h.place hlingers h.retired hnow
    refine .of_steps hsteps hmore ?_
    rcases h.steps hc hsteps with ⟨run₁, h₁⟩ | hdone
    · cases hrun₁.symm.trans h₁.place
      exact h₁.returns_of_due (hc.steps hsteps) hlingers (Nat.le_of_eq hnow₁.symm)
    · cases hi₁.symm.trans hdone
  · exact h.returns_of_due hc hlingers hdue

/-- **From the settling on, the call comes back** with the answer to the outcome. -/
theorem Settles.returns (h : c.Settles i r run o) (hc : c.Guarded settings) :
    c.Returns i o.answer := by
  -- by induction on how far the run is from having worked off the settling
  induction hleft : run.left using Nat.strongRecOn generalizing c run with
  | ind n ih =>
    subst hleft
    rcases h.stage with hworks | ⟨due, hlingers⟩ | hended
    · obtain ⟨effects, outcome, hstage⟩ := hworks.exists_stage
      obtain ⟨a, c₁, first, run₁, ha, hs, hrun₁, hless⟩ := exists_step_of_executing h.place hstage
      have hcall : ∀ news, a ≠ .call i news := by rcases ha with rfl | rfl <;> simp
      have hunaided : a.isUnaided := by rcases ha with rfl | rfl <;> rfl
      exact .of_step hs hunaided
        (ih _ hless (h.goes hc hs hcall hrun₁) ((step_cases hs).guarded hc) rfl)
    · exact h.returns_of_lingering hc hlingers
    · exact h.returns_of_ended hended

/-- **The run comes to the cancellation**, or settles its task before. -/
theorem Queues.returns {c : Console} {run : Run} {ahead : List Signal}
    (h : c.Queues i r run ahead reply calls) (hc : c.Guarded settings) : c.Returns i reply := by
  rcases (hc.reached r run h.place).executing_or_listening h.retired h.unsettled h.goesOn with
    ⟨effects, outcome, hstage⟩ | hstage
  · obtain ⟨a, c₁, first, run₁, ha, hs, hrun₁, hless⟩ := exists_step_of_executing h.place hstage
    have hunaided : a.isUnaided := by rcases ha with rfl | rfl <;> rfl
    refine .of_step hs hunaided ?_
    rcases h.step hc hs with ⟨run', ahead', h', -, hcloser⟩ | ⟨run', o, h', rfl, -⟩
    · cases hrun₁.symm.trans h'.place
      exact h'.returns ((step_cases hs).guarded hc)
    · exact h'.returns ((step_cases hs).guarded hc)
  · obtain ⟨signal, rest, hinbox⟩ : ∃ signal rest, run.inbox = signal :: rest := by
      obtain ⟨behind, hinbox⟩ := h.inbox
      cases ahead <;> exact ⟨_, _, hinbox⟩
    have hhears : ∃ run₁ as, run.step c.settings c.now = some (run₁, as) ∧ run₁.inbox = rest := by
      simp [Run.step, hstage, h.retired, hinbox]
    obtain ⟨run₁, as, hrun, hrest⟩ := hhears
    obtain ⟨c₁, first, hs, hrun₁⟩ := step_of_run h.place hrun
    refine .of_step hs rfl ?_
    rcases h.step hc hs with ⟨run', ahead', h', -, hcloser⟩ | ⟨run', o, h', rfl, -⟩
    · cases hrun₁.symm.trans h'.place
      have hless : ahead'.length < ahead.length := by
        rcases hcloser with ⟨-, hprefix⟩ | hless
        · have hle := hprefix.length_le
          simp only [hinbox, hrest, List.length_cons] at hle
          omega
        · exact hless
      exact h'.returns ((step_cases hs).guarded hc)
    · exact h'.returns ((step_cases hs).guarded hc)
termination_by (ahead.length, run.left)
decreasing_by
  · rcases hcloser with ⟨rfl, -⟩ | hlt
    · exact .right _ hless
    · exact .left _ _ hlt
  · exact .left _ _ hless

theorem Judging.returns (h : c.Judging i r reply calls notes) (hc : c.Guarded settings) :
    c.Returns i reply := by
  cases h with
  | queues h => exact h.returns hc
  | settles h hreply =>
    rw [hreply]
    exact h.returns hc
  | answered hi => exact ⟨[], c, [], by simp, rfl, hi⟩

/-! ## 5. The answer -/

/-- **The signal is sent** when a task is tracked that is not settled. -/
theorem step_of_inLine_cancel (hi : c.stage? i = some (.inLine .cancel))
    (hl : c.lock.head? = some i) (ha : c.active = some r) (hrun : c.runs[r]? = some run)
    (hview : c.view.isSettled = false) (hgoes : run.stage ≠ .ended) (news : Option CallNews) :
    ∃ c₁, c.step (.call i news) = some (c₁, []) ∧ c₁.stage? i = some (.joining r .cancel) ∧
      c₁.runs[r]? = some { run with inbox := run.inbox ++ [.cancel] } := by
  refine ⟨_, (step_of_inLine hi hl news).trans ?_, stage?_setStage_self (c := { c with
    runs := c.runs.modify r fun run => { run with inbox := run.inbox ++ [Signal.cancel] }
    active := none }) hi _, ?_⟩
  · simp [takeUp, ha, hview, hasEnded, hrun, Run.isEnded, hgoes]
  · simp [setStage, hrun]

/-- **Otherwise the call is refused**, and that is all. -/
theorem step_of_inLine_refused (hi : c.stage? i = some (.inLine .cancel))
    (hl : c.lock.head? = some i)
    (hno : c.active = none ∨ c.view.isSettled ∨ ∃ r, c.active = some r ∧ c.hasEnded r)
    (news : Option CallNews) :
    c.step (.call i news) = some (c.finish i (.refused .noActiveTask), []) := by
  rw [step_of_inLine hi hl news]
  cases ha : c.active with
  | none => simp [takeUp, ha]
  | some r =>
    rcases hno with hnone | hview | ⟨r', ha', hended⟩
    · cases ha.symm.trans hnone
    · simp [takeUp, ha, hview]
    · cases ha.symm.trans ha'
      simp [takeUp, ha, hended]

/-- **What the ruling comes to**, for the call and for the server, after all these notes. -/
inductive Judged (c : Console) (i r : Nat) (reply : Reply) (calls : List String)
    (notes : List Note) : Prop
  /-- The call comes back by itself, and the server is told nothing else until then. -/
  | waits (hi : c.stage? i = some (.joining r .cancel)) (htold : told r notes <+: calls)
      (hreturns : c.Returns i reply)
  /-- The server has been told, and the run does no more. -/
  | answered (hi : c.stage? i = some (.done reply)) (htold : told r notes = calls)
      (hsilent : c.Silent r)

theorem Judging.judged (h : c.Judging i r reply calls notes) (hc : c.Guarded settings) :
    c.Judged i r reply calls notes := by
  have hreturns := h.returns hc
  cases h with
  | queues h hnone => exact .waits h.call (by simp [hnone]) hreturns
  | settles h hreply htold => exact .waits h.call ⟨_, htold⟩ hreturns
  | answered hi htold hstill => exact .answered hi htold hstill.silent

/-- **The answer to a cancellation**, when the call that sends it has got the lock.

* With no task tracked, or none that is not settled, the call is refused at once.
* Otherwise its signal is put behind all that the run has still to hear, and there is a ruling.
  Whatever happens then, the call comes back with the reply of the ruling, and when it has, the
  server has been told what the ruling says and the run does no more.

So the call says that it has cancelled the task in two cases: its signal has settled the task, or
one ahead has brought the server's memory of a cancellation. -/
theorem cancel_judged {wall : WallClock} {as : List Action}
    (h : (new settings wall).steps as = some (c, notes))
    (hi : c.stage? i = some (.inLine .cancel)) (hl : c.lock.head? = some i)
    (news : Option CallNews) :
    (c.active = none ∨ c.view.isSettled ∨ (∃ r, c.active = some r ∧ c.hasEnded r) →
      c.step (.call i news) = some (c.finish i (.refused .noActiveTask), [])) ∧
    ∀ (r : Nat) run, c.active = some r → c.runs[r]? = some run → c.view.isSettled = false →
      run.stage ≠ .ended →
        (∃ reply calls, run.tracker.Ruling run.inbox reply calls) ∧
        ∃ c₁, c.step (.call i news) = some (c₁, []) ∧
          c₁.runs[r]? = some { run with inbox := run.inbox ++ [.cancel] } ∧
          ∀ reply calls, run.tracker.Ruling run.inbox reply calls →
            ∀ more c₂ later, c₁.steps more = some (c₂, later) →
              c₂.Judged i r reply calls (notes ++ later) := by
  refine ⟨fun hno => step_of_inLine_refused hi hl hno news, ?_⟩
  intro r run ha hrun hview hgoes
  have hreachable : Reachable settings wall c := ⟨as, notes, h⟩
  have hc := guarded_of_reachable hreachable
  have huntouched := untouched_of_reachable hreachable r run ha hrun
  have hp : run.tracker.phase.isSettled = false := by
    rw [shown_of_reachable hreachable r run hrun hgoes, Tracker.isSettled_view] at hview
    exact hview
  have hnone : told r notes = [] := by
    refine told_of_unsettled h ?_
    rintro ⟨run₀, hrun₀, hp₀⟩
    cases hrun.symm.trans hrun₀
    simp [hp] at hp₀
  obtain ⟨c₁, hs, hi₁, hrun₁⟩ := step_of_inLine_cancel hi hl ha hrun hview hgoes news
  refine ⟨(hc.reached r run hrun).accord.exists_ruling hp huntouched.inbox, c₁, hs, hrun₁, ?_⟩
  intro reply calls hruling more c₂ later hmore
  have hc₁ := (step_cases hs).guarded hc
  have hqueues : c₁.Queues i r { run with inbox := run.inbox ++ [.cancel] } run.inbox reply calls :=
    ⟨hi₁, hrun₁, huntouched.retired, hgoes, hp, ⟨[], rfl⟩, huntouched.inbox, hruling⟩
  have hjudging : c₁.Judging i r reply calls notes := .queues hqueues hnone
  exact (hjudging.steps hc₁ hmore).judged (hc₁.steps hmore)

/-- A console that has asked the server to start a task; the address is read once for all the
histories that begin so. -/
theorem step_asks (settings : ConsoleSettings) (wall : WallClock) :
    let params : Params := { repoUrl := "http://[::]" }
    step { new settings wall with calls := [⟨.start params, .fresh⟩] } (.call 0 none) =
      some ({ new settings wall with calls := [⟨.start params, .asking⟩] },
        [.launch 0 params]) := by
  intro params
  have hok : params.prepare.toOption = some params := by decide +kernel
  have hprepare : params.prepare = .ok params := by
    generalize params.prepare = prepared at hok
    cases prepared with
    | ok p => exact congrArg Except.ok (Option.some.inj hok)
    | error e => cases hok
  simp [step, stepCall, begin, hprepare, setStage, new]

/-- The end of a task is in the queue when the user cancels it: the call is refused after the pages
have been told, and the server is told nothing. -/
theorem cancel_judged_of_completion :
    let before : List Action :=
      [.invoke (.start { repoUrl := "http://[::]" }), .call 0 none,
        .call 0 (some (.launched (.ok "t"))), .call 0 none, .run 0, .run 0, .source 0 none,
        .source 0 (some (.handshake (.ok ()))), .source 0 (some (.delivery (.event (.done "")))),
        .invoke .cancel, .call 1 none]
    let after : List Action :=
      [.run 0, .run 0, .run 0, .run 0, .run 0, .elapse 15, .run 0, .call 1 none]
    ∃ c notes run c₁ c₂ later,
      (new { idleTimeout := 15, refreshDelay := 15 } ⟨"", "7"⟩).steps before = some (c, notes) ∧
        c.active = some 0 ∧ c.runs[0]? = some run ∧ run.inbox = [.stream (.done "")] ∧
        c.step (.call 1 none) = some (c₁, []) ∧ c₁.steps after = some (c₂, later) ∧ c₂.now = 15 ∧
        c₂.stage? 1 = some (.done (.refused .noActiveTask)) ∧
        c₂.Judged 1 0 (.refused .noActiveTask) [] (notes ++ later) := by
  intro before after
  have h : (new { idleTimeout := 15, refreshDelay := 15 } ⟨"", "7"⟩).steps before = some (_, _) :=
    steps_of_step rfl (steps_of_step (step_asks _ _) rfl)
  obtain ⟨-, c₁, hs, -, hafter⟩ :=
    (cancel_judged h (i := 1) rfl rfl none).2 0 _ rfl rfl rfl (by decide)
  cases hs.symm.trans (rfl : _ = some (_, []))
  have hqueue : [Signal.stream (.done "")] = [] ++ .stream (.done "") :: [] := rfl
  have hjudged := hafter _ _ (.late hqueue rfl rfl (by simp)) after _ _ rfl
  exact ⟨_, _, _, _, _, _, h, rfl, rfl, rfl, rfl, rfl, rfl, rfl, hjudged⟩

/-- **A call may say that it has cancelled what the server had cancelled before.**  The stream has
broken, and the server's memory of the cancellation is in the queue when the user cancels.  It
settles the task, so the signal of the user is ignored and the server is told nothing; and yet the
call says that it has cancelled the task. -/
theorem cancelled_by_memory :
    let snapshot : Snapshot := { found := true, status := some .cancelled }
    let before : List Action :=
      [.invoke (.start { repoUrl := "http://[::]" }), .call 0 none,
        .call 0 (some (.launched (.ok "t"))), .call 0 none, .run 0, .run 0, .source 0 none,
        .source 0 (some (.handshake (.ok ()))), .source 0 (some (.delivery .closed)),
        .run 0, .run 0, .run 0, .run 0, .source 0 none, .source 0 (some (.status (.ok snapshot))),
        .invoke .cancel, .call 1 none, .call 1 none]
    let after : List Action := [.run 0, .run 0, .run 0, .run 0, .call 1 none]
    ∃ c notes run t c₂ later,
      (new { idleTimeout := 15 } ⟨"", "7"⟩).steps before = some (c, notes) ∧
        c.stage? 1 = some (.joining 0 .cancel) ∧ c.runs[0]? = some run ∧
        run.inbox = [.fallback (.ok snapshot), .cancel] ∧
        run.tracker.apply (.fallback (.ok snapshot)) = (t, [.settle .cancelled]) ∧
        t.phase = .settled .cancelled ∧ t.apply .cancel = (t, []) ∧
        c.steps after = some (c₂, later) ∧ told 0 (notes ++ later) = [] ∧
        c₂.stage? 1 = some (.done .cancelled) := by
  intro snapshot before after
  have h : (new { idleTimeout := 15 } ⟨"", "7"⟩).steps before = some (_, _) :=
    steps_of_step rfl (steps_of_step (step_asks _ _) rfl)
  exact ⟨_, _, _, _, _, _, h, rfl, rfl, rfl, rfl, rfl, rfl, rfl, rfl, rfl⟩

end Console

end TaskWatch
