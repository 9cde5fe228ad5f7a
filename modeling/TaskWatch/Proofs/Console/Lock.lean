/-
# The lock and the runs

Calls change which run is tracked while they hold the lock, and the run that was tracked is
waited for before another one begins.  Two facts say what comes of that, and every step of
the console keeps them.

* **`Queued`**: the calls in line are in the lock, each of them once, and only the first one
  may wait for a run, with no run tracked meanwhile.
* **`Guarded`**: a run that goes on is `Held`, which means that it is tracked or waited for,
  and only the last run is held.  So at most one run goes on, and the picture is its own, or
  empty.

**`guarded_of_reachable`**: so it is in every console that can come about.
-/
import TaskWatch.Proofs.Console.Step

namespace TaskWatch.Console

variable {settings : ConsoleSettings} {c c' : Console}

/-! ## 1. The line -/

/-- **The line for the lock.** -/
structure Queued (c : Console) : Prop where
  nodup : c.lock.Nodup
  inLine : ∀ i ∈ c.lock, ∃ stage, c.stage? i = some stage ∧ stage.isInLine
  /-- Whoever waits for a run holds the lock, and no run is tracked. -/
  holder : ∀ i r plan, c.stage? i = some (.joining r plan) →
    c.lock.head? = some i ∧ c.active = none

namespace Queued

variable {i : Nat} {old stage : CallStage}

/-- A call that is not in line is not in the lock. -/
theorem not_mem (hq : c.Queued) (h : c.stage? i = some old) (ho : old.isInLine = false) :
    i ∉ c.lock := by
  intro hmem
  obtain ⟨stage, hstage, hin⟩ := hq.inLine i hmem
  cases h.symm.trans hstage
  simp [ho] at hin

/-- With a call in line at the head of the lock, nobody waits for a run. -/
theorem not_joining (hq : c.Queued) {plan : Plan} (h : c.stage? i = some (.inLine plan))
    (hl : c.lock.head? = some i) (j r : Nat) (plan' : Plan) :
    c.stage? j ≠ some (.joining r plan') := by
  intro hj
  obtain ⟨hhead, -⟩ := hq.holder j r plan' hj
  cases hl.symm.trans hhead
  simp [h] at hj

/-- **Nobody moves in line.** -/
theorem keep (hq : c.Queued) (hlock : c'.lock = c.lock) (ha : c'.active = c.active)
    (hstage : ∀ stage, stage.isInLine →
      ∀ j, c'.stage? j = some stage ↔ c.stage? j = some stage) : c'.Queued := by
  refine ⟨by rw [hlock]; exact hq.nodup, fun j hj => ?_, fun j r plan hj => ?_⟩
  · rw [hlock] at hj
    obtain ⟨stage, hj, hin⟩ := hq.inLine j hj
    exact ⟨stage, (hstage stage hin j).mpr hj, hin⟩
  · rw [hlock, ha]
    exact hq.holder j r plan ((hstage _ rfl j).mp hj)

/-- A call gets in line. -/
theorem enqueue (hq : c.Queued) (h : c.stage? i = some old) (ho : old.isInLine = false)
    {plan : Plan} (hstage : ∀ j, c'.stage? j = if i = j then some (.inLine plan) else c.stage? j)
    (hlock : c'.lock = c.lock ++ [i]) (ha : c'.active = c.active) : c'.Queued := by
  refine ⟨?_, fun j hj => ?_, fun j r plan hj => ?_⟩
  · rw [hlock]
    refine List.nodup_append.mpr ⟨hq.nodup, by simp, fun j hj k hk hjk => ?_⟩
    subst hjk
    cases List.mem_singleton.mp hk
    exact hq.not_mem h ho hj
  · rw [hstage]
    split
    · exact ⟨_, rfl, rfl⟩
    · rename_i hij
      rw [hlock] at hj
      rcases List.mem_append.mp hj with hj | hj
      · exact hq.inLine j hj
      · exact absurd (List.mem_singleton.mp hj).symm hij
  · rw [hstage] at hj
    split at hj
    · cases hj
    · obtain ⟨hhead, hnone⟩ := hq.holder j r plan hj
      rw [hlock, ha, List.head?_append, hhead]
      exact ⟨rfl, hnone⟩

/-- The holder begins to wait for a run. -/
theorem hold (hq : c.Queued) {plan : Plan} {r : Nat} (h : c.stage? i = some (.inLine plan))
    (hl : c.lock.head? = some i)
    (hstage : ∀ j, c'.stage? j = if i = j then some (.joining r plan) else c.stage? j)
    (hlock : c'.lock = c.lock) (ha : c'.active = none) : c'.Queued := by
  refine ⟨by rw [hlock]; exact hq.nodup, fun j hj => ?_, fun j r' plan' hj => ?_⟩
  · rw [hstage]
    split
    · exact ⟨_, rfl, rfl⟩
    · rw [hlock] at hj
      exact hq.inLine j hj
  · rw [hstage] at hj
    split at hj
    · rename_i hij
      subst hij
      rw [hlock]
      exact ⟨hl, ha⟩
    · exact absurd hj (hq.not_joining h hl j r' plan')

/-- **The holder leaves**, and with it whoever waited for a run. -/
theorem leave (hq : c.Queued) (hl : c.lock.head? = some i) (hn : stage.isInLine = false)
    (hstage : ∀ j, c'.stage? j = if i = j then some stage else c.stage? j)
    (hlock : c'.lock = c.lock.filter (· ≠ i)) :
    c'.Queued ∧ ∀ j r plan, c'.stage? j ≠ some (.joining r plan) := by
  have hnobody : ∀ j r plan, c'.stage? j ≠ some (.joining r plan) := by
    intro j r plan hj
    rw [hstage] at hj
    split at hj
    · cases Option.some.inj hj
      cases hn
    · rename_i hij
      exact hij (Option.some.inj (hl.symm.trans (hq.holder j r plan hj).1))
  refine ⟨⟨?_, fun j hj => ?_, fun j r plan hj => absurd hj (hnobody j r plan)⟩, hnobody⟩
  · rw [hlock]
    exact hq.nodup.filter _
  · rw [hlock] at hj
    obtain ⟨hmem, hne⟩ := List.mem_filter.mp hj
    rw [hstage, if_neg fun hij => by simp [hij] at hne]
    exact hq.inLine j hmem

end Queued

/-! ## 2. The runs -/

/-- **A run that is tracked**, or that the holder of the lock waits for. -/
def Held (c : Console) (r : Nat) : Prop :=
  c.active = some r ∨ ∃ i plan, c.stage? i = some (.joining r plan)

/-- **A console in order.** -/
structure Guarded (settings : ConsoleSettings) (c : Console) : Prop extends Queued c where
  settings_eq : c.settings = settings
  last : ∀ r, c.Held r → r + 1 = c.runs.length
  /-- A run that goes on is held. -/
  held : ∀ r run, c.runs[r]? = some run → run.stage ≠ .ended → c.Held r
  reached : ∀ (r : Nat) run, c.runs[r]? = some run → Run.Reached settings run
  /-- There is no picture, or it is the last run's. -/
  view : c.view = .empty ∨
    ∃ r run, r + 1 = c.runs.length ∧ c.runs[r]? = some run ∧ c.view = run.tracker.view

/-- As long as nobody begins or ends to wait for a run, the same runs are held. -/
theorem held_iff (ha : c'.active = c.active)
    (hstage : ∀ r plan j,
      c'.stage? j = some (.joining r plan) ↔ c.stage? j = some (.joining r plan))
    (r : Nat) : c'.Held r ↔ c.Held r := by
  simp only [Held, ha, hstage]

namespace Guarded

/-- **When a call is ready, all runs have ended.** -/
theorem ended_of_ready (hc : c.Guarded settings) {i : Nat} {plan : Plan} (h : c.Ready i plan)
    {r : Nat} {run : Run} (hr : c.runs[r]? = some run) : run.stage = .ended := by
  refine Decidable.byContradiction fun hne => ?_
  cases h with
  | free h hl ha =>
    rcases hc.held r run hr hne with hactive | ⟨j, plan', hj⟩
    · simp [ha] at hactive
    · exact hc.not_joining h hl j r plan' hj
  | joined h he =>
    rename_i r'
    obtain ⟨hhead, hnone⟩ := hc.holder i r' plan h
    rcases hc.held r run hr hne with hactive | ⟨j, plan', hj⟩
    · simp [hnone] at hactive
    · obtain ⟨hhead', -⟩ := hc.holder j r plan' hj
      cases hhead.symm.trans hhead'
      cases h.symm.trans hj
      rw [hasEnded, hr] at he
      exact hne (by simpa [Run.isEnded] using he)

/-- A call that is ready holds the lock. -/
theorem head_of_ready (hc : c.Guarded settings) {i : Nat} {plan : Plan} (h : c.Ready i plan) :
    c.lock.head? = some i := by
  cases h with
  | free h hl ha => exact hl
  | joined h he => exact (hc.holder _ _ _ h).1

/-- **Nothing happens to the runs.** -/
theorem same_runs (hc : c.Guarded settings) (hq : c'.Queued)
    (hheld : ∀ r, c'.Held r ↔ c.Held r) (hs : c'.settings = c.settings)
    (hr : c'.runs = c.runs) (hv : c'.view = c.view) : c'.Guarded settings := by
  refine ⟨hq, hs.trans hc.settings_eq, ?_, ?_, ?_, ?_⟩
  · simpa only [hheld, hr] using hc.last
  · simpa only [hheld, hr] using hc.held
  · simpa only [hr] using hc.reached
  · simpa only [hv, hr] using hc.view

/-- **Something happens to one run**, and it shows its picture if the picture changes. -/
theorem set_run (hc : c.Guarded settings) (hq : c'.Queued) (hheld : ∀ r, c'.Held r ↔ c.Held r)
    (hs : c'.settings = c.settings) {r : Nat} {run run' : Run} (h : c.runs[r]? = some run)
    (hr : c'.runs = c.runs.set r run') (hreached : Run.Reached settings run')
    (hended : run.stage = .ended → run'.stage = .ended)
    (hv : (c'.view = c.view ∧ run'.tracker = run.tracker) ∨
      (r + 1 = c.runs.length ∧ c'.view = run'.tracker.view)) : c'.Guarded settings := by
  have hlt := (List.getElem?_eq_some_iff.mp h).1
  have hget : ∀ r₀ run₀, c'.runs[r₀]? = some run₀ →
      (r = r₀ ∧ run₀ = run') ∨ c.runs[r₀]? = some run₀ := by
    intro r₀ run₀ h₀
    rw [hr, List.getElem?_set] at h₀
    split at h₀
    · rename_i heq
      exact .inl ⟨heq, (Option.some.inj h₀).symm⟩
    · exact .inr h₀
  refine ⟨hq, hs.trans hc.settings_eq, ?_, ?_, ?_, ?_⟩
  · simpa only [hheld, hr, List.length_set] using hc.last
  · intro r₀ run₀ h₀ hne
    rw [hheld]
    rcases hget r₀ run₀ h₀ with ⟨rfl, rfl⟩ | hold
    · exact hc.held r run h fun he => hne (hended he)
    · exact hc.held r₀ run₀ hold hne
  · intro r₀ run₀ h₀
    rcases hget r₀ run₀ h₀ with ⟨rfl, rfl⟩ | hold
    · exact hreached
    · exact hc.reached r₀ run₀ hold
  · have hself : c'.runs[r]? = some run' := by simp [hr, hlt]
    rcases hv with ⟨hview, htracker⟩ | ⟨hlast, hview⟩
    · rcases hc.view with hempty | ⟨r₀, run₀, hlast, h₀, hshown⟩
      · exact .inl (hview.trans hempty)
      · by_cases heq : r = r₀
        · subst heq
          cases h.symm.trans h₀
          refine .inr ⟨r, run', by simpa [hr] using hlast, hself, ?_⟩
          rw [hview, hshown, htracker]
        · refine .inr ⟨r₀, run₀, by simpa [hr] using hlast, ?_, hview.trans hshown⟩
          rw [hr, List.getElem?_set_ne heq]
          exact h₀
    · exact .inr ⟨r, run', by simpa [hr] using hlast, hself, hview⟩

/-- **A call that is ready tracks a new task.** -/
theorem track (hc : c.Guarded settings) {i : Nat} {plan : Plan} {reply : Reply}
    (h : c.Ready i plan) (start : Tracker.Start)
    (hstage : ∀ j, c'.stage? j = if i = j then some (.done reply) else c.stage? j)
    (hlock : c'.lock = c.lock.filter (· ≠ i)) (hs : c'.settings = c.settings)
    (hr : c'.runs = c.runs ++ [(Run.start start.tracker).1])
    (ha : c'.active = some c.runs.length) (hv : c'.view = (Run.start start.tracker).2) :
    c'.Guarded settings := by
  obtain ⟨hq, hnobody⟩ := hc.leave (hc.head_of_ready h) rfl hstage hlock
  have hget : ∀ r run, c'.runs[r]? = some run →
      c.runs[r]? = some run ∨ (r = c.runs.length ∧ run = (Run.start start.tracker).1) := by
    intro r run hrun
    rw [hr] at hrun
    rcases Nat.lt_or_ge r c.runs.length with hlt | hge
    · rw [List.getElem?_append_left hlt] at hrun
      exact .inl hrun
    · rw [List.getElem?_append_right hge, List.getElem?_singleton] at hrun
      split at hrun
      · exact .inr ⟨by omega, (Option.some.inj hrun).symm⟩
      · cases hrun
  refine ⟨hq, hs.trans hc.settings_eq, ?_, ?_, ?_, ?_⟩
  · rintro r (hactive | ⟨i, plan, hi⟩)
    · cases ha.symm.trans hactive
      simp [hr]
    · exact absurd hi (hnobody i r plan)
  · intro r run hrun hne
    rcases hget r run hrun with hold | ⟨rfl, -⟩
    · exact absurd (hc.ended_of_ready h hold) hne
    · exact .inl ha
  · intro r run hrun
    rcases hget r run hrun with hold | ⟨-, rfl⟩
    · exact hc.reached r run hold
    · exact .start settings start
  · refine .inr ⟨c.runs.length, (Run.start start.tracker).1, by simp [hr], by simp [hr], hv⟩

/-- **A call that is ready tracks nothing.** -/
theorem vacate (hc : c.Guarded settings) {i : Nat} {plan : Plan} {reply : Reply}
    (h : c.Ready i plan)
    (hstage : ∀ j, c'.stage? j = if i = j then some (.done reply) else c.stage? j)
    (hlock : c'.lock = c.lock.filter (· ≠ i)) (hs : c'.settings = c.settings)
    (hr : c'.runs = c.runs) (ha : c'.active = c.active)
    (hv : c'.view = c.view ∨ c'.view = .empty) : c'.Guarded settings := by
  obtain ⟨hq, hnobody⟩ := hc.leave (hc.head_of_ready h) rfl hstage hlock
  refine ⟨hq, hs.trans hc.settings_eq, ?_, ?_, ?_, ?_⟩
  · rintro r (hactive | ⟨j, plan', hj⟩)
    · rw [hr]
      exact hc.last r (.inl (ha ▸ hactive))
    · exact absurd hj (hnobody j r plan')
  · intro r run hrun hne
    rw [hr] at hrun
    exact absurd (hc.ended_of_ready h hrun) hne
  · rw [hr]
    exact hc.reached
  · rw [hr]
    rcases hv with hv | hv
    · rw [hv]
      exact hc.view
    · exact .inl hv

/-- **The tracked run is told to end**, and waited for. -/
theorem tell (hc : c.Guarded settings) {i r : Nat} {plan : Plan}
    (h : c.stage? i = some (.inLine plan)) (hl : c.lock.head? = some i) (ha : c.active = some r)
    (hstage : ∀ j, c'.stage? j = if i = j then some (.joining r plan) else c.stage? j)
    (hlock : c'.lock = c.lock) (ha' : c'.active = none) (hs : c'.settings = c.settings)
    (hr : c'.runs = c.runs.modify r plan.tell) (hv : c'.view = c.view) :
    c'.Guarded settings := by
  have hlast := hc.last r (.inl ha)
  have hlt : r < c.runs.length := by omega
  have hrun := List.getElem?_eq_getElem hlt
  have hheld : ∀ r', c'.Held r' ↔ c.Held r' := by
    intro r'
    unfold Held
    rw [ha, ha']
    constructor
    · rintro (hnone | ⟨j, plan', hj⟩)
      · cases hnone
      · rw [hstage] at hj
        split at hj
        · cases hj
          exact .inl rfl
        · exact absurd hj (hc.not_joining h hl j r' plan')
    · rintro (heq | ⟨j, plan', hj⟩)
      · cases heq
        refine .inr ⟨i, plan, ?_⟩
        rw [hstage, if_pos rfl]
      · exact absurd hj (hc.not_joining h hl j r' plan')
  refine hc.set_run (hc.hold h hl hstage hlock ha') hheld hs hrun ?_
    (plan.reached_tell (hc.reached r _ hrun)) (fun he => by simpa using he)
    (.inl ⟨hv, plan.tell_tracker _⟩)
  rw [hr]
  refine List.ext_getElem? fun k => ?_
  by_cases hrk : r = k
  · subst hrk
    simp [hlt]
  · simp [hrk]

end Guarded

/-! ## 3. Every console -/

/-- The picture after the acts of a run that shows nothing. -/
theorem acts_view {as : List Run.Act} (h : ∀ v, Run.Act.show v ∉ as) (r : Nat) :
    (c.acts r as).1.view = c.view := by
  induction as generalizing c with
  | nil => rfl
  | cons a as ih =>
    have ha : (c.act r a).1.view = c.view := by
      cases a with
      | «show» v => exact absurd List.mem_cons_self (h v)
      | remoteCancel | refresh => rfl
    have hrest : ∀ v, Run.Act.show v ∉ as := fun v hv => h v (List.mem_cons_of_mem _ hv)
    exact (ih hrest).trans ha

namespace Guarded

/-- A call moves on outside of the lock. -/
theorem outside (hc : c.Guarded settings) {i : Nat} {old stage : CallStage}
    (h : c.stage? i = some old) (ho : old.isInLine = false) (hn : stage.isInLine = false) :
    (c.setStage i stage).Guarded settings := by
  have hkeep : ∀ s, s.isInLine →
      ∀ j, (c.setStage i stage).stage? j = some s ↔ c.stage? j = some s := by
    intro s hs
    refine stage?_iff_of_ne h (stage?_setStage h _) ?_ ?_
    · rintro rfl
      simp [hs] at ho
    · rintro rfl
      simp [hs] at hn
  exact hc.same_runs (hc.keep rfl rfl hkeep) (held_iff rfl fun r plan => hkeep _ rfl) rfl rfl rfl

/-- **A run takes a step.** -/
theorem run (hc : c.Guarded settings) {r : Nat} {run run' : Run} {as : List Run.Act}
    (h : c.runs[r]? = some run) (hs : run.step c.settings c.now = some (run', as)) :
    ((c.setRun r run').acts r as).1.Guarded settings := by
  have hne : run.stage ≠ .ended := by
    intro he
    simp [Run.step, he] at hs
  have hreached : Run.Reached settings run' := by
    rw [hc.settings_eq] at hs
    exact (hc.reached r run h).step hs
  refine hc.set_run (hc.keep (by simp) (by simp) (by simp)) (held_iff (by simp) (by simp))
    (by simp) h (by simp) hreached (fun he => absurd he hne) ?_
  rcases (Run.step_cases hs).shows with ⟨rfl, -, -⟩ | ⟨htracker, hno⟩
  · exact .inr ⟨hc.last r (hc.held r run h hne), rfl⟩
  · exact .inl ⟨acts_view hno r, htracker⟩

/-- The source of a run takes a step. -/
theorem source (hc : c.Guarded settings) {r : Nat} {news : Option News} {run run' : Run}
    {deeds : List Deed} (h : c.runs[r]? = some run)
    (hs : run.hear c.now news = some (run', deeds)) : (c.setRun r run').Guarded settings := by
  obtain ⟨s, s', cancelled, -, -, heq⟩ := Run.hear_cases hs
  refine hc.set_run (hc.keep rfl rfl (by simp)) (held_iff rfl (by simp)) rfl h rfl
    ((hc.reached r run h).hear hs) (fun he => ?_) (.inl ⟨rfl, ?_⟩)
  · rw [heq]
    exact he
  · rw [heq]

/-- A call gets in line. -/
theorem queue (hc : c.Guarded settings) {i : Nat} {old : CallStage} (h : c.stage? i = some old)
    (ho : old.isInLine = false) (plan : Plan) : (c.enqueue i plan).Guarded settings := by
  have hstage := stage?_enqueue h plan
  refine hc.same_runs (hc.enqueue h ho hstage rfl rfl) (held_iff rfl fun r plan' => ?_) rfl rfl rfl
  refine stage?_iff_of_ne h hstage ?_ (by simp)
  rintro rfl
  cases ho

/-- The holder leaves the lock, with nothing to wait for. -/
theorem depart (hc : c.Guarded settings) {i : Nat} {plan : Plan} {stage : CallStage}
    (h : c.stage? i = some (.inLine plan)) (hl : c.lock.head? = some i)
    (hn : stage.isInLine = false) :
    ({ c with lock := c.lock.filter (· ≠ i) }.setStage i stage).Guarded settings := by
  have hstage := stage?_setStage (c := { c with lock := c.lock.filter (· ≠ i) }) h stage
  obtain ⟨hq, hnobody⟩ := hc.leave hl hn hstage rfl
  exact hc.same_runs hq
    (held_iff rfl fun r plan' j => iff_of_false (hnobody j r plan') (hc.not_joining h hl j r plan'))
    rfl rfl rfl

end Guarded

/-- **Every step keeps the order.** -/
theorem Step.guarded {a : Action} {notes : List Note} (h : Step c a c' notes)
    (hc : c.Guarded settings) : c'.Guarded settings := by
  cases h with
  | invokes op =>
    have hkeep := fun s hs => stage?_invoke c op (s := s) hs
    refine hc.same_runs (hc.keep rfl rfl fun s hs => hkeep s ?_)
      (held_iff rfl fun r plan => hkeep _ (by simp)) rfl rfl rfl
    rintro rfl
    cases hs
  | elapses => exact hc.same_runs ⟨hc.nodup, hc.inLine, hc.holder⟩ (fun _ => Iff.rfl) rfl rfl rfl
  | runs h hs => exact hc.run h hs
  | hears h hs => exact hc.source h hs
  | asks h => exact hc.outside h rfl rfl
  | replies h ho => exact hc.outside h (CallStage.isInLine_of_isOutside ho) rfl
  | enqueues h ho => exact hc.queue h (CallStage.isInLine_of_isOutside ho) _
  | attends h hl ha | refuses h hl => exact hc.depart h hl rfl
  | tells h hl ha => exact hc.tell h hl ha (stage?_setStage h _) rfl rfl rfl rfl rfl
  | tracks h hr hid =>
    obtain ⟨old, hold, -⟩ := h.stage?
    exact hc.track h _ (stage?_finish hold _) rfl rfl rfl rfl rfl
  | wipes h =>
    obtain ⟨old, hold, -⟩ := h.stage?
    exact hc.vacate h (stage?_finish hold _) rfl rfl rfl rfl (.inr rfl)
  | finishes h hr =>
    obtain ⟨old, hold, -⟩ := h.stage?
    exact hc.vacate h (stage?_finish hold _) rfl rfl rfl rfl (.inl rfl)

/-- A new console is in order. -/
theorem guarded_new (settings : ConsoleSettings) (wall : WallClock) :
    (new settings wall).Guarded settings := by
  have hnobody : ∀ i stage, (new settings wall).stage? i ≠ some stage := by simp [new, stage?]
  refine ⟨⟨.nil, by simp [new], fun i r plan h => absurd h (hnobody i _)⟩, rfl, ?_, by simp [new],
    by simp [new], .inl rfl⟩
  rintro r (h | ⟨i, plan, h⟩)
  · cases h
  · exact absurd h (hnobody i _)

theorem Guarded.steps {as : List Action} {notes : List Note} (hc : c.Guarded settings)
    (h : c.steps as = some (c', notes)) : c'.Guarded settings :=
  steps_keeps (fun _ _ _ _ hc hstep => hstep.guarded hc) hc h

/-- **So it is in every console that can come about.** -/
theorem guarded_of_reachable {wall : WallClock} (h : Reachable settings wall c) :
    c.Guarded settings := by
  obtain ⟨as, notes, has⟩ := h
  exact (guarded_new settings wall).steps has

end TaskWatch.Console
