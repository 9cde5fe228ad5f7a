/-
# Coming to rest

A run that lingers waits for a moment, and time passes only while nothing is left to do.  So
whoever waits for the run depends on everybody else's coming to rest.  While a call holds the
lock and waits, the others do: a call takes two steps at most before it waits as well, for the
lock, for the server or for good (`unrest_lt_of_stepCall`), and all the other runs are over
(`stepRun_of_lingering`).

**`exists_due`**: without any client or server, the moment comes.
-/
import Mathlib.Algebra.GroupWithZero.Nat
import TaskWatch.Proofs.Console.Refresh

namespace TaskWatch

/-- **It needs nobody else**: no client that calls, and no server that answers. -/
def Action.isUnaided : Action → Bool
  | .call _ none | .run _ | .source _ none | .elapse _ => true
  | .invoke _ | .call _ (some _) | .source _ (some _) => false

/-- How many steps a call takes at most before it is in line, or done. -/
def CallStage.rank : CallStage → Nat
  | .fresh => 2
  | .asking | .attending _ => 1
  | .inLine _ | .joining .. | .done _ => 0

theorem CallStage.rank_pos {s : CallStage} (h : s.isOutside) : 0 < s.rank := by
  cases s with
  | fresh | asking | attending => simp [rank]
  | inLine | joining | done => cases h

/-- A run that lingers has no source any more. -/
theorem Run.Reached.source_of_lingering {settings : ConsoleSettings} {r : Run} {due : Nat}
    (h : Reached settings r) (hstage : r.stage = .lingering due) : r.source = none := by
  obtain ⟨start, ts, x, hx, rfl⟩ := h
  have hsit := (Signed.orderly_turns hx).situation
  simp only [Signed.Situation, hstage] at hsit
  obtain ⟨o, hsource, -⟩ := hsit
  exact hsource

namespace Console

/-! ## 1. How far the calls are from rest -/

/-- **The steps that are left to the calls** outside of the lock. -/
def unrest (c : Console) : Nat :=
  (c.calls.map fun call => call.stage.rank).sum

/-- A call that moves on takes its share along. -/
theorem sum_rank_modify {calls : List Call} {i : Nat} {call : Call} (h : calls[i]? = some call)
    (stage : CallStage) :
    ((calls.modify i fun call => { call with stage }).map fun call => call.stage.rank).sum +
        call.stage.rank =
      (calls.map fun call => call.stage.rank).sum + stage.rank := by
  induction calls generalizing i with
  | nil => cases h
  | cons first calls ih =>
    cases i with
    | zero =>
      cases h
      simp only [List.modify_zero_cons, List.map_cons, List.sum_cons]
      omega
    | succ i =>
      have hrest := ih (i := i) h
      simp only [List.modify_succ_cons, List.map_cons, List.sum_cons]
      omega

variable {settings : ConsoleSettings} {c c' : Console} {notes : List Note}

/-- **With every call that moves on**, less is left. -/
theorem unrest_setStage_lt {i : Nat} {old stage : CallStage} (h : c.stage? i = some old)
    (hlt : stage.rank < old.rank) : (c.setStage i stage).unrest < c.unrest := by
  obtain ⟨call, hcall, rfl⟩ := Option.map_eq_some_iff.mp h
  have hsum := sum_rank_modify hcall stage
  have hleft : (c.setStage i stage).unrest + call.stage.rank = c.unrest + stage.rank := hsum
  omega

/-! ## 2. While a call waits for a run that lingers -/

variable {i r due : Nat} {plan : Plan} {run : Run}

/-- **The runs do not move**: this one waits for its moment, and the others are over. -/
theorem stepRun_of_lingering (hc : c.Guarded settings) (hheld : c.Held r)
    (hrun : c.runs[r]? = some run) (hstage : run.stage = .lingering due)
    (hr : run.retired = false) (hnow : c.now < due) (r' : Nat) :
    c.stepRun r' = none ∧ c.stepSource r' none = none := by
  cases hrun' : c.runs[r']? with
  | none => simp [stepRun, stepSource, hrun']
  | some run' =>
    have hreached := hc.reached r' run' hrun'
    by_cases heq : r' = r
    · subst heq
      cases hrun.symm.trans hrun'
      simp [stepRun, stepSource, hrun, Run.step, Run.hear, hstage, hr,
        hreached.source_of_lingering hstage, Nat.not_le.mpr hnow]
    · have hended : run'.stage = .ended := by
        refine Decidable.byContradiction fun hne => heq ?_
        have hlast := hc.last r hheld
        have hlast' := hc.last r' (hc.held r' run' hrun' hne)
        omega
      simp [stepRun, stepSource, hrun', Run.step, Run.hear, hended,
        hreached.source_of_ended hended]

/-- **What the other calls can do**: begin, get in line, or end, and each such step brings them
closer to rest. -/
theorem unrest_lt_of_stepCall (hc : c.Guarded settings) (hi : c.stage? i = some (.joining r plan))
    (hrun : c.runs[r]? = some run) (hstage : run.stage = .lingering due) {j : Nat}
    {news : Option CallNews} (hs : c.stepCall j news = some (c', notes)) :
    c'.runs = c.runs ∧ c'.now = c.now ∧ c'.stage? i = some (.joining r plan) ∧
      c'.unrest < c.unrest := by
  have hready : ∀ {plan'}, ¬ c.Ready j plan' := by
    intro plan' h
    cases hstage.symm.trans (hc.ended_of_ready h hrun)
  -- the call that waits for the run is in line, and so it is another one
  have hother : ∀ {old : CallStage}, c.stage? j = some old → old.isOutside → j ≠ i := by
    rintro old hj ho rfl
    cases hi.symm.trans hj
    cases ho
  cases stepCall_cases hs with
  | asks h =>
    refine ⟨rfl, rfl, ?_, unrest_setStage_lt h (by decide)⟩
    rw [stage?_setStage h, if_neg (hother h rfl)]
    exact hi
  | replies h ho hr =>
    refine ⟨rfl, rfl, ?_, unrest_setStage_lt h (CallStage.rank_pos ho)⟩
    rw [stage?_setStage h, if_neg (hother h ho)]
    exact hi
  | enqueues h ho =>
    refine ⟨rfl, rfl, ?_,
      unrest_setStage_lt (c := { c with lock := c.lock ++ [j] }) h (CallStage.rank_pos ho)⟩
    rw [stage?_enqueue h, if_neg (hother h ho)]
    exact hi
  | attends h hl | refuses h hl | tells h hl => exact absurd hi (hc.not_joining h hl i r plan)
  | tracks h | wipes h | finishes h => exact absurd h hready

/-- **They come to rest**, and nothing else happens meanwhile. -/
theorem exists_quiet (hc : c.Guarded settings) (hi : c.stage? i = some (.joining r plan))
    (hrun : c.runs[r]? = some run) (hstage : run.stage = .lingering due)
    (hr : run.retired = false) (hnow : c.now < due) :
    ∃ more c' rest, (∀ a ∈ more, a.isUnaided) ∧ c.steps more = some (c', rest) ∧
      c'.isQuiet ∧ c'.runs = c.runs ∧ c'.now = c.now ∧
      c'.stage? i = some (.joining r plan) := by
  -- by induction on what is left to the calls
  induction hleft : c.unrest using Nat.strongRecOn generalizing c with
  | ind n ih =>
    subst hleft
    by_cases hquiet : c.isQuiet
    · exact ⟨[], c, [], by simp, rfl, hquiet, rfl, rfl, hi⟩
    · obtain ⟨j, hj⟩ : ∃ j, c.stepCall j none ≠ none := by
        refine Classical.not_forall.mp fun hcalls => hquiet ?_
        have hruns := stepRun_of_lingering hc (.inr ⟨i, plan, hi⟩) hrun hstage hr hnow
        simp [isQuiet, hcalls, hruns]
      obtain ⟨⟨c₁, first⟩, hfirst⟩ := Option.ne_none_iff_exists'.mp hj
      obtain ⟨hruns, hnow₁, hi₁, hlt⟩ := unrest_lt_of_stepCall hc hi hrun hstage hfirst
      obtain ⟨more, c₂, rest, hmore, hsteps, hquiet₂, hruns₂, hnow₂, hi₂⟩ :=
        ih _ hlt ((stepCall_cases hfirst).guarded hc) hi₁ (hruns ▸ hrun) (hnow₁ ▸ hnow) rfl
      exact ⟨.call j none :: more, c₂, _, List.forall_mem_cons.mpr ⟨rfl, hmore⟩,
        steps_of_step hfirst hsteps, hquiet₂, hruns₂.trans hruns, hnow₂.trans hnow₁, hi₂⟩

/-! ## 3. The moment -/

/-- **Nothing else is due** before the moment. -/
theorem deadlines_of_lingering (hc : c.Guarded settings) (hheld : c.Held r)
    (hrun : c.runs[r]? = some run) (hstage : run.stage = .lingering due) :
    ∀ d ∈ c.deadlines, d = due := by
  intro d hd
  obtain ⟨run', hmem, hd⟩ := List.mem_flatMap.mp hd
  obtain ⟨r', hrun'⟩ := List.mem_iff_getElem?.mp hmem
  have hreached := hc.reached r' run' hrun'
  by_cases heq : r' = r
  · subst heq
    cases hrun.symm.trans hrun'
    simpa [Run.deadline?, hstage, hreached.source_of_lingering hstage] using hd
  · have hended : run'.stage = .ended := by
      refine Decidable.byContradiction fun hne => heq ?_
      have hlast := hc.last r hheld
      have hlast' := hc.last r' (hc.held r' run' hrun' hne)
      omega
    simp [Run.deadline?, hended, hreached.source_of_ended hended] at hd

/-- **Without any client or server, the moment comes**, and the call still waits. -/
theorem exists_due (hc : c.Guarded settings) (hi : c.stage? i = some (.joining r plan))
    (hrun : c.runs[r]? = some run) (hstage : run.stage = .lingering due)
    (hr : run.retired = false) (hnow : c.now < due) :
    ∃ more c' rest, (∀ a ∈ more, a.isUnaided) ∧ c.steps more = some (c', rest) ∧
      c'.runs[r]? = some run ∧ c'.now = due ∧ c'.stage? i = some (.joining r plan) := by
  obtain ⟨more, c₁, rest, hmore, hsteps, hquiet, hruns, hnow₁, hi₁⟩ :=
    exists_quiet hc hi hrun hstage hr hnow
  have hrun₁ : c₁.runs[r]? = some run := hruns ▸ hrun
  have hdue := deadlines_of_lingering (hc.steps hsteps) (.inr ⟨i, plan, hi₁⟩) hrun₁ hstage
  have hmoment : c₁.now + (due - c.now) = due := by omega
  have helapse : c₁.step (.elapse (due - c.now)) =
      some ({ c₁ with now := due }, []) := by
    have hmay : c₁.mayElapse (due - c.now) := by
      simp only [mayElapse, hquiet, hmoment, Bool.true_and, List.all_eq_true, decide_eq_true_eq]
      exact fun d hd => Nat.le_of_eq (hdue d hd).symm
    simp [step, hmay, hmoment]
  refine ⟨more ++ [.elapse (due - c.now)], { c₁ with now := due }, _, ?_,
    steps_append hsteps (steps_of_step helapse rfl), hrun₁, rfl, hi₁⟩
  intro a ha
  rcases List.mem_append.mp ha with ha | ha
  · exact hmore a ha
  · cases List.mem_singleton.mp ha
    rfl

end Console

end TaskWatch
