/-
# A watch that is cancelled

A cancellation only cuts a watch short.  What the watch has done by then is what it would have done
without the cancellation, and it does nothing more (**`cut_short`**).

A cancellation comes before everything else of its moment: before the answer of a check, before a
tick, and before the end of the budget.  So a watch that is cancelled at some moment has the trace of
the one that nobody cancels, up to that moment (`Trace.cut`).  The clock alone does not tell all the
waits apart, for an answer that takes no time ends a wait at the moment at which it began.  The law
is therefore also stated for every wait, with any moment at which that wait is on (`CutShort`).

The first half is by induction on the steps of the two watches: they are the same up to the first
wait that is on at the moment, and there the cancelled one ends.
-/
import TaskWatch.Proofs.Source.Waits

namespace TaskWatch

namespace Probe

/-! ## 1. Time goes on -/

theorem le_waitUntil (now target : Nat) (c : Cancellation) : now ≤ (waitUntil now target c).1 := by
  cases c with
  | none => exact Nat.le_max_left now target
  | some m =>
    rw [waitUntil]
    split
    · exact Nat.le_max_left now m
    · exact Nat.le_max_left now target

/-- **A trace from a moment on.** -/
def Trace.From (now : Nat) (t : Trace) : Prop :=
  now ≤ t.endedAt ∧ ∀ x ∈ t.deeds, now ≤ x.1

theorem Trace.From.mono {now earlier : Nat} {t : Trace} (h : t.From now) (hle : earlier ≤ now) :
    t.From earlier :=
  ⟨Nat.le_trans hle h.1, fun x hx => Nat.le_trans hle (h.2 x hx)⟩

theorem Trace.From.after {now : Nat} {t : Trace} (h : t.From now) (deeds : List Deed) :
    (t.after now deeds).From now := by
  refine ⟨h.1, ?_⟩
  intro x hx
  rcases List.mem_append.mp hx with hx | hx
  · obtain ⟨deed, -, rfl⟩ := List.mem_map.mp hx
    exact Nat.le_refl now
  · exact h.2 x hx

/-- A trace that only ends. -/
theorem Trace.from_end (now : Nat) (outcome : ProbeOutcome) :
    Trace.From now { outcome, endedAt := now } := by
  constructor
  · exact Nat.le_refl now
  · simp

/-- What comes of a poll comes no earlier than the poll, if that holds of the rest. -/
theorem Stage.from_goOn {answers : Answers} {c : Cancellation} {fuel now : Nat}
    (h : ∀ (checks : Nat) (stage : Stage), (stage.finish answers c fuel now checks).From now)
    (checks : Nat) (next : Option (Stage × List Deed)) :
    (goOn answers c fuel now checks next).From now := by
  cases next with
  | none => exact Trace.from_end now .cancelled
  | some next => exact (h _ next.1).after next.2

/-- **The rest of a watch is done no earlier than it begins.** -/
theorem Stage.from_finish (answers : Answers) (c : Cancellation) (fuel now checks : Nat)
    (stage : Stage) : (stage.finish answers c fuel now checks).From now := by
  induction fuel generalizing now checks stage with
  | zero => exact Trace.from_end now .cancelled
  | succ fuel ih =>
    cases hwake : stage.wake? now (answers (checks - 1)) with
    | none =>
      cases stage with
      | ended outcome | fresh settings => exact Trace.from_end now _
      | checking p deadline | pausing p =>
        simp only [finish, hwake]
        exact Trace.from_end now .cancelled
    | some due =>
      rw [finish_succ hwake]
      exact (from_goOn (ih _) _ _).mono (le_waitUntil now due.1 c)

/-- Nothing is done before the end of a wait that nobody cuts short. -/
theorem Stage.from_finish_succ {answers : Answers} {stage : Stage} {now due checks : Nat}
    {answer : Option Bool} (hwake : stage.wake? now (answers (checks - 1)) = some (due, answer))
    (fuel : Nat) : (stage.finish answers none (fuel + 1) now checks).From (max now due) := by
  rw [finish_succ hwake]
  exact from_goOn (from_finish answers none fuel _) _ _

/-- What has been done by some wait was done no later than it began. -/
theorem Waiting.done_le {s : ProbeSettings} {answers : Answers} {c : Cancellation} {w : Wait}
    (h : Waiting s answers c w) : ∀ x ∈ w.done, x.1 ≤ w.since := by
  induction h with
  | begun h =>
    intro x hx
    obtain ⟨deed, -, rfl⟩ := List.mem_map.mp hx
    exact Nat.le_refl 0
  | @woken w due answer stage deeds _ _ _ ih =>
    have hle := le_waitUntil w.since due c
    intro x hx
    rcases List.mem_append.mp hx with hx | hx
    · exact Nat.le_trans (ih x hx) hle
    · obtain ⟨deed, -, rfl⟩ := List.mem_map.mp hx
      exact Nat.le_refl _

/-! ## 2. A trace that is cut -/

/-- **A trace up to a moment**, cancelled then if it has not ended before. -/
def Trace.cut (moment : Nat) (t : Trace) : Trace :=
  if moment ≤ t.endedAt then
    { deeds := t.deeds.filter (·.1 < moment), outcome := .cancelled, endedAt := moment }
  else t

theorem Trace.cut_of_lt {moment : Nat} {t : Trace} (h : t.endedAt < moment) : t.cut moment = t :=
  if_neg (Nat.not_le.mpr h)

/-- All of it comes too late. -/
theorem Trace.cut_of_from {moment : Nat} {t : Trace} (h : t.From moment) :
    t.cut moment = { deeds := [], outcome := .cancelled, endedAt := moment } := by
  rw [cut, if_pos h.1, List.filter_eq_nil_iff.mpr]
  intro x hx
  simpa using h.2 x hx

/-- Deeds of an earlier moment stay. -/
theorem Trace.cut_after {moment now : Nat} (h : now < moment) (deeds : List Deed) (t : Trace) :
    (t.after now deeds).cut moment = (t.cut moment).after now deeds := by
  have hkeep : (deeds.map (now, ·)).filter (·.1 < moment) = deeds.map (now, ·) := by
    rw [List.filter_eq_self]
    intro x hx
    obtain ⟨deed, -, rfl⟩ := List.mem_map.mp hx
    simpa using h
  by_cases hended : moment ≤ t.endedAt
  · simp [cut, after, hended, hkeep]
  · simp [cut, after, hended]

/-- A stage that waits for something is deaf to it once it is cancelled. -/
theorem Stage.poll_cancelled {stage : Stage} {now due : Nat} {reply : Option (Nat × Bool)}
    {answer : Option Bool} (hwake : stage.wake? now reply = some (due, answer)) (moment : Nat)
    (news : Option Bool) : stage.poll moment true news = some (.ended .cancelled, []) := by
  cases stage with
  | fresh settings | ended outcome => cases hwake
  | checking p deadline | pausing p => rfl

/-- A wait during which the cancellation comes is the last one. -/
theorem Stage.finish_cancelled {answers : Answers} {stage : Stage} {now due checks moment : Nat}
    {answer : Option Bool} (hwake : stage.wake? now (answers (checks - 1)) = some (due, answer))
    (hnow : now ≤ moment) (hdue : moment ≤ max now due) (fuel : Nat) :
    stage.finish answers (some moment) (fuel + 1) now checks =
      { deeds := [], outcome := .cancelled, endedAt := moment } := by
  have hwait : waitUntil now due (some moment) = (moment, false) := by
    rw [waitUntil, if_pos hdue, Nat.max_eq_right hnow]
  rw [finish_succ hwake, hwait, Bool.not_false, Stage.poll_cancelled hwake]
  cases fuel <;> rfl

/-- **The rest of a watch that is cancelled later** is the rest of the one that is not, cut at that
moment. -/
theorem Stage.finish_cut (answers : Answers) {fuel now checks moment : Nat} (stage : Stage)
    (hnow : now < moment) :
    stage.finish answers (some moment) fuel now checks =
      (stage.finish answers none fuel now checks).cut moment := by
  induction fuel generalizing now checks stage with
  | zero => exact (Trace.cut_of_lt hnow).symm
  | succ fuel ih =>
    cases hwake : stage.wake? now (answers (checks - 1)) with
    | none =>
      cases stage with
      | ended outcome | fresh settings => exact (Trace.cut_of_lt hnow).symm
      | checking p deadline | pausing p =>
        simp only [finish, hwake]
        exact (Trace.cut_of_lt hnow).symm
    | some due =>
      obtain ⟨due, answer⟩ := due
      rcases Nat.lt_or_ge (max now due) moment with hlater | hdue
      · have hwait : waitUntil now due (some moment) = (max now due, true) := by
          rw [waitUntil, if_neg (Nat.not_le.mpr hlater)]
        rw [finish_succ hwake, finish_succ hwake, hwait]
        simp only [waitUntil]
        cases stage.poll (max now due) (!true) answer with
        | none => exact (Trace.cut_of_lt hlater).symm
        | some next =>
          rw [goOn, goOn, ih next.1 hlater, Trace.cut_after hlater]
      · rw [finish_cancelled hwake (Nat.le_of_lt hnow) hdue]
        -- without the cancellation nothing is done before this wait is over
        exact (Trace.cut_of_from ((from_finish_succ hwake fuel).mono hdue)).symm

/-- **A watch that is cancelled at some moment** after its start has done what the one that nobody
cancels has done by then. -/
theorem run_cut (s : ProbeSettings) (answers : Answers) {moment : Nat} (h : 0 < moment) :
    run s answers (some moment) = (run s answers none).cut moment := by
  have hstart : (some moment).any (· ≤ 0) = false := by
    simp
    omega
  rw [run, run, hstart, Option.any_none]
  cases (Stage.fresh s).poll 0 false none with
  | none =>
    refine (Trace.cut_of_lt ?_).symm
    exact h
  | some next =>
    obtain ⟨stage, deeds⟩ := next
    simp only
    rw [Stage.finish_cut answers stage h, Trace.cut_after h]

/-! ## 3. Every wait -/

/-- **A watch that is cancelled in one of its waits**, at a moment when the wait is on. -/
structure CutShort (s : ProbeSettings) (answers : Answers) (w : Wait) (due moment : Nat) :
    Prop where
  /-- The watch ends, and neither checks nor reports, whatever is there at the same moment. -/
  deaf : ∀ news, w.stage.poll moment true news = some (.ended .cancelled, [])
  /-- The watch that nobody cancels goes on from this wait, and the cancelled one ends in it. -/
  apart : ∃ fuel, w.trace answers none fuel = run s answers none ∧
    w.trace answers (some moment) fuel =
      { deeds := w.done, outcome := .cancelled, endedAt := moment }
  /-- What the cancelled one has done, the other one has done by then. -/
  before : ∀ x ∈ w.done, x.1 ≤ w.since
  /-- All else that the other one does, it does only when the wait is over. -/
  after : ∃ later, (run s answers none).deeds = w.done ++ later ∧ ∀ x ∈ later, due ≤ x.1

theorem Waiting.cutShort {s : ProbeSettings} {answers : Answers} {w : Wait}
    (h : Waiting s answers none w) (hi : ∀ phase, 0 < s.interval phase) {due moment : Nat}
    {answer : Option Bool} (hwake : w.wake? answers = some (due, answer))
    (hsince : w.since ≤ moment) (hdue : moment ≤ due) : CutShort s answers w due moment := by
  have htrace := h.trace_eq hi (Nat.le_succ (w.left s))
  have hmax : moment ≤ max w.since due := Nat.le_trans hdue (Nat.le_max_right _ _)
  have hlater := (Stage.from_finish_succ hwake (w.left s)).mono (Nat.le_max_right w.since due)
  constructor
  case deaf =>
    intro news
    exact Stage.poll_cancelled hwake moment news
  case apart =>
    refine ⟨_, htrace, ?_⟩
    rw [Wait.trace, Stage.finish_cancelled hwake hsince hmax, List.append_nil]
  case before => exact h.done_le
  case after =>
    refine ⟨(w.stage.finish answers none (w.left s + 1) w.since w.checks).deeds, ?_, hlater.2⟩
    rw [← htrace]
    rfl

/-- **A cancellation only cuts a watch short**, at every moment and in every wait. -/
theorem cut_short (s : ProbeSettings) (answers : Answers) (hdown : 0 < s.downInterval)
    (hup : 0 < s.upInterval) :
    (∀ moment, 0 < moment → run s answers (some moment) = (run s answers none).cut moment) ∧
      ∀ w due answer moment, Waiting s answers none w → w.wake? answers = some (due, answer) →
        w.since ≤ moment → moment ≤ due → CutShort s answers w due moment := by
  constructor
  · intro moment hmoment
    exact run_cut s answers hmoment
  · intro w due answer moment h hwake hsince hdue
    exact h.cutShort (ProbeSettings.interval_pos hdown hup) hwake hsince hdue

/-- The first check is answered at 4, the next tick comes at 10, and the check that begins then has
no answer until the budget is used up at 25.  A cancellation at any of these moments comes first. -/
theorem cut_short_of_ties :
    let s : ProbeSettings := { budget := 25, downInterval := 10, upInterval := 10 }
    let answers : Answers := fun n => if n = 0 then some (4, true) else none
    let t := run s answers none
    (t.outcome = .timeout 25 ∧ begun t.deeds = [0, 10]) ∧
      (run s answers (some 4) = t.cut 4 ∧ (t.cut 4).deeds.length = 2) ∧
      (run s answers (some 10) = t.cut 10 ∧ begun (t.cut 10).deeds = [0]) ∧
      (run s answers (some 25) = t.cut 25 ∧ (t.cut 25).outcome = .cancelled) ∧
      ∃ w, Waiting s answers none w ∧ w.since = 0 ∧ CutShort s answers w 4 4 := by
  intro s answers t
  obtain ⟨hcut, hwaits⟩ := cut_short s answers (by decide) (by decide)
  refine ⟨by decide, ⟨hcut 4 (by decide), by decide⟩, ⟨hcut 10 (by decide), by decide⟩,
    ⟨hcut 25 (by decide), by decide⟩, ?_⟩
  have hfirst : Waiting s answers none _ := .begun rfl
  exact ⟨_, hfirst, rfl, hwaits _ 4 (some true) 4 hfirst rfl (by decide) (by decide)⟩

end Probe

end TaskWatch
