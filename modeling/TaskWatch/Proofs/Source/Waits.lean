/-
# The waits of a watch

A watch does something at single moments and waits in between, for the answer of a check or for a
tick.  `Waiting` lists its waits, with no fuel: what it has done by then, since when it waits, and
for what.  The watch may be cancelled at some moment, or not at all.

* **`Stands`** says where a wait can stand.  Round `n` starts `n` periods after the start or later,
  whatever the answers take: a late tick moves the schedule, and so does the change of the phase,
  but neither ever moves the next tick to less than a period after the one before
  (`OnTime.advance`).  So the checks are in order (`InOrder`).
* **`Stands.step`**: a wait that is not the end is over at some moment, and is followed by another
  one.  Each brings the watch nearer to its end (`Wait.left`), for only so many periods fit into the
  budget.
* **`Waiting.ends`**: so every watch comes to its end, and **`Waiting.trace_eq`**: its trace is what
  was done before some wait and what is done from that wait on.
-/
import TaskWatch.Proofs.Source.Rounds

namespace TaskWatch

/-! ## 1. Checks in order -/

/-- The least time between two rounds. -/
def ProbeSettings.pace (s : ProbeSettings) : Nat :=
  min s.downInterval s.upInterval

theorem ProbeSettings.pace_le (s : ProbeSettings) (phase : ProbePhase) :
    s.pace ≤ s.interval phase := by
  cases phase with
  | awaitingDown => exact Nat.min_le_left _ _
  | awaitingUp => exact Nat.min_le_right _ _

/-- The interval of a phase is one of two. -/
theorem ProbeSettings.interval_pos {s : ProbeSettings} (hdown : 0 < s.downInterval)
    (hup : 0 < s.upInterval) (phase : ProbePhase) : 0 < s.interval phase := by
  cases phase with
  | awaitingDown => exact hdown
  | awaitingUp => exact hup

/-- What is heard of a check is an answer. -/
theorem ProbeSettings.exists_of_heard? {s : ProbeSettings} {begun m : Nat} {up : Bool}
    {reply : Option (Nat × Bool)} (h : s.heard? begun reply = some (m, up)) :
    ∃ after, reply = some (after, up) ∧ begun + after = m := by
  rcases reply with - | ⟨after, up'⟩
  · cases h
  · simp only [heard?, Option.ite_none_right_eq_some, Option.some.injEq, Prod.mk.injEq] at h
    obtain ⟨-, hsum, rfl⟩ := h
    exact ⟨after, rfl, hsum⟩

namespace Probe

/-- **The moments at which checks begin.** -/
def begun (deeds : List (Nat × Deed)) : List Nat :=
  deeds.filterMap fun
    | (now, .check) => some now
    | (_, .report _) => none

@[simp] theorem begun_append (before after : List (Nat × Deed)) :
    begun (before ++ after) = begun before ++ begun after :=
  List.filterMap_append

/-- Reports are no checks. -/
theorem begun_reports (now : Nat) (reports : List ProbeReport) :
    begun ((reports.map Deed.report).map (now, ·)) = [] := by
  simp [begun]

theorem length_begun (now : Nat) (deeds : List Deed) :
    (begun (deeds.map (now, ·))).length = deeds.count .check := by
  induction deeds with
  | nil => rfl
  | cons deed deeds ih =>
    cases deed with
    | report r => simpa [begun] using ih
    | check => simpa [begun] using ih

/-- **No two checks overlap**: each but the last has been answered when the next one begins. -/
def Apart (answers : Answers) (moments : List Nat) : Prop :=
  ∀ i, (h : i + 1 < moments.length) →
    ∃ after up, answers i = some (after, up) ∧ moments[i] + after ≤ moments[i + 1]

/-- **Checks in order.** -/
structure InOrder (s : ProbeSettings) (answers : Answers) (moments : List Nat) : Prop where
  /-- Every check comes a pace after the one before it, or later. -/
  paced : ∀ i, (h : i < moments.length) → i * s.pace ≤ moments[i]
  /-- It begins within the budget. -/
  within : ∀ moment ∈ moments, moment < s.budget
  apart : Apart answers moments

section Order

variable {s : ProbeSettings} {answers : Answers} {moments : List Nat} {now now' : Nat}

theorem InOrder.nil (s : ProbeSettings) (answers : Answers) : InOrder s answers [] where
  paced := nofun
  within := nofun
  apart := nofun

theorem Apart.singleton (answers : Answers) (now : Nat) : Apart answers [now] := by
  intro i h
  simp at h

/-- A check that begins later is as far apart from the others. -/
theorem Apart.later (h : Apart answers (moments ++ [now])) (hle : now ≤ now') :
    Apart answers (moments ++ [now']) := by
  intro i hi
  have hi' : i + 1 < (moments ++ [now]).length := by simpa using hi
  obtain ⟨after, up, heq, hafter⟩ := h i hi'
  refine ⟨after, up, heq, ?_⟩
  have hlt : i < moments.length := by simpa using hi
  rw [List.getElem_append_left hlt] at hafter ⊢
  refine Nat.le_trans hafter ?_
  rcases Nat.lt_or_ge (i + 1) moments.length with hin | hout
  · refine Nat.le_of_eq ?_
    rw [List.getElem_append_left hin, List.getElem_append_left hin]
  · rw [List.getElem_append_right hout, List.getElem_append_right hout]
    simpa using hle

/-- **After an answer another check may begin.** -/
theorem Apart.concat (h : Apart answers (moments ++ [now])) {after : Nat} {up : Bool}
    (heq : answers moments.length = some (after, up)) (hle : now + after ≤ now') :
    Apart answers (moments ++ [now] ++ [now']) := by
  intro i hi
  have hlen : (moments ++ [now] ++ [now']).length = moments.length + 2 := by simp
  rcases Nat.lt_or_ge (i + 1) (moments ++ [now]).length with hin | hout
  · obtain ⟨after, up, heq, hafter⟩ := h i hin
    refine ⟨after, up, heq, ?_⟩
    rw [List.getElem_append_left hin, List.getElem_append_left (by omega)]
    exact hafter
  · obtain rfl : i = moments.length := by
      simp at hout
      omega
    refine ⟨after, up, heq, ?_⟩
    simpa using hle

/-- **One more check in order.** -/
theorem InOrder.concat (h : InOrder s answers moments) (hpaced : moments.length * s.pace ≤ now)
    (hb : now < s.budget) (hapart : Apart answers (moments ++ [now])) :
    InOrder s answers (moments ++ [now]) where
  paced := by
    intro i hi
    rcases Nat.lt_or_ge i moments.length with hin | hout
    · rw [List.getElem_append_left hin]
      exact h.paced i hin
    · obtain rfl : i = moments.length := by
        simp at hi
        omega
      simpa using hpaced
  within := by
    intro moment hm
    rcases List.mem_append.mp hm with hm | hm
    · exact h.within moment hm
    · rwa [List.mem_singleton.mp hm]
  apart := hapart

end Order

/-! ## 2. A watch on time -/

/-- **A watch before its round `n`** that has kept its pace. -/
structure OnTime (s : ProbeSettings) (n now : Nat) (p : Probe) : Prop extends
    Underway s n now p where
  paced : n * s.pace ≤ now
  due_paced : (n + 1) * s.pace ≤ p.ticker.due

namespace OnTime

variable {s : ProbeSettings} {n now : Nat} {p : Probe}

theorem later (hp : OnTime s n now p) {moment : Nat} (hm : now ≤ moment) :
    OnTime s n moment p :=
  ⟨hp.toUnderway.later hm, Nat.le_trans hp.paced hm, hp.due_paced⟩

/-- The second phase starts its schedule with a whole period. -/
theorem enterAwaitingUp (hp : OnTime s n now p) (hup : 0 < s.upInterval) {moment : Nat}
    (hm : now ≤ moment) :
    OnTime s n moment (p.enterAwaitingUp moment).1 ∧
      (p.enterAwaitingUp moment).2 = [noted s .awaitingUp moment] := by
  obtain ⟨hp', hdeeds⟩ := hp.toUnderway.enterAwaitingUp hup hm
  refine ⟨⟨hp', Nat.le_trans hp.paced hm, ?_⟩, hdeeds⟩
  calc (n + 1) * s.pace = n * s.pace + s.pace := Nat.succ_mul _ _
    _ ≤ moment + s.interval .awaitingUp :=
      Nat.add_le_add (Nat.le_trans hp.paced hm) (s.pace_le .awaitingUp)
    _ = (p.enterAwaitingUp moment).1.ticker.due := by
      rw [Probe.enterAwaitingUp, hp.settings]
      rfl

/-- **The next tick comes a period after this one, or later.** -/
theorem advance (hp : OnTime s n now p) (hi : 0 < s.interval p.phase) {next : Nat}
    (hnext : p.ticker.due ≤ next) :
    OnTime s (n + 1) next { p with ticker := p.ticker.advance next } := by
  refine ⟨hp.toUnderway.advance hi hnext, Nat.le_trans hp.due_paced hnext, ?_⟩
  have hpace := s.pace_le p.phase
  have hmoved := p.ticker.due_advance next
  rw [hp.period] at hmoved
  calc (n + 1 + 1) * s.pace = (n + 1) * s.pace + s.pace := Nat.succ_mul _ _
    _ ≤ p.ticker.due + s.interval p.phase := Nat.add_le_add hp.due_paced hpace
    _ ≤ (p.ticker.advance next).due := hmoved

/-- **The start of a round** within the budget: some reports, and a check. -/
theorem round_eq (hp : OnTime s n now p) (hup : 0 < s.upInterval) (hb : now < s.budget) :
    ∃ (q : Probe) (reports : List ProbeReport), OnTime s n now q ∧
      p.round now false =
        (.checking q s.budget, reports.map Deed.report ++ [.check]) := by
  obtain ⟨hq, -⟩ := hp.enterAwaitingUp hup (Nat.le_refl now)
  rcases hp.toUnderway.round_eq hup hb with ⟨-, -, -, heq⟩ | ⟨-, heq⟩
  · exact ⟨_, [s.report .awaitingUp (.ofMillis now)], hq, heq⟩
  · exact ⟨p, [], hp, heq⟩

/-- A round that starts too late is the end. -/
theorem round_spent (hp : OnTime s n now p) (hb : s.budget ≤ now) (cancelled : Bool) :
    p.round now cancelled = (.ended (.timeout now), []) := by
  simp [Probe.round, hp.elapsed_eq, hp.settings, hb]

/-- A watch that is cancelled before a round only gets to its reports. -/
theorem round_cancelled (hp : OnTime s n now p) (hb : now < s.budget) :
    ∃ reports : List ProbeReport,
      p.round now true = (.ended .cancelled, reports.map Deed.report) := by
  by_cases hw : p.phase = .awaitingDown ∧ s.downWindow ≤ now
  · refine ⟨[s.report .awaitingUp (.ofMillis (p.elapsed now))], ?_⟩
    simp [Probe.round, hp.settings, hw, Nat.not_le.mpr hb, Probe.enterAwaitingUp,
      Probe.reportAt, Probe.elapsed, Ticker.elapsed, Ticker.setPeriod, hp.startedAt]
  · refine ⟨[], ?_⟩
    simp [Probe.round, hp.elapsed_eq, hp.settings, hw, Nat.not_le.mpr hb]

/-- **The answer of a check** ends the watch, or it is reported. -/
theorem answered_eq (hp : OnTime s n now p) (hup : 0 < s.upInterval) {m : Nat} (hm : now ≤ m)
    (up : Bool) :
    p.answered m up = (.ended (.ready m), []) ∨
      ∃ (q : Probe) (report : ProbeReport), OnTime s n m q ∧
        p.answered m up = (.pausing q, [.report report]) := by
  cases hphase : p.phase <;> cases up
  case awaitingDown.false =>
    obtain ⟨hq, hdeeds⟩ := hp.enterAwaitingUp hup hm
    refine .inr ⟨_, s.report .awaitingUp (.ofMillis m), hq, ?_⟩
    simp only [Probe.answered, hphase, hdeeds]
    rfl
  case awaitingUp.true =>
    exact .inl (by simp only [Probe.answered, hphase, hp.elapsed_eq])
  all_goals
    refine .inr ⟨p, s.report p.phase (.ofMillis m), hp.later hm, ?_⟩
    simp only [Probe.answered, hphase, hp.reportAt_eq, noted]

end OnTime

/-! ## 3. Waits -/

/-- **The rest of a watch after a poll**, with what the poll gave. -/
def Stage.goOn (answers : Answers) (c : Cancellation) (fuel now checks : Nat) :
    Option (Stage × List Deed) → Trace
  | none => { endedAt := now }
  | some (stage, deeds) =>
    (stage.finish answers c fuel now (checks + deeds.count .check)).after now deeds

/-- **One step of the rest of a watch.** -/
theorem Stage.finish_succ {answers : Answers} {c : Cancellation} {stage : Stage}
    {now due checks : Nat} {answer : Option Bool}
    (hwake : stage.wake? now (answers (checks - 1)) = some (due, answer)) (fuel : Nat) :
    stage.finish answers c (fuel + 1) now checks =
      goOn answers c fuel (waitUntil now due c).1 checks
        (stage.poll (waitUntil now due c).1 (!(waitUntil now due c).2) answer) := by
  cases stage with
  | fresh settings | ended outcome => cases hwake
  | checking p deadline | pausing p =>
    simp only [finish, hwake]
    rfl

/-- **A wait**: what the watch has done by then, since when it waits, and for what. -/
structure Wait where
  done : List (Nat × Deed)
  since : Nat
  stage : Stage

namespace Wait

/-- How many checks have begun. -/
def checks (w : Wait) : Nat :=
  (begun w.done).length

/-- When the wait is over if nobody cuts it short, and the answer that it ends with. -/
def wake? (answers : Answers) (w : Wait) : Option (Nat × Option Bool) :=
  w.stage.wake? w.since (answers (w.checks - 1))

/-- The next wait, after the deeds of one moment. -/
def next (w : Wait) (now : Nat) (stage : Stage) (deeds : List Deed) : Wait :=
  { done := w.done ++ deeds.map (now, ·), since := now, stage }

/-- **The trace of a watch that goes on from a wait.** -/
def trace (answers : Answers) (c : Cancellation) (fuel : Nat) (w : Wait) : Trace :=
  let rest := w.stage.finish answers c fuel w.since w.checks
  { rest with deeds := w.done ++ rest.deeds }

theorem checks_next (w : Wait) (now : Nat) (stage : Stage) (deeds : List Deed) :
    (w.next now stage deeds).checks = w.checks + deeds.count .check := by
  rw [checks, next, begun_append, List.length_append, length_begun]
  rfl

/-- The waiting is over. -/
theorem trace_ended (answers : Answers) (c : Cancellation) (fuel : Nat) {w : Wait}
    {outcome : ProbeOutcome} (h : w.stage = .ended outcome) :
    w.trace answers c (fuel + 1) = { deeds := w.done, outcome, endedAt := w.since } := by
  simp [trace, Stage.finish, h]

/-- **One wait, and the trace from the next one on.** -/
theorem trace_next {answers : Answers} {c : Cancellation} {w : Wait} {due : Nat}
    {answer : Option Bool} (hwake : w.wake? answers = some (due, answer)) {stage : Stage}
    {deeds : List Deed}
    (hpoll : w.stage.poll (waitUntil w.since due c).1 (!(waitUntil w.since due c).2) answer =
      some (stage, deeds)) (fuel : Nat) :
    w.trace answers c (fuel + 1) =
      (w.next (waitUntil w.since due c).1 stage deeds).trace answers c fuel := by
  have hrest : w.stage.finish answers c (fuel + 1) w.since w.checks =
      (stage.finish answers c fuel (waitUntil w.since due c).1
        (w.checks + deeds.count .check)).after (waitUntil w.since due c).1 deeds := by
    rw [Stage.finish_succ hwake, hpoll, Stage.goOn]
  unfold trace
  rw [hrest, checks_next]
  simp [next, Trace.after]

end Wait

/-- **The waits of a watch** that is cancelled at some moment, or not at all.  Its end is among
them. -/
inductive Waiting (s : ProbeSettings) (answers : Answers) (c : Cancellation) : Wait → Prop
  | begun {stage : Stage} {deeds : List Deed}
      (h : (Stage.fresh s).poll 0 (c.any (· ≤ 0)) none = some (stage, deeds)) :
      Waiting s answers c { done := deeds.map (0, ·), since := 0, stage }
  | woken {w : Wait} {due : Nat} {answer : Option Bool} {stage : Stage} {deeds : List Deed}
      (hw : Waiting s answers c w) (hwake : w.wake? answers = some (due, answer))
      (hpoll : w.stage.poll (waitUntil w.since due c).1 (!(waitUntil w.since due c).2) answer =
        some (stage, deeds)) :
      Waiting s answers c (w.next (waitUntil w.since due c).1 stage deeds)

/-! ## 4. Where a wait stands -/

/-- **Where a wait can stand.** -/
inductive Stands (s : ProbeSettings) (answers : Answers) : Wait → Prop
  /-- The latest check has just begun, and is waited for until the budget is used up. -/
  | checking {done : List (Nat × Deed)} {since : Nat} {p : Probe}
      (hp : OnTime s (begun done).length since p) (hb : since < s.budget)
      (ho : InOrder s answers (begun done ++ [since])) :
      Stands s answers
        { done := done ++ [(since, .check)], since, stage := .checking p s.budget }
  /-- The latest check is answered, so from now on another one may begin. -/
  | pausing {done : List (Nat × Deed)} {since n : Nat} {p : Probe}
      (hn : (begun done).length = n + 1) (hp : OnTime s n since p)
      (ho : InOrder s answers (begun done)) (ha : Apart answers (begun done ++ [since])) :
      Stands s answers { done, since, stage := .pausing p }
  | ended {done : List (Nat × Deed)} {since : Nat} {outcome : ProbeOutcome}
      (ho : InOrder s answers (begun done)) :
      Stands s answers { done, since, stage := .ended outcome }

/-- **How many waits are left at most**, this one included. -/
def Wait.left (s : ProbeSettings) (w : Wait) : Nat :=
  match w.stage with
  | .checking .. => 2 * (s.budget - w.checks) + 3
  | .pausing _ => 2 * (s.budget - w.checks) + 2
  | .fresh _ | .ended _ => 1

section Stands

variable {s : ProbeSettings} {answers : Answers} {c : Cancellation} {w : Wait}

/-- The checks that have begun are in order, wherever a wait stands. -/
theorem Stands.inOrder (h : Stands s answers w) : InOrder s answers (begun w.done) := by
  cases h with
  | checking hp hb ho => simpa [begun] using ho
  | pausing hn hp ho ha => exact ho
  | ended ho => exact ho

/-- **A check as the next deed**, after some reports. -/
theorem Stands.check {done : List (Nat × Deed)} {now : Nat} {p : Probe}
    (hp : OnTime s (begun done).length now p) (hb : now < s.budget)
    (ho : InOrder s answers (begun done)) (ha : Apart answers (begun done ++ [now]))
    (reports : List ProbeReport) :
    Stands s answers
      { done := done ++ (reports.map Deed.report ++ [Deed.check]).map (now, ·)
        since := now, stage := .checking p s.budget } := by
  have hdone : begun (done ++ (reports.map Deed.report).map (now, ·)) = begun done := by
    rw [begun_append, begun_reports, List.append_nil]
  have hstands : Stands s answers
      { done := done ++ (reports.map Deed.report).map (now, ·) ++ [(now, .check)]
        since := now, stage := .checking p s.budget } := by
    refine .checking ?_ hb ?_
    · rwa [hdone]
    · rw [hdone]
      exact ho.concat hp.paced hb ha
  simpa using hstands

/-- A wait that is undisturbed is over when it is due, and a cancellation that comes by then ends
it. -/
theorem waitUntil_cases {now target : Nat} (h : now ≤ target) (c : Cancellation) :
    waitUntil now target c = (target, true) ∨
      ∃ moment, waitUntil now target c = (moment, false) := by
  cases c with
  | none => exact .inl (by simp [waitUntil, Nat.max_eq_right h])
  | some m =>
    by_cases hm : m ≤ target
    · refine .inr ⟨max now m, ?_⟩
      simp [waitUntil, Nat.max_eq_right h, hm]
    · refine .inl ?_
      simp [waitUntil, Nat.max_eq_right h, hm]

/-- **A wait and what follows it.** -/
def Step (s : ProbeSettings) (answers : Answers) (c : Cancellation) (w : Wait) : Prop :=
  ∃ due answer stage deeds, w.wake? answers = some (due, answer) ∧
    w.stage.poll (waitUntil w.since due c).1 (!(waitUntil w.since due c).2) answer =
      some (stage, deeds) ∧
    Stands s answers (w.next (waitUntil w.since due c).1 stage deeds) ∧
    (w.next (waitUntil w.since due c).1 stage deeds).left s < w.left s

/-- **An undisturbed wait, or one that a cancellation ends.** -/
theorem Stands.step_of {due : Nat} {answer : Option Bool} (h : Stands s answers w)
    (hwake : w.wake? answers = some (due, answer)) (hdue : w.since ≤ due)
    (hcancelled : ∀ moment, w.stage.poll moment true answer = some (.ended .cancelled, []))
    (hleft : 1 < w.left s)
    (hnext : ∃ stage deeds, w.stage.poll due false answer = some (stage, deeds) ∧
      Stands s answers (w.next due stage deeds) ∧ (w.next due stage deeds).left s < w.left s) :
    Step s answers c w := by
  rcases waitUntil_cases hdue c with heq | ⟨moment, heq⟩
  · obtain ⟨stage, deeds, hpoll, hstands, hless⟩ := hnext
    refine ⟨due, answer, stage, deeds, hwake, ?_⟩
    rw [heq]
    exact ⟨hpoll, hstands, hless⟩
  · refine ⟨due, answer, .ended .cancelled, [], hwake, ?_⟩
    rw [heq]
    refine ⟨hcancelled moment, ?_, hleft⟩
    have hdone := h.inOrder
    rw [← List.append_nil w.done] at hdone
    exact .ended hdone

/-- **What a check comes to**: it is waited for until the budget is used up, or it is answered
by then. -/
theorem wake?_checking (done : List (Nat × Deed)) (since : Nat) (p : Probe) :
    Wait.wake? answers
        { done := done ++ [(since, .check)], since, stage := .checking p s.budget } =
      match s.heard? since (answers (begun done).length) with
      | none => some (s.budget, none)
      | some (m, up) => some (m, some up) := by
  have hlast : answers (Wait.checks
      { done := done ++ [(since, .check)], since, stage := .checking p s.budget } - 1) =
        answers (begun done).length := by
    simp [Wait.checks, begun]
  rw [Wait.wake?, hlast]
  cases answers (begun done).length with
  | none => rfl
  | some reply =>
    by_cases hle : since + reply.1 ≤ s.budget
    · simp [Stage.wake?, ProbeSettings.heard?, hle]
    · simp [Stage.wake?, ProbeSettings.heard?, hle]

/-- The wait for a check. -/
theorem step_checking (hi : ∀ phase, 0 < s.interval phase) {done : List (Nat × Deed)}
    {since : Nat} {p : Probe} (hp : OnTime s (begun done).length since p) (hb : since < s.budget)
    (ho : InOrder s answers (begun done ++ [since])) :
    Step s answers c
      { done := done ++ [(since, .check)], since, stage := .checking p s.budget } := by
  have hstands := Stands.checking hp hb ho
  have hwake := @wake?_checking s answers done since p
  have hdone : begun (done ++ [(since, .check)]) = begun done ++ [since] := by simp [begun]
  have hended : ∀ outcome now, Stands s answers
      { done := done ++ [(since, .check)] ++ [], since := now, stage := .ended outcome } := by
    intro outcome now
    rw [List.append_nil]
    exact .ended (hdone ▸ ho)
  have hleft : 1 < Wait.left s
      { done := done ++ [(since, .check)], since, stage := .checking p s.budget } := by
    simp [Wait.left]
  cases hr : s.heard? since (answers (begun done).length) with
  | none =>
    rw [hr] at hwake
    refine hstands.step_of hwake (Nat.le_of_lt hb) (fun _ => rfl) hleft ?_
    refine ⟨.ended (.timeout s.budget), [], ?_, hended _ _, hleft⟩
    simp [Stage.poll, hp.elapsed_eq]
  | some heard =>
    obtain ⟨m, up⟩ := heard
    obtain ⟨after, ha, rfl⟩ := ProbeSettings.exists_of_heard? hr
    rw [hr] at hwake
    have hm : since ≤ since + after := Nat.le_add_right since after
    refine hstands.step_of hwake hm (fun _ => rfl) hleft ?_
    rcases hp.answered_eq (hi .awaitingUp) hm up with heq | ⟨q, report, hq, heq⟩
    · refine ⟨.ended (.ready (since + after)), [], ?_, hended _ _, hleft⟩
      simp [Stage.poll, heq]
    · refine ⟨.pausing q, [.report report], by simp [Stage.poll, heq], ?_, ?_⟩
      · have hdone' : begun (done ++ [(since, .check)] ++
            [Deed.report report].map (since + after, ·)) = begun done ++ [since] := by
          simp [begun]
        refine .pausing (n := (begun done).length) ?_ hq ?_ ?_
        · rw [hdone', List.length_append, List.length_singleton]
        · rwa [hdone']
        · rw [hdone']
          exact ho.apart.concat ha (Nat.le_refl _)
      · simp [Wait.left, Wait.next, Wait.checks, begun]

/-- The wait for a tick. -/
theorem step_pausing (hi : ∀ phase, 0 < s.interval phase) {done : List (Nat × Deed)}
    {since n : Nat} {p : Probe} (hn : (begun done).length = n + 1) (hp : OnTime s n since p)
    (ho : InOrder s answers (begun done)) (ha : Apart answers (begun done ++ [since])) :
    Step s answers c { done, since, stage := .pausing p } := by
  have hstands := Stands.pausing hn hp ho ha
  have hwake : Wait.wake? answers { done, since, stage := .pausing p } =
      some (max since p.ticker.due, none) := rfl
  have hsince : since ≤ max since p.ticker.due := Nat.le_max_left _ _
  have hdue : p.ticker.due ≤ max since p.ticker.due := Nat.le_max_right _ _
  generalize max since p.ticker.due = next at hwake hsince hdue
  have hq := hp.advance (hi _) hdue
  have hpoll : (Stage.pausing p).poll next false none =
      some ({ p with ticker := p.ticker.advance next }.round next false) := by
    simp [Stage.poll, hdue]
  have hleft : Wait.left s { done, since, stage := .pausing p } =
      2 * (s.budget - (n + 1)) + 2 := by
    rw [Wait.left, Wait.checks, hn]
  refine hstands.step_of hwake hsince (fun _ => rfl) (by omega) ?_
  rcases Nat.lt_or_ge next s.budget with hb | hb
  · obtain ⟨q, reports, hq', heq⟩ := hq.round_eq (hi .awaitingUp) hb
    rw [heq] at hpoll
    refine ⟨_, _, hpoll, .check (hn ▸ hq') hb ho (Apart.later ha hsince) reports, ?_⟩
    have hbegun := hq'.begun
    have hcount : (reports.map Deed.report ++ [Deed.check]).count .check = 1 := by
      simp [List.count_eq_zero]
    have hchecks : Wait.checks (Wait.next { done, since, stage := .pausing p } next
        (.checking q s.budget) (reports.map Deed.report ++ [.check])) = n + 1 + 1 := by
      rw [Wait.checks_next, hcount, Wait.checks, hn]
    change 2 * (s.budget - Wait.checks _) + 3 < _
    rw [hchecks, hleft]
    omega
  · rw [hq.round_spent hb false] at hpoll
    refine ⟨_, _, hpoll, ?_, ?_⟩
    · refine .ended ?_
      rwa [List.map_nil, List.append_nil]
    · rw [hleft]
      simp [Wait.left, Wait.next]

/-- **Every wait but the end is over at some time**, and brings the watch nearer to its end. -/
theorem Stands.step (h : Stands s answers w) (hi : ∀ phase, 0 < s.interval phase)
    (c : Cancellation) : (∃ outcome, w.stage = .ended outcome) ∨ Step s answers c w := by
  cases h with
  | checking hp hb ho => exact .inr (step_checking hi hp hb ho)
  | pausing hn hp ho ha => exact .inr (step_pausing hi hn hp ho ha)
  | ended ho => exact .inl ⟨_, rfl⟩

/-- **The first wait.** -/
theorem Stands.first (hi : ∀ phase, 0 < s.interval phase) {stage : Stage} {deeds : List Deed}
    {cancelled : Bool} (h : (Stage.fresh s).poll 0 cancelled none = some (stage, deeds)) :
    Stands s answers { done := deeds.map (0, ·), since := 0, stage } := by
  have hp : OnTime s 0 0
      { settings := s, phase := .awaitingDown, ticker := .start 0 s.downInterval } := by
    have hdown : 0 < s.downInterval := hi .awaitingDown
    have hpace : s.pace ≤ s.downInterval := s.pace_le .awaitingDown
    exact
      { settings := rfl
        startedAt := rfl
        period := rfl
        begun := Nat.le_refl 0
        due := by simpa [Ticker.start] using hdown
        due_le := by simp [Ticker.start, ProbeSettings.interval]
        paced := by simp
        due_paced := by simpa [Ticker.start] using hpace }
  have hnil : InOrder s answers [] := .nil s answers
  have hended : ∀ (outcome : ProbeOutcome) (reports : List ProbeReport), Stands s answers
      { done := (reports.map Deed.report).map (0, ·), since := 0, stage := .ended outcome } := by
    intro outcome reports
    refine .ended ?_
    rwa [begun_reports]
  simp only [Stage.poll, hp.reportAt_eq, Option.some.injEq, Prod.mk.injEq] at h
  obtain ⟨rfl, rfl⟩ := h
  rcases Nat.lt_or_ge 0 s.budget with hb | hb
  · cases cancelled with
    | true =>
      obtain ⟨reports, heq⟩ := hp.round_cancelled hb
      rw [heq]
      exact hended .cancelled (s.report .awaitingDown (.ofMillis 0) :: reports)
    | false =>
      obtain ⟨q, reports, hq, heq⟩ := hp.round_eq (hi .awaitingUp) hb
      rw [heq]
      exact @Stands.check s answers [] 0 q hq hb hnil (.singleton answers 0)
        (s.report .awaitingDown (.ofMillis 0) :: reports)
  · rw [hp.round_spent hb cancelled]
    exact hended (.timeout 0) [s.report .awaitingDown (.ofMillis 0)]

/-- **Every wait stands somewhere.** -/
theorem Waiting.stands (h : Waiting s answers c w) (hi : ∀ phase, 0 < s.interval phase) :
    Stands s answers w := by
  induction h with
  | begun h => exact .first hi h
  | @woken w due answer stage deeds _ hwake hpoll ih =>
    rcases ih.step hi c with
      ⟨outcome, hended⟩ | ⟨due', answer', stage', deeds', hwake', hpoll', hstands, -⟩
    · simp [Wait.wake?, Stage.wake?, hended] at hwake
    · cases hwake.symm.trans hwake'
      cases hpoll.symm.trans hpoll'
      exact hstands

/-! ## 5. The end -/

/-- The fuel of a whole watch lasts. -/
theorem Wait.left_le (s : ProbeSettings) (w : Wait) : w.left s ≤ 2 * s.budget + 4 := by
  unfold left
  split <;> omega

/-- **Every watch comes to its end**, from whatever wait on, and the fuel makes no difference if
it lasts for the waits that are left. -/
theorem Waiting.ends (h : Waiting s answers c w) (hi : ∀ phase, 0 < s.interval phase) :
    ∃ (w' : Wait) (outcome : ProbeOutcome), Waiting s answers c w' ∧ w'.stage = .ended outcome ∧
      ∀ fuel, w.left s ≤ fuel →
        w.trace answers c fuel = { deeds := w'.done, outcome, endedAt := w'.since } := by
  induction hk : w.left s using Nat.strongRecOn generalizing w with
  | ind k ih =>
    subst hk
    rcases (h.stands hi).step hi c with
      ⟨outcome, hended⟩ | ⟨due, answer, stage, deeds, hwake, hpoll, -, hless⟩
    · refine ⟨w, outcome, h, hended, ?_⟩
      intro fuel hfuel
      obtain ⟨fuel, rfl⟩ : ∃ f, fuel = f + 1 := by
        simp only [Wait.left, hended] at hfuel
        exact ⟨fuel - 1, by omega⟩
      exact Wait.trace_ended answers c fuel hended
    · obtain ⟨w', outcome, hw', hended, htrace⟩ := ih _ hless (h.woken hwake hpoll) rfl
      refine ⟨w', outcome, hw', hended, ?_⟩
      intro fuel hfuel
      obtain ⟨fuel, rfl⟩ : ∃ f, fuel = f + 1 := ⟨fuel - 1, by omega⟩
      rw [Wait.trace_next hwake hpoll]
      exact htrace fuel (by omega)

/-- Fuel that lasts makes no difference. -/
theorem Waiting.trace_fuel (h : Waiting s answers c w) (hi : ∀ phase, 0 < s.interval phase)
    {fuel fuel' : Nat} (hfuel : w.left s ≤ fuel) (hfuel' : w.left s ≤ fuel') :
    w.trace answers c fuel = w.trace answers c fuel' := by
  obtain ⟨w', outcome, -, -, htrace⟩ := h.ends hi
  rw [htrace fuel hfuel, htrace fuel' hfuel']

/-- **The trace of a watch** is what it has done by some wait, and what it does from then on. -/
theorem Waiting.trace_eq (h : Waiting s answers c w) (hi : ∀ phase, 0 < s.interval phase)
    {fuel : Nat} (hfuel : w.left s ≤ fuel) : w.trace answers c fuel = run s answers c := by
  induction h generalizing fuel with
  | @begun stage deeds h =>
    have hrun : run s answers c = Wait.trace answers c (2 * s.budget + 4)
        { done := deeds.map (0, ·), since := 0, stage } := by
      rw [run, h]
      simp [Wait.trace, Wait.checks, length_begun, Trace.after]
    rw [hrun]
    exact (Waiting.begun h).trace_fuel hi hfuel (Wait.left_le s _)
  | @woken w due answer stage deeds hw hwake hpoll ih =>
    have hlast : w.left s ≤ w.left s + fuel + 1 := by omega
    rw [← ih hlast, Wait.trace_next hwake hpoll]
    exact (hw.woken hwake hpoll).trace_fuel hi hfuel (by omega)

end Stands

end Probe

end TaskWatch
