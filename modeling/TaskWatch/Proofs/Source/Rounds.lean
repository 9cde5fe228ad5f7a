/-
# The rounds of a watch

`Probe.run` follows its stages for as many steps as its fuel allows, and its ticker knows
more than matters.  `Rounds` says without either what an undisturbed watch does: in which
phase a round starts and when, what is heard of its check, and that the next round starts
no later than a period after the answer.

* **`Underway`** holds of a watch at the start of each of its rounds.  Every round moves the
  next tick by a period, so round `n` starts at `n` or later: that is what the fuel counts
  on.  The moments themselves do not help, for the ticks of a late round with a short period
  fall due all at once.
* **`rounds_run`**: a whole watch is a sequence of rounds that starts at 0.
-/
import TaskWatch.Source.Probe

namespace TaskWatch

/-! ## 1. Rounds -/

/-- The time between two rounds of a phase. -/
def ProbeSettings.interval (s : ProbeSettings) : ProbePhase → Nat
  | .awaitingDown => s.downInterval
  | .awaitingUp => s.upInterval

/-- **The phase after an answer**: a server that is seen down ends the first one. -/
def ProbePhase.after : ProbePhase → Bool → ProbePhase
  | .awaitingDown, false => .awaitingUp
  | phase, _ => phase

/-- **What is heard of a check** that begins at a moment: when its answer comes, and the
answer, if it comes within the budget. -/
def ProbeSettings.heard? (s : ProbeSettings) (begun : Nat) :
    Option (Nat × Bool) → Option (Nat × Bool)
  | some (after, up) => if begun + after ≤ s.budget then some (begun + after, up) else none
  | none => none

theorem ProbeSettings.le_of_heard? {s : ProbeSettings} {begun m : Nat} {up : Bool}
    {reply : Option (Nat × Bool)} (h : s.heard? begun reply = some (m, up)) :
    begun ≤ m ∧ m ≤ s.budget := by
  rcases reply with - | ⟨after, up⟩
  · cases h
  · simp only [heard?, Option.ite_none_right_eq_some, Option.some.injEq, Prod.mk.injEq] at h
    omega

namespace Probe

/-- A report, as a deed. -/
def noted (s : ProbeSettings) (phase : ProbePhase) (now : Nat) : Deed :=
  .report (s.report phase (.ofMillis now))

/-- **What a watch does from the start of a round on.**  The round starts in a phase and at a
moment, and some checks have begun before it.  `answers` says how all of them are answered. -/
inductive Rounds (s : ProbeSettings) (answers : Answers) : ProbePhase → Nat → Nat → Trace → Prop
  /-- The budget is used up. -/
  | spent {phase : ProbePhase} {n now : Nat} (hb : s.budget ≤ now) :
      Rounds s answers phase n now { outcome := .timeout now, endedAt := now }
  /-- The window of the first phase is over. -/
  | switched {n now : Nat} {t : Trace} (hb : now < s.budget) (hw : s.downWindow ≤ now)
      (h : Rounds s answers .awaitingUp n now t) :
      Rounds s answers .awaitingDown n now (t.after now [noted s .awaitingUp now])
  /-- The check is not answered in time. -/
  | unheard {phase : ProbePhase} {n now : Nat} (hb : now < s.budget)
      (hw : phase = .awaitingDown → now < s.downWindow) (hr : s.heard? now (answers n) = none) :
      Rounds s answers phase n now
        (Trace.after now [.check] { outcome := .timeout s.budget, endedAt := s.budget })
  /-- The server is back. -/
  | ready {n now m : Nat} (hb : now < s.budget) (hr : s.heard? now (answers n) = some (m, true)) :
      Rounds s answers .awaitingUp n now
        (Trace.after now [.check] { outcome := .ready m, endedAt := m })
  /-- Any other answer is reported, and there is another round. -/
  | goesOn {phase : ProbePhase} {n now m next : Nat} {up : Bool} {t : Trace}
      (hb : now < s.budget) (hw : phase = .awaitingDown → now < s.downWindow)
      (hr : s.heard? now (answers n) = some (m, up)) (hup : phase = .awaitingUp → up = false)
      (hm : m ≤ next) (hnext : next ≤ m + s.interval (phase.after up))
      (h : Rounds s answers (phase.after up) (n + 1) next t) :
      Rounds s answers phase n now
        ((t.after m [noted s (phase.after up) m]).after now [.check])

/-! ## 2. A watch at the start of a round -/

/-- **A watch before its round `n`**, which starts now. -/
structure Underway (s : ProbeSettings) (n now : Nat) (p : Probe) : Prop where
  settings : p.settings = s
  startedAt : p.ticker.startedAt = 0
  period : p.ticker.period = s.interval p.phase
  begun : n ≤ now
  due : n < p.ticker.due
  due_le : p.ticker.due ≤ now + s.interval p.phase

namespace Underway

variable {s : ProbeSettings} {n now : Nat} {p : Probe}

theorem elapsed_eq (hp : Underway s n now p) (moment : Nat) : p.elapsed moment = moment := by
  rw [Probe.elapsed, Ticker.elapsed, hp.startedAt, Nat.sub_zero]

theorem reportAt_eq (hp : Underway s n now p) (moment : Nat) :
    p.reportAt moment = noted s p.phase moment := by
  rw [Probe.reportAt, hp.settings, hp.elapsed_eq, noted]

/-- The second phase has a schedule of its own. -/
theorem enterAwaitingUp (hp : Underway s n now p) (hup : 0 < s.upInterval) {moment : Nat}
    (hm : now ≤ moment) :
    Underway s n moment (p.enterAwaitingUp moment).1 ∧
      (p.enterAwaitingUp moment).2 = [noted s .awaitingUp moment] := by
  have hbegun := hp.begun
  have hp' : Underway s n moment (p.enterAwaitingUp moment).1 := by
    refine ⟨hp.settings, hp.startedAt, ?_, by omega, ?_, ?_⟩ <;>
      simp only [Probe.enterAwaitingUp, Ticker.setPeriod, hp.settings, ProbeSettings.interval]
      <;> omega
  exact ⟨hp', congrArg ([·]) (hp'.reportAt_eq moment)⟩

/-- A later moment is none the worse. -/
theorem later (hp : Underway s n now p) {moment : Nat} (hm : now ≤ moment) :
    Underway s n moment p :=
  ⟨hp.settings, hp.startedAt, hp.period, Nat.le_trans hp.begun hm, hp.due,
    Nat.le_trans hp.due_le (Nat.add_le_add_right hm _)⟩

/-- **With the tick that is due, the next round starts.** -/
theorem advance (hp : Underway s n now p) (hi : 0 < s.interval p.phase) {next : Nat}
    (hnext : p.ticker.due ≤ next) :
    Underway s (n + 1) next { p with ticker := p.ticker.advance next } := by
  have hdue := hp.due
  have hmoved := p.ticker.due_advance next
  rw [hp.period] at hmoved
  refine ⟨hp.settings, hp.startedAt, hp.period, by omega, by simp only; omega, ?_⟩
  simp only [Ticker.advance, hp.period]
  split <;> omega

/-! ## 3. A whole watch -/

/-- The start of a round that is not the last: the phase may change, and the check begins. -/
theorem round_eq (hp : Underway s n now p) (hup : 0 < s.upInterval) (hb : now < s.budget) :
    (p.phase = .awaitingDown ∧ s.downWindow ≤ now ∧
        Underway s n now (p.enterAwaitingUp now).1 ∧
        p.round now false = (.checking (p.enterAwaitingUp now).1 s.budget,
          [noted s .awaitingUp now, .check])) ∨
      ((p.phase = .awaitingDown → now < s.downWindow) ∧
        p.round now false = (.checking p s.budget, [.check])) := by
  obtain ⟨hp', hdeeds⟩ := hp.enterAwaitingUp hup (Nat.le_refl now)
  have hdeadline : now + (s.budget - now) = s.budget := by omega
  by_cases hw : p.phase = .awaitingDown ∧ s.downWindow ≤ now
  · refine .inl ⟨hw.1, hw.2, hp', ?_⟩
    have hround : p.round now false =
        (.checking (p.enterAwaitingUp now).1 s.budget, (p.enterAwaitingUp now).2 ++ [.check]) := by
      simp [Probe.round, hp.elapsed_eq, hp.settings, hp'.settings, hw, Nat.not_le.mpr hb,
        hdeadline]
    rw [hround, hdeeds]
    rfl
  · refine .inr ⟨fun hphase => Nat.lt_of_not_le fun hle => hw ⟨hphase, hle⟩, ?_⟩
    simp [Probe.round, hp.elapsed_eq, hp.settings, hw, Nat.not_le.mpr hb, hdeadline]

/-- The answer of a check. -/
theorem answered_eq (hp : Underway s n now p) (hup : 0 < s.upInterval) {m : Nat} (hm : now ≤ m)
    (up : Bool) :
    (p.phase = .awaitingUp ∧ up = true ∧ p.answered m up = (.ended (.ready m), [])) ∨
      ((p.phase = .awaitingUp → up = false) ∧ ∃ q, Underway s n m q ∧
        q.phase = p.phase.after up ∧
        p.answered m up = (.pausing q, [noted s (p.phase.after up) m])) := by
  cases hphase : p.phase <;> cases up
  case awaitingDown.false =>
    obtain ⟨hq, hdeeds⟩ := hp.enterAwaitingUp hup hm
    refine .inr ⟨by simp, _, hq, rfl, ?_⟩
    simp only [Probe.answered, hphase, hdeeds]
    rfl
  case awaitingUp.true =>
    exact .inl ⟨rfl, rfl, by simp only [Probe.answered, hphase, hp.elapsed_eq]⟩
  all_goals
    refine .inr ⟨by simp, p, hp.later hm, hphase, ?_⟩
    simp only [Probe.answered, hp.reportAt_eq, hphase, ProbePhase.after]

end Underway

@[simp] theorem Trace.after_nil (now : Nat) (t : Trace) : t.after now [] = t := rfl

/-- **A check is waited for**, until it is answered or the budget is used up. -/
theorem finish_checking {s : ProbeSettings} {answers : Answers} {p : Probe} {n now fuel : Nat}
    (hp : Underway s n now p) (hb : now < s.budget) :
    (Stage.checking p s.budget).finish answers none (fuel + 1) now (n + 1) =
      match s.heard? now (answers n) with
      | none => (Stage.ended (.timeout s.budget)).finish answers none fuel s.budget (n + 1)
      | some (m, up) =>
        ((p.answered m up).1.finish answers none fuel m
          (n + 1 + (p.answered m up).2.count .check)).after m (p.answered m up).2 := by
  have hmax : max now s.budget = s.budget := by omega
  cases hr : answers n with
  | none => simp [Stage.finish, Stage.wake?, Stage.poll, waitUntil, hp.elapsed_eq,
      ProbeSettings.heard?, hr, hmax]
  | some reply =>
    obtain ⟨after, up⟩ := reply
    by_cases hle : now + after ≤ s.budget
    · simp [Stage.finish, Stage.wake?, Stage.poll, waitUntil, ProbeSettings.heard?, hr, hle]
    · simp [Stage.finish, Stage.wake?, Stage.poll, waitUntil, hp.elapsed_eq,
        ProbeSettings.heard?, hr, hle, hmax]

/-- **The rest of a watch** from the start of a round on. -/
def rest (p : Probe) (answers : Answers) (fuel n now : Nat) : Trace :=
  let (stage, deeds) := p.round now false
  (stage.finish answers none fuel now (n + deeds.count .check)).after now deeds

/-- **What is waited for between two rounds is a tick**: it starts the next round, and if the wait is
cut short the watch is over. -/
theorem finish_tick (answers : Answers) (c : Cancellation) (p : Probe) (n now fuel : Nat) :
    (Stage.pausing p).finish answers c (fuel + 1) now n =
      match p.ticker.tick now c with
      | (moment, some ticker) =>
        let (stage, deeds) := { p with ticker }.round moment false
        (stage.finish answers c fuel moment (n + deeds.count .check)).after moment deeds
      | (moment, none) => (Stage.ended .cancelled).finish answers c fuel moment n := by
  have hwait : waitUntil now (max now p.ticker.due) c = waitUntil now p.ticker.due c := by
    have hmax : max now (max now p.ticker.due) = max now p.ticker.due := by omega
    cases c <;> simp only [waitUntil, hmax]
  have hdue : ∀ moment, waitUntil now p.ticker.due c = (moment, true) → p.ticker.due ≤ moment := by
    intro moment h
    cases c with
    | none =>
      cases h
      exact Nat.le_max_right _ _
    | some m =>
      rw [waitUntil] at h
      split at h
      · cases h
      · cases h
        exact Nat.le_max_right _ _
  simp only [Stage.finish, Stage.wake?, hwait, Ticker.tick]
  cases h : waitUntil now p.ticker.due c with
  | mk moment undisturbed =>
    cases undisturbed with
    | true => simp [Stage.poll, hdue moment h]
    | false => simp [Stage.poll]

/-- **A tick is waited for**, and the next round starts. -/
theorem finish_pausing {answers : Answers} {p : Probe} {n now fuel : Nat} :
    (Stage.pausing p).finish answers none (fuel + 1) now n =
      { p with ticker := p.ticker.advance (max now p.ticker.due) }.rest answers fuel n
        (max now p.ticker.due) :=
  finish_tick answers none p n now fuel

section Rest

variable {s : ProbeSettings} {answers : Answers} {n now : Nat} {p : Probe}

/-- A check and what follows it, if all that follows the next tick is known. -/
theorem rounds_checking (hi : ∀ phase, 0 < s.interval phase) (hp : Underway s n now p)
    (hb : now < s.budget) (hw : p.phase = .awaitingDown → now < s.downWindow) {fuel : Nat}
    (hrest : ∀ {q : Probe} {next : Nat} {phase : ProbePhase}, q.phase = phase →
      Underway s (n + 1) next q →
        Rounds s answers phase (n + 1) next (q.rest answers fuel (n + 1) next)) :
    Rounds s answers p.phase n now
      (((Stage.checking p s.budget).finish answers none (fuel + 2) now (n + 1)).after now
        [.check]) := by
  rw [finish_checking hp hb]
  cases hr : s.heard? now (answers n) with
  | none => exact .unheard hb hw hr
  | some heard =>
    obtain ⟨m, up⟩ := heard
    have hm := (ProbeSettings.le_of_heard? hr).1
    rcases hp.answered_eq (hi .awaitingUp) hm up with
      ⟨hphase, rfl, heq⟩ | ⟨hup, q, hq, hqphase, heq⟩
    · simp only [heq, hphase]
      exact .ready hb hr
    · have hdue := hq.due_le
      have hnext := hrest (q := { q with ticker := q.ticker.advance (max m q.ticker.due) })
        hqphase (hq.advance (hi _) (Nat.le_max_right m q.ticker.due))
      rw [hqphase] at hdue
      have hcount : [noted s (p.phase.after up) m].count .check = 0 := rfl
      simp only [heq, finish_pausing, hcount, Nat.add_zero]
      exact .goesOn hb hw hr hup (Nat.le_max_left _ _)
        (Nat.max_le.mpr ⟨Nat.le_add_right _ _, hdue⟩) hnext

/-- **The rest of a watch is a sequence of rounds**, if the fuel lasts for two steps in each of
the rounds that are left. -/
theorem rounds_rest (hi : ∀ phase, 0 < s.interval phase) {fuel : Nat}
    (hp : Underway s n now p) (hfuel : 2 * (s.budget - n) < fuel) :
    Rounds s answers p.phase n now (p.rest answers fuel n now) := by
  induction fuel using Nat.strongRecOn generalizing n now p with
  | ind fuel ih =>
    rcases Nat.lt_or_ge now s.budget with hb | hb
    · have hbegun := hp.begun
      obtain ⟨fuel, rfl⟩ : ∃ f, fuel = f + 2 := ⟨fuel - 2, by omega⟩
      have hrest : ∀ {q : Probe} {next : Nat} {phase : ProbePhase}, q.phase = phase →
          Underway s (n + 1) next q →
            Rounds s answers phase (n + 1) next (q.rest answers fuel (n + 1) next) := by
        rintro q next _ rfl hq
        exact ih fuel (by omega) hq (by omega)
      rcases hp.round_eq (hi .awaitingUp) hb with ⟨hphase, hw, hp', heq⟩ | ⟨hw, heq⟩
      · have hup : (p.enterAwaitingUp now).1.phase = .awaitingUp := rfl
        have hchecking := rounds_checking hi hp' hb (by simp [hup]) hrest
        simp only [rest, heq, hphase]
        exact .switched hb hw (hup ▸ hchecking)
      · simp only [rest, heq]
        exact rounds_checking hi hp hb hw hrest
    · obtain ⟨fuel, rfl⟩ : ∃ f, fuel = f + 1 := ⟨fuel - 1, by omega⟩
      have hround : p.round now false = (.ended (.timeout now), []) := by
        simp [Probe.round, hp.elapsed_eq, hp.settings, hb]
      simp only [rest, hround]
      exact .spent hb

/-- **A whole watch is a sequence of rounds**, after its first report. -/
theorem rounds_run (hi : ∀ phase, 0 < s.interval phase) :
    ∃ t, Rounds s answers .awaitingDown 0 0 t ∧
      run s answers none = t.after 0 [noted s .awaitingDown 0] := by
  have hp : Underway s 0 0
      { settings := s, phase := .awaitingDown, ticker := .start 0 s.downInterval } := by
    have := hi .awaitingDown
    constructor <;> simp [Ticker.start, ProbeSettings.interval] at this ⊢
    exact this
  have hfuel : 2 * (s.budget - 0) < 2 * s.budget + 4 := by omega
  refine ⟨_, rounds_rest hi hp hfuel, ?_⟩
  have hreport := hp.reportAt_eq 0
  simp [run, Stage.poll, rest, hreport, noted, Trace.after]

end Rest

end Probe

end TaskWatch
