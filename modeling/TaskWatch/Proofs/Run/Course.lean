/-
# The course of a run

A run takes steps, its source takes steps, the user may cancel, and the console may retire
the run: `Turn` lists what can happen to it.  The moments and the news are those that happen
to come, so a course is a run against any server and with any timing.

**Who sent what.**  The queue of a run holds signals only.  A `Signed` run keeps account
beside it: how many sources have started, and for each queued signal who sent it, the source
with this number or the user.  The account follows from what the run does, and the run takes
no notice of it.

**`Signed.keeps`** is the induction over a course: what every turn preserves is true wherever
the course leads.  A run that some course leads to is `Reached`.
-/
import TaskWatch.Proofs.Run.Step
import TaskWatch.Proofs.Tracker.Opening

namespace TaskWatch.Run

/-! ## 1. Turns -/

/-- **What can happen to a run.** -/
inductive Turn where
  /-- It takes a step at a moment. -/
  | step (now : Nat)
  /-- Its source takes a step, perhaps with news. -/
  | hear (now : Nat) (news : Option News)
  /-- The user cancels. -/
  | cancel
  | retire
  deriving Repr

/-- **A queued signal** and the number of the source that sent it; without one, the user
did. -/
structure Letter where
  signal : Signal
  sender : Option Nat
  deriving Repr

/-- **A run and an account of its queue.** -/
structure Signed where
  run : Run
  /-- How many sources have started; the latest has this number. -/
  sources : Nat := 0
  letters : List Letter := []
  deriving Repr

namespace Signed

/-- A run that is about to begin. -/
def opening (start : Tracker.Start) : Signed :=
  { run := (Run.start start.tracker).1 }

/-- **The account after a step of the run**: a source that was not there gets the next
number, and a letter that was heard is gone. -/
def goOn (x : Signed) (run : Run) : Signed where
  run := run
  sources := if x.run.source.isNone && run.source.isSome then x.sources + 1 else x.sources
  letters := x.letters.drop (x.run.inbox.length - run.inbox.length)

/-- **One turn.**  `none`: it cannot happen now. -/
def turn (settings : ConsoleSettings) (x : Signed) : Turn → Option Signed
  | .step now => (x.run.step settings now).map fun (run, _) => x.goOn run
  | .hear now news =>
    (x.run.hear now news).map fun (run, deeds) =>
      { x with run, letters := x.letters ++ (saying deeds).map (⟨·, some x.sources⟩) }
  | .cancel =>
    some { x with
      run := { x.run with inbox := x.run.inbox ++ [.cancel] }
      letters := x.letters ++ [⟨.cancel, none⟩] }
  | .retire => some { x with run := { x.run with retired := true } }

/-- **Turns one after another.** -/
def turns (settings : ConsoleSettings) (x : Signed) (ts : List Turn) : Option Signed :=
  ts.foldlM (turn settings) x

/-! ## 2. Courses -/

variable {settings : ConsoleSettings} {x x' : Signed}

/-- **What every turn preserves, a course preserves.** -/
theorem keeps {P : Signed → Prop}
    (hturn : ∀ x x' t, P x → x.turn settings t = some x' → P x') {ts : List Turn} (hx : P x)
    (h : x.turns settings ts = some x') : P x' := by
  induction ts generalizing x with
  | nil =>
    cases h
    exact hx
  | cons t ts ih =>
    simp only [turns, List.foldlM_cons, Option.bind_eq_bind, Option.bind_eq_some_iff] at h
    obtain ⟨y, hy, hrest⟩ := h
    exact ih (hturn x y t hx hy) hrest

/-- One turn more. -/
theorem turns_concat {ts : List Turn} {t : Turn} (h : x.turns settings ts = some x') :
    x.turns settings (ts ++ [t]) = x'.turn settings t := by
  simp only [turns] at h
  simp [turns, List.foldlM_append, h]

/-- **A turn as it is taken**: the run takes one of its steps, its source takes one, or
somebody else interferes. -/
theorem turn_cases {t : Turn} (h : x.turn settings t = some x') :
    (∃ now run acts, t = .step now ∧ Step settings now x.run run acts ∧ x' = x.goOn run) ∨
    (∃ now news s s' cancelled deeds, t = .hear now news ∧
      x.run.source = some (s, cancelled) ∧
      s.poll now (cancelled || x.run.retired) news = some (s', deeds) ∧
      x' = { x with
        run := { x.run with source := some (s', cancelled), inbox := x.run.inbox ++ saying deeds }
        letters := x.letters ++ (saying deeds).map (⟨·, some x.sources⟩) }) ∨
    (t = .cancel ∧ x' = { x with
      run := { x.run with inbox := x.run.inbox ++ [.cancel] }
      letters := x.letters ++ [⟨.cancel, none⟩] }) ∨
    (t = .retire ∧ x' = { x with run := { x.run with retired := true } }) := by
  cases t with
  | step now =>
    obtain ⟨⟨run, acts⟩, hstep, rfl⟩ := Option.map_eq_some_iff.mp h
    exact .inl ⟨now, run, acts, rfl, step_cases hstep, rfl⟩
  | hear now news =>
    obtain ⟨⟨run, deeds⟩, hhear, rfl⟩ := Option.map_eq_some_iff.mp h
    obtain ⟨s, s', cancelled, hs, hpoll, rfl⟩ := hear_cases hhear
    exact .inr (.inl ⟨now, news, s, s', cancelled, deeds, rfl, hs, hpoll, rfl⟩)
  | cancel =>
    cases h
    exact .inr (.inr (.inl ⟨rfl, rfl⟩))
  | retire =>
    cases h
    exact .inr (.inr (.inr ⟨rfl, rfl⟩))

end Signed

/-! ## 3. Runs that occur -/

/-- **A run that some course leads to.** -/
def Reached (settings : ConsoleSettings) (r : Run) : Prop :=
  ∃ start ts x, (Signed.opening start).turns settings ts = some x ∧ x.run = r

namespace Reached

variable {settings : ConsoleSettings} {r r' : Run}

theorem start (settings : ConsoleSettings) (start : Tracker.Start) :
    Reached settings (Run.start start.tracker).1 :=
  ⟨start, [], _, rfl, rfl⟩

/-- One turn more. -/
theorem turn (h : Reached settings r) (t : Turn)
    (ht : ∀ x : Signed, x.run = r → ∃ x', x.turn settings t = some x' ∧ x'.run = r') :
    Reached settings r' := by
  obtain ⟨start, ts, x, hx, hr⟩ := h
  obtain ⟨x', hx', hr'⟩ := ht x hr
  exact ⟨start, ts ++ [t], x', (Signed.turns_concat hx).trans hx', hr'⟩

theorem step (h : Reached settings r) {now : Nat} {acts : List Act}
    (hs : r.step settings now = some (r', acts)) : Reached settings r' := by
  refine h.turn (.step now) fun x hx => ⟨x.goOn r', ?_, rfl⟩
  simp [Signed.turn, hx, hs]

theorem hear (h : Reached settings r) {now : Nat} {news : Option News} {deeds : List Deed}
    (hs : r.hear now news = some (r', deeds)) : Reached settings r' := by
  refine h.turn (.hear now news) fun x hx => ?_
  simp [Signed.turn, hx, hs]

theorem cancel (h : Reached settings r) :
    Reached settings { r with inbox := r.inbox ++ [.cancel] } := by
  refine h.turn .cancel fun x hx => ⟨_, rfl, ?_⟩
  rw [← hx]

theorem retire (h : Reached settings r) : Reached settings { r with retired := true } := by
  refine h.turn .retire fun x hx => ⟨_, rfl, ?_⟩
  rw [← hx]

end Reached

end TaskWatch.Run
