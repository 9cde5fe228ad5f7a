/-
# What a watch reports and finds

A whole watch that nobody cancels is judged here by its trace alone: by its reports, by its
checks, and by how it ends.  A check belongs to the phase that was reported last before it
began; `Trace.checks` reads that off the deeds and adds what is heard of the check.

* The phase changes once at most, and when it does is told by the checks: at the first
  **occasion**, which is an answer in the first phase that the server is down, or the
  beginning of a check after the window of that phase.
* **`run_faithful`** says all of it: what is reported, when the phase changes, how the watch
  ends, and that it does not idle.

Each law holds from any round on, by induction on the rounds: a law of the switch for
the rounds of the first phase, for in the second one no occasion counts any more.
-/
import TaskWatch.Proofs.Source.Rounds
import Mathlib.Order.Bounds.Basic

namespace TaskWatch

namespace Probe

/-! ## 1. Reading a trace -/

/-- **A check**: the phase it was made in, when it began, and what is heard of it. -/
structure Check where
  phase : ProbePhase
  begun : Nat
  heard? : Option (Nat × Bool)
  deriving Repr, DecidableEq

/-- The checks among some deeds.  The phase before them is given, and how many checks have
begun by then. -/
def checksOf (s : ProbeSettings) (answers : Answers) :
    ProbePhase → Nat → List (Nat × Deed) → List Check
  | _, _, [] => []
  | _, n, (_, .report r) :: deeds => checksOf s answers r.phase n deeds
  | phase, n, (now, .check) :: deeds =>
    { phase, begun := now, heard? := s.heard? now (answers n) } ::
      checksOf s answers phase (n + 1) deeds

theorem checksOf_after_check {s : ProbeSettings} {answers : Answers} {phase : ProbePhase}
    {n now : Nat} {t : Trace} :
    checksOf s answers phase n (t.after now [.check]).deeds =
      { phase, begun := now, heard? := s.heard? now (answers n) } ::
        checksOf s answers phase (n + 1) t.deeds := rfl

theorem checksOf_after_noted {s : ProbeSettings} {answers : Answers} {phase phase' : ProbePhase}
    {n now : Nat} {t : Trace} :
    checksOf s answers phase n (t.after now [noted s phase' now]).deeds =
      checksOf s answers phase' n t.deeds := rfl

namespace Trace

/-- **The checks of a watch.** -/
def checks (s : ProbeSettings) (answers : Answers) (t : Trace) : List Check :=
  checksOf s answers .awaitingDown 0 t.deeds

/-- **The reports of a watch**, with their moments. -/
def reports (t : Trace) : List (Nat × ProbeReport) :=
  t.deeds.filterMap fun
    | (now, .report r) => some (now, r)
    | (_, .check) => none

/-- **When the second phase begins**, if it does. -/
def switch? (t : Trace) : Option Nat :=
  (t.reports.find? fun x => x.2.phase = .awaitingUp).map Prod.fst

variable {now : Nat} {t : Trace}

@[simp] theorem outcome_after (deeds : List Deed) : (t.after now deeds).outcome = t.outcome := rfl

@[simp] theorem endedAt_after (deeds : List Deed) : (t.after now deeds).endedAt = t.endedAt := rfl

end Trace

/-- **The moments at which the first phase may end.** -/
def occasions (s : ProbeSettings) (checks : List Check) : Set Nat :=
  {m | ∃ c ∈ checks, (c.phase = .awaitingDown ∧ c.heard? = some (m, false)) ∨
    (s.downWindow ≤ c.begun ∧ c.begun = m)}

theorem mem_occasions_cons {s : ProbeSettings} {c : Check} {checks : List Check} {m : Nat} :
    m ∈ occasions s (c :: checks) ↔
      (c.phase = .awaitingDown ∧ c.heard? = some (m, false)) ∨
        (s.downWindow ≤ c.begun ∧ c.begun = m) ∨ m ∈ occasions s checks := by
  simp [occasions, or_assoc]

/-- There is one least moment at most. -/
theorem eq_some_iff_isLeast {moments : Set Nat} {first : Nat} (h : IsLeast moments first)
    (m : Nat) : some first = some m ↔ IsLeast moments m :=
  ⟨fun heq => Option.some.inj heq ▸ h, fun hm => congrArg some (h.unique hm)⟩

/-- **What follows a check.**  `endedAt` is the end of the watch, and `later` are the checks
that come after this one. -/
inductive Followed (s : ProbeSettings) (endedAt : Nat) (c : Check) : List Check → Prop
  /-- It is waited for until the budget is used up. -/
  | unheard (h : c.heard? = none) (he : endedAt = s.budget) : Followed s endedAt c []
  /-- The server is back. -/
  | ready (hp : c.phase = .awaitingUp) (h : c.heard? = some (endedAt, true)) :
      Followed s endedAt c []
  /-- The next round comes too late. -/
  | spent {m : Nat} {up : Bool} (h : c.heard? = some (m, up))
      (hup : c.phase = .awaitingUp → up = false) (hb : s.budget ≤ endedAt) (hm : m ≤ endedAt)
      (hwithin : endedAt ≤ m + s.interval (c.phase.after up)) : Followed s endedAt c []
  /-- The next check comes within a period. -/
  | again {m : Nat} {up : Bool} {c' : Check} {later : List Check} (h : c.heard? = some (m, up))
      (hup : c.phase = .awaitingUp → up = false) (hm : m ≤ c'.begun)
      (hwithin : c'.begun ≤ m + s.interval (c.phase.after up)) :
      Followed s endedAt c (c' :: later)

/-! ## 2. Laws of rounds -/

namespace Rounds

variable {s : ProbeSettings} {answers : Answers} {phase : ProbePhase} {n now : Nat} {t : Trace}

/-- **Every check begins within the budget**, and what is heard of it is heard later. -/
theorem check_mem (h : Rounds s answers phase n now t) :
    ∀ c ∈ checksOf s answers phase n t.deeds, now ≤ c.begun ∧ c.begun < s.budget ∧
      ∀ m up, c.heard? = some (m, up) → c.begun ≤ m := by
  induction h with
  | spent => simp [checksOf]
  | switched _ _ _ ih => exact ih
  | unheard hb _ hr => simp [Trace.after, checksOf, hb, hr]
  | ready hb hr =>
    have hm := (ProbeSettings.le_of_heard? hr).1
    simp [Trace.after, checksOf, hb, hr, hm]
  | goesOn hb _ hr _ hnext _ _ ih =>
    have hm := (ProbeSettings.le_of_heard? hr).1
    intro c hc
    rcases List.mem_cons.mp hc with rfl | hc
    · refine ⟨Nat.le_refl _, hb, fun m up heq => ?_⟩
      exact (ProbeSettings.le_of_heard? heq).1
    · obtain ⟨hle, hrest⟩ := ih c hc
      exact ⟨by omega, hrest⟩

/-- **Every report is made within the budget**, and says the moment. -/
theorem report_mem (h : Rounds s answers phase n now t) :
    ∀ x ∈ t.reports, now ≤ x.1 ∧ x.1 ≤ s.budget ∧ x.2 = s.report x.2.phase (.ofMillis x.1) ∧
      (phase = .awaitingUp → x.2.phase = .awaitingUp) := by
  induction h with
  | spent | unheard | ready => simp [Trace.reports, Trace.after]
  | switched hb _ _ ih =>
    intro x hx
    rcases List.mem_cons.mp hx with rfl | hx
    · exact ⟨Nat.le_refl _, hb.le, rfl, fun _ => rfl⟩
    · obtain ⟨hle, hbudget, heq, hphase⟩ := ih x hx
      exact ⟨hle, hbudget, heq, fun _ => hphase rfl⟩
  | goesOn hb _ hr hup hnext _ _ ih =>
    obtain ⟨hm, hbudget⟩ := ProbeSettings.le_of_heard? hr
    intro x hx
    rcases List.mem_cons.mp hx with rfl | hx
    · exact ⟨hm, hbudget, rfl, fun hphase => by rw [hphase]; rfl⟩
    · obtain ⟨hle, hbudget, heq, hphase⟩ := ih x hx
      exact ⟨by omega, hbudget, heq, fun hp => hphase (by rw [hp]; rfl)⟩

/-- **Reports come in order**, and the second phase is not left again. -/
theorem reports_pairwise (h : Rounds s answers phase n now t) :
    t.reports.Pairwise fun x y =>
      x.1 ≤ y.1 ∧ (x.2.phase = .awaitingUp → y.2.phase = .awaitingUp) := by
  induction h with
  | spent | unheard | ready => simp [Trace.reports, Trace.after]
  | switched _ _ h ih =>
    refine List.Pairwise.cons (fun y hy => ?_) ih
    obtain ⟨hle, -, -, hphase⟩ := h.report_mem y hy
    exact ⟨hle, fun _ => hphase rfl⟩
  | goesOn _ _ _ _ hnext _ h ih =>
    refine List.Pairwise.cons (fun y hy => ?_) ih
    obtain ⟨hle, -, -, hphase⟩ := h.report_mem y hy
    exact ⟨by omega, hphase⟩

/-- From any round on there is an occasion no earlier than that round starts. -/
theorem le_of_mem_occasions (h : Rounds s answers phase n now t) {m : Nat}
    (hm : m ∈ occasions s (checksOf s answers phase n t.deeds)) : now ≤ m := by
  obtain ⟨c, hc, ⟨-, heard⟩ | ⟨-, rfl⟩⟩ := hm
  · obtain ⟨hle, -, hheard⟩ := h.check_mem c hc
    exact hle.trans (hheard m false heard)
  · exact (h.check_mem c hc).1

/-- **A round that is not the last begins with a check.** -/
theorem head_check (h : Rounds s answers phase n now t) :
    (s.budget ≤ now ∧ t.endedAt = now ∧ checksOf s answers phase n t.deeds = []) ∨
      ∃ c rest, checksOf s answers phase n t.deeds = c :: rest ∧ c.begun = now := by
  induction h with
  | spent hb => exact .inl ⟨hb, rfl, rfl⟩
  | switched _ _ _ ih => exact ih
  | unheard | ready | goesOn => exact .inr ⟨_, _, rfl, rfl⟩

/-- **The phase changes at the first occasion**, and not without one. -/
theorem switch_isLeast (h : Rounds s answers phase n now t) (hphase : phase = .awaitingDown)
    (m : Nat) : t.switch? = some m ↔
      IsLeast (occasions s (checksOf s answers phase n t.deeds)) m := by
  induction h with
  | spent => exact ⟨nofun, fun ⟨⟨_, hc, _⟩, _⟩ => nomatch hc⟩
  | @switched n now t hb hw h =>
    have hleast : IsLeast (occasions s (checksOf s answers .awaitingUp n t.deeds)) now := by
      refine ⟨?_, fun x hx => h.le_of_mem_occasions hx⟩
      rcases h.head_check with ⟨hb', -⟩ | ⟨c, rest, heq, hbegun⟩
      · omega
      · exact ⟨c, by simp [heq], .inr ⟨by rw [hbegun]; exact hw, hbegun⟩⟩
    exact eq_some_iff_isLeast hleast m
  | @unheard phase n now hb hw hr =>
    refine ⟨nofun, fun ⟨hm, _⟩ => ?_⟩
    have hearly := hw hphase
    rcases mem_occasions_cons.mp hm with ⟨-, heard⟩ | ⟨hlate, -⟩ | ⟨_, hc, _⟩
    · cases hr.symm.trans heard
    · exact absurd hlate (Nat.not_le.mpr hearly)
    · cases hc
  | ready => cases hphase
  | @goesOn phase n now answered next up t hb hw hr hup hnext hwithin h ih =>
    subst hphase
    have hearly := hw rfl
    cases up with
    | false =>
      -- the answer is an occasion, and all that follows comes later
      refine eq_some_iff_isLeast ⟨mem_occasions_cons.mpr (.inl ⟨rfl, hr⟩), fun x hx => ?_⟩ m
      rcases mem_occasions_cons.mp hx with ⟨-, heard⟩ | ⟨hlate, -⟩ | hx
      · exact (Prod.mk.inj (Option.some.inj (hr.symm.trans heard))).1.le
      · exact absurd hlate (Nat.not_le.mpr hearly)
      · exact hnext.trans (h.le_of_mem_occasions hx)
    | true =>
      -- the check is no occasion, so those of the other checks are left
      have hsame : occasions s (checksOf s answers .awaitingDown n
          ((t.after answered [noted s .awaitingDown answered]).after now [.check]).deeds) =
          occasions s (checksOf s answers .awaitingDown (n + 1) t.deeds) := by
        refine Set.ext fun x => mem_occasions_cons.trans ⟨?_, fun hx => .inr (.inr hx)⟩
        rintro (⟨-, heard⟩ | ⟨hlate, -⟩ | hx)
        · cases (Prod.mk.inj (Option.some.inj (hr.symm.trans heard))).2
        · exact absurd hlate (Nat.not_le.mpr hearly)
        · exact hx
      exact (ih rfl).trans (iff_of_eq (congrArg (IsLeast · m) hsame.symm))

/-- **The watch ends well exactly when a check of the second phase is answered so**, with the
moment of that answer. -/
theorem ready_iff (h : Rounds s answers phase n now t) (m : Nat) :
    t.outcome = .ready m ↔ ∃ c ∈ checksOf s answers phase n t.deeds,
      c.phase = .awaitingUp ∧ c.heard? = some (m, true) := by
  induction h with
  | spent => simp [checksOf]
  | switched _ _ _ ih => exact ih
  | unheard _ _ hr => simp [Trace.after, checksOf, hr]
  | ready _ hr => simp [Trace.after, checksOf, hr, eq_comm]
  | goesOn _ _ hr hup _ _ _ ih =>
    rw [Trace.outcome_after, Trace.outcome_after, ih]
    constructor
    · rintro ⟨c, hc, hanswer⟩
      exact ⟨c, List.mem_cons_of_mem _ hc, hanswer⟩
    · rintro ⟨c, hc, hphase, heard⟩
      rcases List.mem_cons.mp hc with rfl | hc
      · -- the answer of this check has not ended the watch
        have htrue := (Prod.mk.inj (Option.some.inj (hr.symm.trans heard))).2
        rw [hup hphase] at htrue
        cases htrue
      · exact ⟨c, hc, hphase, heard⟩

/-- **Otherwise the budget is used up.** -/
theorem ready_or_timeout (h : Rounds s answers phase n now t) :
    (∃ m, t.outcome = .ready m) ∨ ∃ m, t.outcome = .timeout m ∧ s.budget ≤ m := by
  induction h with
  | spent hb => exact .inr ⟨_, rfl, hb⟩
  | unheard => exact .inr ⟨_, rfl, Nat.le_refl _⟩
  | ready => exact .inl ⟨_, rfl⟩
  | switched _ _ _ ih | goesOn _ _ _ _ _ _ _ ih => exact ih

/-- **Every check is followed up.** -/
theorem followed (h : Rounds s answers phase n now t) {c : Check} {later : List Check}
    (hc : c :: later <:+ checksOf s answers phase n t.deeds) : Followed s t.endedAt c later := by
  induction h with
  | spent => simp [checksOf] at hc
  | switched _ _ _ ih => exact ih hc
  | unheard _ _ hr =>
    rcases List.suffix_cons_iff.mp hc with heq | hc
    · cases heq
      exact .unheard hr rfl
    · cases List.suffix_nil.mp hc
  | ready _ hr =>
    rcases List.suffix_cons_iff.mp hc with heq | hc
    · cases heq
      exact .ready rfl hr
    · cases List.suffix_nil.mp hc
  | goesOn _ _ hr hup hnext hwithin h ih =>
    rw [checksOf_after_check, checksOf_after_noted] at hc
    rcases List.suffix_cons_iff.mp hc with heq | hc
    · obtain ⟨rfl, rfl⟩ := List.cons.inj heq
      rcases h.head_check with ⟨hb, hended, hnone⟩ | ⟨c, rest, hcons, hbegun⟩
      · rw [hnone]
        refine .spent hr hup ?_ ?_ ?_ <;> simpa [hended]
      · rw [hcons]
        exact .again hr hup (hbegun.symm ▸ hnext) (hbegun.symm ▸ hwithin)
    · exact ih hc

end Rounds

/-! ## 3. A whole watch -/

/-- **A trace tells what is true of the server.** -/
structure Faithful (s : ProbeSettings) (answers : Answers) (t : Trace) : Prop where
  /-- The first report is of the first phase, at once. -/
  first : ∃ r rest, t.reports = (0, r) :: rest ∧ r.phase = .awaitingDown ∧ r.elapsedSeconds = 0
  /-- Every report says the moment, which is within the budget. -/
  moment : ∀ x ∈ t.reports, x.2.elapsedSeconds = x.1 / 1000 ∧ x.1 ≤ s.budget
  /-- Reports come in order, and the second phase is not left again. -/
  ordered : t.reports.Pairwise fun x y =>
    x.2.elapsedSeconds ≤ y.2.elapsedSeconds ∧ (x.2.phase = .awaitingUp → y.2.phase = .awaitingUp)
  /-- The phase changes at the first occasion, and not without one. -/
  switch : ∀ m, t.switch? = some m ↔ IsLeast (occasions s (t.checks s answers)) m
  /-- The watch ends well exactly when a check after that is answered so. -/
  ready : ∀ m, t.outcome = .ready m ↔
    ∃ c ∈ t.checks s answers, c.phase = .awaitingUp ∧ c.heard? = some (m, true)
  /-- Such an answer is the first of its kind: the watch ends with it. -/
  last : ∀ c later m, c :: later <:+ t.checks s answers →
    c.phase = .awaitingUp → c.heard? = some (m, true) → later = [] ∧ t.endedAt = m
  /-- Otherwise the budget is used up. -/
  timeout : (∀ m, t.outcome ≠ .ready m) → ∃ m, t.outcome = .timeout m ∧ s.budget ≤ m
  /-- Every check begins within the budget. -/
  begun : ∀ c ∈ t.checks s answers, c.begun < s.budget
  /-- The first check begins at once. -/
  prompt : 0 < s.budget → ∃ c later, t.checks s answers = c :: later ∧ c.begun = 0
  /-- The others follow within a period of an answer. -/
  paced : ∀ c later, c :: later <:+ t.checks s answers → Followed s t.endedAt c later

/-- **A watch that nobody cancels is faithful**, whatever it is told and however late. -/
theorem run_faithful (s : ProbeSettings) (answers : Answers) (hdown : 0 < s.downInterval)
    (hup : 0 < s.upInterval) : Faithful s answers (run s answers none) := by
  have hi : ∀ phase, 0 < s.interval phase := by
    rintro (- | -)
    · exact hdown
    · exact hup
  obtain ⟨t, h, heq⟩ : ∃ t, Rounds s answers .awaitingDown 0 0 t ∧
      run s answers none = t.after 0 [noted s .awaitingDown 0] := rounds_run hi
  rw [heq]
  have hmoment : ∀ x ∈ (t.after 0 [noted s .awaitingDown 0]).reports,
      x.2.elapsedSeconds = x.1 / 1000 ∧ x.1 ≤ s.budget := by
    intro x hx
    rcases List.mem_cons.mp hx with rfl | hx
    · exact ⟨Duration.seconds_ofMillis 0, Nat.zero_le _⟩
    · obtain ⟨-, hbudget, hreport, -⟩ := h.report_mem x hx
      refine ⟨?_, hbudget⟩
      rw [hreport]
      exact Duration.seconds_ofMillis x.1
  have hordered : (t.after 0 [noted s .awaitingDown 0]).reports.Pairwise fun x y =>
      x.1 ≤ y.1 ∧ (x.2.phase = .awaitingUp → y.2.phase = .awaitingUp) :=
    .cons (fun _ _ => ⟨Nat.zero_le _, nofun⟩) h.reports_pairwise
  refine
    { first := ⟨_, _, rfl, rfl, rfl⟩
      moment := hmoment
      ordered := ?_
      switch := h.switch_isLeast rfl
      ready := h.ready_iff
      last := ?_
      timeout := fun hready => h.ready_or_timeout.resolve_left fun ⟨m, hm⟩ => hready m hm
      begun := fun c hc => (h.check_mem c hc).2.1
      prompt := fun hb => ?_
      paced := fun c later hc => h.followed hc }
  · refine hordered.imp_of_mem fun hx hy hxy => ⟨?_, hxy.2⟩
    rw [(hmoment _ hx).1, (hmoment _ hy).1]
    exact Nat.div_le_div_right hxy.1
  · intro c later m hc hphase hheard
    cases h.followed hc with
    | ready _ heq => exact ⟨rfl, (Prod.mk.inj (Option.some.inj (heq.symm.trans hheard))).1⟩
    | unheard heq => cases heq.symm.trans hheard
    | spent heq hfalse | again heq hfalse =>
      have htrue := (Prod.mk.inj (Option.some.inj (heq.symm.trans hheard))).2
      cases htrue.symm.trans (hfalse hphase)
  · rcases h.head_check with ⟨hb', -⟩ | hcheck
    · omega
    · exact hcheck

/-- The server is up when it is checked for the first time, is seen down by the check after
that, 13 ms after the start, and is back 10 ms later. -/
theorem run_faithful_of_restart :
    let s : ProbeSettings :=
      { budget := 100, downWindow := 40, downInterval := 10, upInterval := 7 }
    let answers : Answers := fun n => if n = 0 then some (4, true) else some (3, decide (2 ≤ n))
    let t := run s answers none
    t.outcome = .ready 23 ∧ t.checks s answers = [⟨.awaitingDown, 0, some (4, true)⟩,
        ⟨.awaitingDown, 10, some (13, false)⟩, ⟨.awaitingUp, 20, some (23, true)⟩] ∧
      t.switch? = some 13 ∧ IsLeast (occasions s (t.checks s answers)) 13 := by
  intro s answers t
  have h : Faithful s answers t := run_faithful s answers (by decide) (by decide)
  exact ⟨by decide, by decide, by decide, (h.switch 13).mp (by decide)⟩

end Probe

end TaskWatch
