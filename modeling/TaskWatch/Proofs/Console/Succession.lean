/-
# One task after another

Calls overlap in any way, and each run goes on by itself; still the tasks of a console come
one after another.

* A run that has ended stands `Still`: neither it nor its source takes a step any more
  (`Still.silent`).
* The picture is that of the last run until there is another one, or a call wipes it
  (`Shows.step`).

**`Succession`** is what that means to the clients, and **`succession_of_reachable`** says
that it is so in every console that can come about.
-/
import TaskWatch.Proofs.Console.Lock

namespace TaskWatch

/-- The action is a step of this run, or of its source. -/
def Action.moves (r : Nat) : Action → Bool
  | .run r' | .source r' _ => r' = r
  | .invoke _ | .call .. | .elapse _ => false

namespace Console

variable {settings : ConsoleSettings} {c c' : Console}

/-! ## 1. Runs that are over -/

/-- **A run that is over**, and its source too. -/
def Still (c : Console) (r : Nat) : Prop :=
  ∃ run, c.runs[r]? = some run ∧ run.stage = .ended ∧ run.source = none

/-- **From here on a run does nothing**: it takes no step, so it shows no picture, and its
source asks the server nothing. -/
def Silent (c : Console) (r : Nat) : Prop :=
  ∀ as c' notes, c.steps as = some (c', notes) →
    (∀ a ∈ as, a.moves r = false) ∧ ∀ q, Note.ask r q ∉ notes

/-- **When a call is ready, all runs are over.** -/
theorem still_of_ready (hc : c.Guarded settings) {i : Nat} {plan : Plan} (h : c.Ready i plan)
    {r : Nat} (hr : r < c.runs.length) : c.Still r := by
  have hrun := List.getElem?_eq_getElem hr
  have hended := hc.ended_of_ready h hrun
  exact ⟨_, hrun, hended, (hc.reached r _ hrun).source_of_ended hended⟩

/-- A run that is over stays so. -/
theorem Still.step {r : Nat} {a : Action} {notes : List Note} (hr : c.Still r)
    (h : Step c a c' notes) : c'.Still r := by
  obtain ⟨run, hrun, hended, hsource⟩ := hr
  obtain ⟨run', hrun', hfate⟩ := h.fate hrun
  refine ⟨run', hrun', ?_⟩
  cases hfate with
  | same => exact ⟨hended, hsource⟩
  | steps ha hs => simp [Run.step, hended] at hs
  | hears ha hs => simp [Run.hear, hsource] at hs
  | told plan => simpa using ⟨hended, hsource⟩

/-- A run that is over does not move, and its source is gone. -/
theorem Still.not_moves {r : Nat} {a : Action} {notes : List Note} (hr : c.Still r)
    (h : Step c a c' notes) : a.moves r = false ∧ ∀ q, Note.ask r q ∉ notes := by
  obtain ⟨run, hrun, hended, hsource⟩ := hr
  cases h with
  | runs h hs =>
    rename_i r' _ _ _
    have hne : r' ≠ r := by
      rintro rfl
      cases hrun.symm.trans h
      simp [Run.step, hended] at hs
    exact ⟨by simp [Action.moves, hne], ask_not_mem_acts _ _ _ r⟩
  | hears h hs =>
    rename_i r' _ _ _ _
    have hne : r' ≠ r := by
      rintro rfl
      cases hrun.symm.trans h
      simp [Run.hear, hsource] at hs
    refine ⟨by simp [Action.moves, hne], fun q hq => ?_⟩
    obtain ⟨deed, -, hdeed⟩ := List.mem_filterMap.mp hq
    cases deed with
    | ask q' =>
      cases hdeed
      exact hne rfl
    | await | send => cases hdeed
  | asks h hn => exact ⟨rfl, hn r⟩
  | _ => exact ⟨rfl, by simp⟩

/-- **A run that is over is silent.** -/
theorem Still.silent {r : Nat} (hr : c.Still r) : c.Silent r := by
  intro as
  induction as generalizing c with
  | nil =>
    intro c' notes h
    cases h
    simp
  | cons a as ih =>
    intro c' notes h
    obtain ⟨c₁, first, rest, hfirst, hrest, rfl⟩ := steps_cons h
    obtain ⟨ha, hask⟩ := hr.not_moves hfirst
    obtain ⟨has, hasks⟩ := ih (hr.step hfirst) c' rest hrest
    exact ⟨List.forall_mem_cons.mpr ⟨ha, has⟩, fun q => by simp [hask q, hasks q]⟩

/-! ## 2. The picture -/

/-- **The picture is that of a run**, and the run is that of a task. -/
def Shows (c : Console) (r : Nat) (taskId : String) : Prop :=
  ∃ run, c.runs[r]? = some run ∧ c.view = run.tracker.view ∧ run.tracker.task.id = taskId

/-- A call has ended that wiped the picture. -/
def Cleared (c : Console) (i : Nat) : Prop :=
  c.stage? i = some (.done .cleared)

/-- **The last run is shown** until there is another one, or the picture is wiped. -/
theorem Shows.step (hc : c.Guarded settings) {r : Nat} {taskId : String} (hs : c.Shows r taskId)
    (hlast : r + 1 = c.runs.length) {a : Action} {notes : List Note} (h : Step c a c' notes) :
    c.runs.length < c'.runs.length ∨ (∃ i, c'.Cleared i ∧ ¬ c.Cleared i) ∨ c'.Shows r taskId := by
  obtain ⟨run, hrun, hview, hid⟩ := hs
  obtain ⟨run', hrun', hfate⟩ := h.fate hrun
  have hshows : c'.view = c.view → run'.tracker = run.tracker → c'.Shows r taskId :=
    fun hv ht => ⟨run', hrun', by rw [hv, ht]; exact hview, by rw [ht]; exact hid⟩
  cases h with
  | tracks h hr hid => exact .inl (by simp [track, publish, finish, setStage])
  | wipes h =>
    obtain ⟨old, hold, hin⟩ := h.stage?
    refine .inr (.inl ⟨_, (stage?_finish hold _ _).trans (if_pos rfl), fun hcleared => ?_⟩)
    cases hold.symm.trans hcleared
    cases hin
  | runs h hs =>
    rename_i r' run₀ run₁ as
    have hne : run₀.stage ≠ .ended := by
      intro he
      simp [Run.step, he] at hs
    have hlast' := hc.last r' (hc.held r' run₀ h hne)
    obtain rfl : r' = r := by omega
    cases hrun.symm.trans h
    have hstep := Run.step_cases hs
    refine .inr (.inr ⟨run₁, by simp [← hlast], ?_, ?_⟩)
    · rcases hstep.shows with ⟨rfl, -, -⟩ | ⟨htracker, hno⟩
      · rfl
      · rw [acts_view hno, htracker]
        exact hview
    · exact ((hc.reached r' run hrun).id_step hstep).trans hid
  | hears | tells | invokes | elapses | asks | replies | enqueues | attends | refuses | finishes =>
    exact .inr (.inr (hshows rfl (hfate.tracker_eq (by simp))))

/-- What is shown goes on to be shown, as far as nothing new is tracked or wiped. -/
theorem Shows.steps (hc : c.Guarded settings) {r : Nat} {taskId : String} (hs : c.Shows r taskId)
    (hlast : r + 1 = c.runs.length) {as : List Action} {notes : List Note}
    (h : c.steps as = some (c', notes)) (hlength : c'.runs.length = c.runs.length)
    (hcleared : ∀ i, c'.Cleared i → c.Cleared i) : c'.Shows r taskId := by
  induction as generalizing c notes with
  | nil =>
    cases h
    exact hs
  | cons a as ih =>
    obtain ⟨c₁, first, rest, hfirst, hrest, -⟩ := steps_cons h
    have hle := hfirst.length_runs_le
    have hle' := length_runs_steps hrest
    rcases hs.step hc hlast hfirst with hlt | ⟨i, hi, hnot⟩ | hs₁
    · omega
    · exact absurd (hcleared i (stage?_done_steps hrest hi)) hnot
    · refine ih (hfirst.guarded hc) hs₁ (by omega) hrest (by omega) fun i hi => ?_
      exact hfirst.stage?_done (hcleared i hi)

/-! ## 3. Calls -/

/-- **A new run begins** when a call is ready. -/
theorem Step.tracks_of_length_lt {a : Action} {notes : List Note} (h : Step c a c' notes)
    (hlt : c.runs.length < c'.runs.length) :
    ∃ i plan reply, ∃ start : Tracker.Start, c.Ready i plan ∧
      c' = (c.track start.tracker).finish i reply ∧
      ∀ taskId, reply = .started taskId → start.tracker.task.id = taskId := by
  cases h with
  | tracks h hr hid => exact ⟨_, _, _, _, h, rfl, hid⟩
  | runs | hears => simp at hlt
  | tells => simp [setStage] at hlt
  | _ => exact absurd hlt (Nat.lt_irrefl _)

/-- **A call that waits for a run** goes on to wait, or the run is over. -/
theorem Step.joining (hc : c.Guarded settings) {a : Action} {notes : List Note}
    (h : Step c a c' notes) {i r : Nat} {plan : Plan}
    (hi : c.stage? i = some (.joining r plan)) :
    c'.stage? i = some (.joining r plan) ∨ c'.Still r := by
  have hlt : r < c.runs.length := by
    have hlast := hc.last r (.inr ⟨i, plan, hi⟩)
    omega
  have hready : ∀ {j plan'}, c.Ready j plan' → c'.Still r :=
    fun hj => (still_of_ready hc hj hlt).step h
  cases a with
  | call j news =>
    obtain ⟨old, stage, -, -, hstage⟩ := h.moves
    rw [hstage]
    split
    · rename_i hji
      subst hji
      refine .inr ?_
      cases h with
      | tracks h | wipes h | finishes h => exact hready h
      | asks h | attends h | refuses h | tells h =>
        rw [hi] at h
        cases h
      | replies h ho | enqueues h ho =>
        cases hi.symm.trans h
        cases ho
    · exact .inl hi
  | invoke op =>
    cases h
    exact .inl ((stage?_invoke c op (by simp) i).mpr hi)
  | run r' =>
    cases h
    exact .inl ((acts_stage? _ _ _ _).trans hi)
  | source r' news | elapse ms =>
    cases h
    exact .inl hi

/-- **A call that is done waits for nothing**: the run that it has waited for is over. -/
theorem still_of_joining (hc : c.Guarded settings) {i r : Nat} {plan : Plan} {reply : Reply}
    (hi : c.stage? i = some (.joining r plan)) {as : List Action} {notes : List Note}
    (h : c.steps as = some (c', notes)) (hdone : c'.stage? i = some (.done reply)) :
    c'.Still r := by
  have hwaits : c'.Guarded settings ∧ (c'.stage? i = some (.joining r plan) ∨ c'.Still r) := by
    refine steps_keeps (P := fun c => c.Guarded settings ∧
      (c.stage? i = some (.joining r plan) ∨ c.Still r)) ?_ ⟨hc, .inl hi⟩ h
    rintro c₁ a c₂ notes ⟨hc₁, hjoins | hstill⟩ hstep
    · exact ⟨hstep.guarded hc₁, hstep.joining hc₁ hjoins⟩
    · exact ⟨hstep.guarded hc₁, .inr (hstill.step hstep)⟩
  rcases hwaits.2 with hjoins | hstill
  · rw [hdone] at hjoins
    cases hjoins
  · exact hstill

/-- A call that replaces the earlier tasks was ready. -/
theorem Step.ready_of_replaces {i : Nat} {news : Option CallNews} {notes : List Note}
    {reply : Reply} (h : Step c (.call i news) c' notes)
    (hdone : c'.stage? i = some (.done reply)) (hr : reply.replaces) :
    ∃ plan, c.Ready i plan := by
  cases h with
  | tracks h | wipes h | finishes h => exact ⟨_, h⟩
  | asks h | attends h | tells h =>
    have heq := (stage?_setStage_self h _).symm.trans hdone
    cases heq
  | enqueues h ho =>
    have heq := ((stage?_enqueue h _ i).trans (if_pos rfl)).symm.trans hdone
    cases heq
  | refuses h hl =>
    have heq := ((stage?_finish h _ i).trans (if_pos rfl)).symm.trans hdone
    cases heq
    cases hr
  | replies h ho hnot =>
    have heq := (stage?_setStage_self h _).symm.trans hdone
    cases heq
    simp [hr] at hnot

/-! ## 4. Succession -/

/-- **One task after another.** -/
structure Succession (c : Console) : Prop where
  /-- When a task is tracked, every earlier run is over. -/
  begun : ∀ a c' notes, c.step a = some (c', notes) → c.runs.length < c'.runs.length →
    ∀ r < c.runs.length, c.Still r ∧ c'.Silent r
  /-- A call that retires a run, or cancels it, is done when that run is silent. -/
  released : ∀ i news c' notes r, c.step (.call i news) = some (c', notes) →
    r < c.runs.length → c'.runs[r]? ≠ c.runs[r]? →
    ∀ as c'' more reply, c'.steps as = some (c'', more) →
      c''.stage? i = some (.done reply) → c''.Still r ∧ c''.Silent r
  /-- A task that is tracked is shown until another one is tracked, or the picture wiped. -/
  shown : ∀ a c' notes, c.step a = some (c', notes) → c.runs.length < c'.runs.length →
    ∃ taskId, c'.Shows c.runs.length taskId ∧
      (∀ i id, c'.stage? i = some (.done (.started id)) → c.stage? i = c'.stage? i ∨ id = taskId) ∧
      ∀ as c'' more, c'.steps as = some (c'', more) → c''.runs.length = c'.runs.length →
        (∀ i, c''.Cleared i → c'.Cleared i) → c''.Shows c.runs.length taskId
  /-- When a call is done that put the earlier tasks away, they are silent. -/
  replaced : ∀ i news c' notes reply, c.step (.call i news) = some (c', notes) →
    c'.stage? i = some (.done reply) → reply.replaces →
    ∀ r < c.runs.length, c'.Silent r

/-- **So it is in every console that can come about.** -/
theorem succession_of_reachable {wall : WallClock} (h : Reachable settings wall c) :
    c.Succession := by
  have hc := guarded_of_reachable h
  constructor
  case begun =>
    intro a c' notes hstep hlt r hr
    obtain ⟨i, plan, -, -, hready, -, -⟩ := (step_cases hstep).tracks_of_length_lt hlt
    have hstill := still_of_ready hc hready hr
    exact ⟨hstill, (hstill.step (step_cases hstep)).silent⟩
  case released =>
    intro i news c' notes r hstep hr hne as c'' more reply has hdone
    obtain ⟨-, plan, hi⟩ := (step_cases hstep).told_of_changed hr hne
    have hstill := still_of_joining ((step_cases hstep).guarded hc) hi has hdone
    exact ⟨hstill, hstill.silent⟩
  case shown =>
    intro a c' notes hstep hlt
    have hc' := (step_cases hstep).guarded hc
    obtain ⟨i, plan, reply, start, hready, rfl, hid⟩ := (step_cases hstep).tracks_of_length_lt hlt
    obtain ⟨old, hold, -⟩ := hready.stage?
    have hstage := stage?_finish (c := c.track start.tracker) hold reply
    have hshows : ((c.track start.tracker).finish i reply).Shows c.runs.length
        start.tracker.task.id :=
      ⟨_, List.getElem?_concat_length, rfl, Tracker.begin_id _⟩
    refine ⟨start.tracker.task.id, hshows, fun j id hj => ?_, fun as c'' more has => ?_⟩
    · rw [hstage] at hj
      split at hj
      · cases hj
        exact .inr (hid id rfl).symm
      · rename_i hij
        refine .inl ?_
        rw [hstage, if_neg hij]
        rfl
    · exact hshows.steps hc' (by simp [track, publish, finish, setStage]) has
  case replaced =>
    intro i news c' notes reply hstep hdone hreplaces r hr
    obtain ⟨plan, hready⟩ := (step_cases hstep).ready_of_replaces hdone hreplaces
    exact ((still_of_ready hc hready hr).step (step_cases hstep)).silent

/-- A package is installed while the server restarts after another one: the first run has been
watching that restart, and does no more. -/
theorem succession_of_installs :
    let package : Package := ⟨"a.zip", []⟩
    let receipt : InstallReceipt := { needRestart := true, autoRestart := true }
    let actions : List Action :=
      [.invoke (.install package), .call 0 none, .call 0 (some (.installed (.ok receipt))),
        .call 0 none, .run 0, .run 0, .source 0 none,
        .invoke (.install package), .call 1 none, .call 1 (some (.installed (.ok receipt))),
        .call 1 none, .run 0, .run 0, .source 0 none, .run 0, .run 0]
    ∃ c notes c', (new {} ⟨"", "7"⟩).steps actions = some (c, notes) ∧
      c.step (.call 1 none) = some (c', []) ∧
      c'.stage? 1 = some (.done (.installed receipt)) ∧ c'.active = some 1 ∧ c'.Silent 0 := by
  intro package receipt actions
  have h : (new {} ⟨"", "7"⟩).steps actions = some (_, _) := rfl
  refine ⟨_, _, _, h, rfl, rfl, rfl, ?_⟩
  exact (succession_of_reachable ⟨actions, _, h⟩).replaced 1 none _ _ _ rfl rfl rfl 0 (by decide)

end Console

end TaskWatch
