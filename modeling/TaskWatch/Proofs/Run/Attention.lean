/-
# A run and its source

The tracker of a run, its queue, and its source go on by themselves, and the user and the
console interfere at any time.  Still they stay together: while a run waits, its source is
the one that the phase calls for, and the queue holds nothing of any other.

What carries this is where the run stands (`Situation`):

* While it listens, its source **attends** to it (`Attends`): it works for the phase of the
  tracker, it is not cancelled, and all that the queue holds is its own and a `Post` for that
  phase, so it has not said its last word, or the last word is there.
* While it carries out the effects of a signal, nobody is left to be heard (`Hushed`): the
  signal was the last word of the source.  Only the user interrupts a source, and then the
  task is settled and the run is about to end.
* Once the task is settled there is no source.

A retired run hears nobody any more, so nothing of this is asked of it; but a run that has
ended has no source in any case.

**`orderly_turns`**: so it is wherever the course of a run leads.  **`inOrder_turns`** says
what that comes to while a run waits.
-/
import TaskWatch.Proofs.Run.Course
import TaskWatch.Proofs.Tracker.Coherence

namespace TaskWatch.Run

open Tracker (Opens)

/-! ## 1. Where a run stands -/

/-- The run waits: for a signal, or for the moment of the refresh. -/
def waits (r : Run) : Bool :=
  match r.stage with
  | .listening | .lingering _ => true
  | _ => false

/-- **Nobody is left to be heard.** -/
inductive Hushed (r : Run) : Prop
  /-- The run listens to nobody any more. -/
  | retired (h : r.retired)
  /-- It is about to end. -/
  | quits {o : Outcome} (hp : r.tracker.phase = .settled o) (ho : o.triggersRefresh = false)
  /-- The source is over, and has been heard to its end. -/
  | relieved (hs : ∀ s cancelled, r.source = some (s, cancelled) → s.isOver)
      (hi : ∀ signal ∈ r.inbox, signal = .cancel)

namespace Signed

/-- **The source attends to the run.** -/
structure Attends (x : Signed) (s : Source) : Prop where
  source : x.run.source = some (s, false)
  phase : s.phase = x.run.tracker.phase
  taskId : ∀ id ∈ s.taskId?, id = x.run.tracker.task.id
  /-- All that the queue holds is for the phase, up to the last word. -/
  post : Post s.phase s.isOver x.run.inbox
  sender : ∀ l ∈ x.letters, l.signal ≠ .cancel → l.sender = some x.sources

/-- **Where a run stands.** -/
def Situation (x : Signed) : Prop :=
  match x.run.stage with
  | .listening | .executing [] none => x.run.retired ∨ ∃ s, x.Attends s
  | .executing (effect :: rest) outcome =>
    outcome = none ∧ Opens x.run.tracker.phase (effect :: rest) ∧ x.run.Hushed
  | .executing [] (some o) =>
    x.run.source = none ∧ x.run.tracker.phase = .settled o ∧ x.run.Hushed
  | .lingering _ =>
    ∃ o, x.run.source = none ∧ x.run.tracker.phase = .settled o ∧ x.run.Hushed ∧
      o.triggersRefresh
  | .leaving => x.run.retired
  | .ended => x.run.source = none

/-- **A run whose parts stay together.** -/
structure Orderly (x : Signed) : Prop where
  accord : x.run.tracker.Accord
  /-- The account is an account of the queue. -/
  letters : x.letters.map Letter.signal = x.run.inbox
  situation : x.Situation

end Signed

/-! ## 2. The source of a phase -/

/-- **The source that a phase begins with** works for it, and has just begun. -/
theorem exists_sourceOf?_opening (settings : ConsoleSettings) (taskId : String) {p : Phase}
    (h : p.isSettled = false) :
    ∃ s, sourceOf? settings taskId p.opening = some s ∧ s.phase = p ∧ s.isOver = false ∧
      ∀ id ∈ s.taskId?, id = taskId := by
  cases p with
  | streaming => exact ⟨_, rfl, rfl, rfl, by simp [Source.taskId?]⟩
  | reconciling => exact ⟨_, rfl, rfl, rfl, by simp [Source.taskId?]⟩
  | degraded => exact ⟨_, rfl, rfl, rfl, by simp [Source.taskId?]⟩
  | awaitingRestart => exact ⟨_, rfl, rfl, rfl, by simp [Source.taskId?]⟩
  | settled o => cases h

theorem sourceOf?_of_isAside (settings : ConsoleSettings) (taskId : String) {e : Effect}
    (h : e.isAside) : sourceOf? settings taskId e = none := by
  cases e with
  | closeStream | remoteCancel => rfl
  | subscribe | queryFallback | startGrace | startProbe | settle => cases h

/-- Every source works for a phase that is not the end. -/
theorem isSettled_phase (s : Source) : s.phase.isSettled = false := by
  cases s <;> rfl

/-- A source's last word and a word are not the same to a tracker that waits for them. -/
theorem closes_of_heeded {signal : Signal}
    (h : signal.isWord ∨ signal = .probeResolved .cancelled) : signal.closes = false := by
  rcases h with h | rfl
  · exact Signal.closes_of_isWord h
  · rfl

/-! ## 3. One turn -/

/-- **Nobody new is heard** as long as no source and no signal comes. -/
theorem Hushed.keep {r r' : Run} (h : Hushed r) (hr : r'.retired = r.retired)
    (ht : r'.tracker = r.tracker) (hi : r'.inbox = r.inbox)
    (hs : ∀ s cancelled, r'.source = some (s, cancelled) →
      ∃ cancelled', r.source = some (s, cancelled')) : Hushed r' := by
  cases h with
  | retired h => exact .retired (hr.trans h)
  | quits hp ho => exact .quits (by rw [ht]; exact hp) ho
  | relieved hover hinbox =>
    refine .relieved (fun s cancelled h => ?_) (by rw [hi]; exact hinbox)
    obtain ⟨cancelled', h'⟩ := hs s cancelled h
    exact hover s cancelled' h'

namespace Signed

variable {settings : ConsoleSettings} {now : Nat} {x : Signed} {run : Run} {acts : List Act}

@[simp] theorem goOn_run (x : Signed) (run : Run) : (x.goOn run).run = run := rfl

/-- What is left of the letters. -/
theorem mem_letters_of_goOn {l : Letter} (h : l ∈ (x.goOn run).letters) : l ∈ x.letters :=
  List.mem_of_mem_drop h

/-- No source has started where there was one. -/
theorem goOn_sources (h : x.run.source.isSome) : (x.goOn run).sources = x.sources := by
  simp [goOn, Option.isSome_iff_ne_none.mp h]

/-- **A run that stops its source** stands where it stood. -/
theorem situation_stops {source : Option (Source × Bool)} (hx : x.Orderly) (h : x.run.stops)
    (hs : ∀ s cancelled, source = some (s, cancelled) →
      ∃ cancelled', x.run.source = some (s, cancelled')) :
    (x.goOn { x.run with source }).Situation := by
  have hsit := hx.situation
  unfold stops at h
  split at h
  · cases h
  · rename_i effect rest outcome hne hstage
    simp only [Situation, hstage, goOn_run] at hsit ⊢
    obtain ⟨rfl, hopens, hhushed⟩ := hsit
    exact ⟨rfl, hopens, hhushed.keep rfl rfl rfl hs⟩
  · rename_i hstage
    simp only [Situation, hstage, goOn_run] at hsit ⊢
    exact hsit
  · cases h

/-- **An effect carried out**: an aside leaves the others to do, and with the opening of the
phase comes its source. -/
theorem situation_performs {effect : Effect} {rest : List Effect} {outcome : Option Outcome}
    (hx : x.Orderly) (h : x.run.stage = .executing (effect :: rest) outcome)
    (ho : ∀ o, effect ≠ .settle o) :
    (x.goOn
      { x.run with
        stage := .executing rest outcome
        source := (sourceOf? settings x.run.tracker.task.id effect).map (·, false)
      }).Situation := by
  have hsit := hx.situation
  simp only [Situation, h] at hsit
  obtain ⟨rfl, hopens, hhushed⟩ := hsit
  rcases hopens.cons_cases with ⟨haside, hrest⟩ | ⟨rfl, rfl⟩
  · have hnone := sourceOf?_of_isAside settings x.run.tracker.task.id haside
    obtain ⟨effect', rest', rfl⟩ := hrest.exists_cons
    refine ⟨rfl, hrest, hhushed.keep rfl rfl rfl fun s cancelled hsource => ?_⟩
    simp [hnone] at hsource
  · have hgoes : x.run.tracker.phase.isSettled = false := by
      cases hp : x.run.tracker.phase with
      | settled o => exact absurd (by rw [hp]; rfl) (ho o)
      | _ => rfl
    obtain ⟨s, hsource, hphase, hover, htask⟩ :=
      exists_sourceOf?_opening settings x.run.tracker.task.id hgoes
    cases hhushed with
    | retired hr => exact .inl hr
    | quits hp _ =>
      rw [hp] at hgoes
      cases hgoes
    | relieved _ hinbox =>
      have hcancels : ∀ l ∈ x.letters, l.signal = .cancel := by
        intro l hl
        refine hinbox _ ?_
        rw [← hx.letters]
        exact List.mem_map_of_mem hl
      refine .inr ⟨s, ?_⟩
      constructor
      case source => simp [hsource, goOn]
      case phase => exact hphase
      case taskId => exact htask
      case post =>
        rw [hover]
        exact .of_cancels hinbox
      case sender =>
        exact fun l hl hne => absurd (hcancels l (mem_letters_of_goOn hl)) hne

/-- **A signal heard**: the source that sent it attends on, or it was its last word. -/
theorem situation_hears {signal : Signal} {rest : List Signal} (hx : x.Orderly)
    (h : x.run.stage = .listening) (hr : x.run.retired = false)
    (hi : x.run.inbox = signal :: rest) :
    (x.goOn
      { x.run with
        tracker := (x.run.tracker.apply signal).1
        inbox := rest
        stage := .executing (x.run.tracker.apply signal).2 none }).Situation := by
  have hsit := hx.situation
  simp only [Situation, h, hr, Bool.false_eq_true, false_or] at hsit
  obtain ⟨s, hs⟩ := hsit
  have hpost := hs.post
  rw [hi] at hpost
  have hmove := Tracker.apply_move hx.accord signal
  have hid := hmove.id_eq
  generalize x.run.tracker.apply signal = after at hmove hid
  obtain ⟨t, effects⟩ := after
  rcases hmove.opens with ⟨rfl, hphase, hword⟩ | ⟨hopens, hlast⟩
  · -- the phase goes on, so this was not the last word
    have hrest : Post s.phase s.isOver rest := by
      rcases hpost.cons_cases with ⟨-, hrest⟩ | ⟨hp, hc, -, -⟩
      · exact hrest
      · have hheeds := (Tracker.heeds_iff hp).mpr hs.phase.symm
        simp [closes_of_heeded (hword hheeds)] at hc
    refine .inr ⟨s, ?_⟩
    constructor
    case source => exact hs.source
    case phase => exact hs.phase.trans hphase.symm
    case taskId =>
      intro id hmem
      exact (hs.taskId id hmem).trans hid.symm
    case post => exact hrest
    case sender =>
      intro l hl hne
      rw [goOn_sources (by simp [hs.source])]
      exact hs.sender l (mem_letters_of_goOn hl) hne
  · obtain ⟨effect, others, rfl⟩ := hopens.exists_cons
    refine ⟨rfl, hopens, ?_⟩
    rcases hlast with hc | ⟨-, o, hp, ho⟩
    · rcases hpost.cons_cases with ⟨hnot, -⟩ | ⟨-, -, hover, hrest⟩
      · simp [hnot] at hc
      · refine .relieved (fun s' cancelled hs' => ?_) hrest
        cases hs.source.symm.trans hs'
        exact hover
    · exact .quits hp ho

/-- **What one step of a run leaves in order.** -/
theorem situation_step (hx : x.Orderly) (h : Step settings now x.run run acts) :
    (x.goOn run).Situation := by
  have hsit := hx.situation
  cases h with
  | cancelsSource hstop hs ho =>
    refine situation_stops hx hstop fun s cancelled hs' => ?_
    cases hs'
    exact ⟨false, hs⟩
  | forgetsSource hstop hs ho => exact situation_stops hx hstop (by simp)
  | tells hstage =>
    simp only [Situation, hstage] at hsit
    obtain ⟨rfl, hopens, hhushed⟩ := hsit
    rcases hopens.cons_cases with ⟨-, hrest⟩ | ⟨heq, -⟩
    · obtain ⟨effect, rest', rfl⟩ := hrest.exists_cons
      exact ⟨rfl, hrest, hhushed.keep rfl rfl rfl fun s cancelled hs => ⟨cancelled, hs⟩⟩
    · exact absurd heq.symm (Phase.opening_ne_remoteCancel _)
  | performs hstage hc ho hs => exact situation_performs hx hstage ho
  | settles hstage hs =>
    simp only [Situation, hstage] at hsit
    obtain ⟨rfl, hopens, hhushed⟩ := hsit
    rcases hopens.cons_cases with ⟨haside, -⟩ | ⟨heq, rfl⟩
    · cases haside
    · refine ⟨rfl, Phase.opening_eq_settle_iff.mp heq.symm, hhushed.keep rfl rfl rfl ?_⟩
      simp
  | listens hstage =>
    simp only [Situation, hstage] at hsit
    rcases hsit with hr | ⟨s, hs⟩
    · exact .inl hr
    · refine .inr ⟨s, hs.source, hs.phase, hs.taskId, hs.post, ?_⟩
      intro l hl hne
      rw [goOn_sources (by simp [hs.source])]
      exact hs.sender l (mem_letters_of_goOn hl) hne
  | lingers hstage ho =>
    simp only [Situation, hstage] at hsit
    obtain ⟨hs, hp, hhushed⟩ := hsit
    exact ⟨_, hs, hp, hhushed.keep rfl rfl rfl fun s cancelled hs => ⟨cancelled, hs⟩, ho⟩
  | closes hstage ho =>
    simp only [Situation, hstage] at hsit
    exact hsit.1
  | leaves hstage hr => exact hr
  | hears hstage hr hi => exact situation_hears hx hstage hr hi
  | departs hstage hs => exact hs
  | abandons hstage hr =>
    simp only [Situation, hstage] at hsit
    obtain ⟨o, hs, -⟩ := hsit
    exact hs
  | refreshes hstage hr hd =>
    simp only [Situation, hstage] at hsit
    obtain ⟨o, hs, -⟩ := hsit
    exact hs

/-- **Whoever does not move a run** leaves it where it stands, as far as it still hears its
source, or nobody. -/
theorem Situation.transfer {x' : Signed} (h : x.Situation)
    (hstage : x'.run.stage = x.run.stage) (htracker : x'.run.tracker = x.run.tracker)
    (hretired : x.run.retired → x'.run.retired)
    (hattends : ∀ s, x.Attends s → x'.run.retired ∨ ∃ s', x'.Attends s')
    (hhushed : x.run.Hushed → x'.run.Hushed) (hnone : x.run.source = none → x'.run.source = none) :
    x'.Situation := by
  have hlistens : (x.run.retired ∨ ∃ s, x.Attends s) → x'.run.retired ∨ ∃ s', x'.Attends s' := by
    rintro (hr | ⟨s, hs⟩)
    · exact .inl (hretired hr)
    · exact hattends s hs
  cases hstage' : x.run.stage with
  | executing effects outcome =>
    cases effects with
    | cons effect rest =>
      simp only [Situation, hstage, hstage', htracker] at h ⊢
      obtain ⟨ho, hopens, hh⟩ := h
      exact ⟨ho, hopens, hhushed hh⟩
    | nil =>
      cases outcome with
      | none =>
        simp only [Situation, hstage, hstage'] at h ⊢
        exact hlistens h
      | some o =>
        simp only [Situation, hstage, hstage', htracker] at h ⊢
        obtain ⟨hs, hp, hh⟩ := h
        exact ⟨hnone hs, hp, hhushed hh⟩
  | listening =>
    simp only [Situation, hstage, hstage'] at h ⊢
    exact hlistens h
  | leaving =>
    simp only [Situation, hstage, hstage'] at h ⊢
    exact hretired h
  | lingering due =>
    simp only [Situation, hstage, hstage', htracker] at h ⊢
    obtain ⟨o, hs, hp, hh, ho⟩ := h
    exact ⟨o, hnone hs, hp, hhushed hh, ho⟩
  | ended =>
    simp only [Situation, hstage, hstage'] at h ⊢
    exact hnone h

/-- **What the source says** is its own, and for the phase. -/
theorem situation_hear {news : Option News} {s s' : Source} {cancelled : Bool}
    {deeds : List Deed} (hx : x.Orderly) (hs : x.run.source = some (s, cancelled))
    (hpoll : s.poll now (cancelled || x.run.retired) news = some (s', deeds)) :
    Situation { x with
      run := { x.run with source := some (s', cancelled), inbox := x.run.inbox ++ saying deeds }
      letters := x.letters ++ (saying deeds).map (⟨·, some x.sources⟩) } := by
  have hover : s.isOver = false := by
    cases ho : s.isOver with
    | false => rfl
    | true =>
      rw [Source.poll_of_isOver ho] at hpoll
      cases hpoll
  refine hx.situation.transfer rfl rfl id (fun s₀ h => ?_) (fun h => ?_) (by simp [hs])
  · cases h.source.symm.trans hs
    cases hr : x.run.retired with
    | true => exact .inl rfl
    | false =>
      obtain ⟨hphase, htask⟩ := Source.poll_same hpoll
      rw [hr] at hpoll
      refine .inr ⟨s', rfl, hphase.trans h.phase, by rw [htask]; exact h.taskId, ?_, ?_⟩
      · have hpost := h.post
        rw [hover] at hpost
        rw [hphase]
        exact hpost.append (Source.poll_post hpoll)
      · intro l hl hne
        rcases List.mem_append.mp hl with hl | hl
        · exact h.sender l hl hne
        · obtain ⟨signal, -, rfl⟩ := List.mem_map.mp hl
          rfl
  · cases h with
    | retired hr => exact .retired hr
    | quits hp ho => exact .quits hp ho
    | relieved hall _ => simp [hall s cancelled hs] at hover

/-- **The user cancels.** -/
theorem situation_cancel (hx : x.Orderly) :
    Situation { x with
      run := { x.run with inbox := x.run.inbox ++ [.cancel] }
      letters := x.letters ++ [⟨.cancel, none⟩] } := by
  refine hx.situation.transfer rfl rfl id (fun s h => ?_) (fun h => ?_) id
  · refine .inr ⟨s, h.source, h.phase, h.taskId, h.post.append_cancel, fun l hl hne => ?_⟩
    rcases List.mem_append.mp hl with hl | hl
    · exact h.sender l hl hne
    · cases List.mem_singleton.mp hl
      exact absurd rfl hne
  · cases h with
    | retired hr => exact .retired hr
    | quits hp ho => exact .quits hp ho
    | relieved hs hi =>
      refine .relieved hs fun signal hmem => ?_
      rcases List.mem_append.mp hmem with hmem | hmem
      · exact hi signal hmem
      · exact List.mem_singleton.mp hmem

theorem situation_retire (hx : x.Orderly) :
    Situation { x with run := { x.run with retired := true } } :=
  hx.situation.transfer rfl rfl (fun _ => rfl) (fun _ _ => .inl rfl) (fun _ => .retired rfl) id

/-! ## 4. Courses -/

/-- The account of the queue is kept. -/
theorem letters_turn {x' : Signed} {t : Turn} (h : x.turn settings t = some x')
    (hx : x.letters.map Letter.signal = x.run.inbox) :
    x'.letters.map Letter.signal = x'.run.inbox := by
  rcases turn_cases h with ⟨now, run, acts, -, hstep, rfl⟩ |
    ⟨now, news, s, s', cancelled, deeds, -, -, -, rfl⟩ | ⟨-, rfl⟩ | ⟨-, rfl⟩
  · cases hstep with
    | hears hstage hr hi => simp [goOn, hx, hi]
    | _ => simpa [goOn] using hx
  · simp [hx, Function.comp_def]
  · simp [hx]
  · exact hx

/-- **A turn leaves a run in order.** -/
theorem orderly_turn {x' : Signed} {t : Turn} (hx : x.Orderly)
    (h : x.turn settings t = some x') : x'.Orderly := by
  have hletters := letters_turn h hx.letters
  rcases turn_cases h with ⟨now, run, acts, -, hstep, rfl⟩ |
    ⟨now, news, s, s', cancelled, deeds, -, hs, hpoll, rfl⟩ | ⟨-, rfl⟩ | ⟨-, rfl⟩
  · refine ⟨?_, hletters, situation_step hx hstep⟩
    cases hstep with
    | hears _ _ _ => exact (Tracker.apply_move hx.accord _).accord hx.accord
    | _ => exact hx.accord
  · exact ⟨hx.accord, hletters, situation_hear hx hs hpoll⟩
  · exact ⟨hx.accord, hletters, situation_cancel hx⟩
  · exact ⟨hx.accord, hletters, situation_retire hx⟩

/-- **A run begins in order.** -/
theorem orderly_opening (start : Tracker.Start) : (opening start).Orderly := by
  refine ⟨start.accord_begin, rfl, ?_⟩
  have hopens := start.opens_begin
  obtain ⟨effect, rest, heq⟩ := hopens.exists_cons
  have hstage : (opening start).run.stage = .executing (effect :: rest) none :=
    congrArg (Stage.executing · none) heq
  simp only [Situation, hstage]
  refine ⟨trivial, ?_, .relieved (by simp [opening, Run.start]) (by simp [opening, Run.start])⟩
  rw [← heq]
  exact hopens

/-- **So it is wherever the course of a run leads.** -/
theorem orderly_turns {start : Tracker.Start} {ts : List Turn}
    (h : (opening start).turns settings ts = some x) : x.Orderly :=
  keeps (fun _ _ _ hx ht => orderly_turn hx ht) (orderly_opening start) h

end Signed

namespace Reached

variable {settings : ConsoleSettings} {r r' : Run}

theorem accord (h : Reached settings r) : r.tracker.Accord := by
  obtain ⟨start, ts, x, hx, rfl⟩ := h
  exact (Signed.orderly_turns hx).accord

/-- **A run that has ended has no source.** -/
theorem source_of_ended (h : Reached settings r) (he : r.stage = .ended) : r.source = none := by
  obtain ⟨start, ts, x, hx, rfl⟩ := h
  have hsit := (Signed.orderly_turns hx).situation
  simpa only [Signed.Situation, he] using hsit

/-- **A run follows one task.** -/
theorem id_step (h : Reached settings r) {other : ConsoleSettings} {now : Nat} {acts : List Act}
    (hs : Step other now r r' acts) : r'.tracker.task.id = r.tracker.task.id := by
  cases hs with
  | hears => exact (Tracker.apply_move h.accord _).id_eq
  | _ => rfl

end Reached

namespace Signed

variable {settings : ConsoleSettings} {x : Signed}

/-! ## 5. While a run waits -/

/-- **A run in order**, between two signals. -/
structure InOrder (x : Signed) : Prop where
  /-- There is a source until the task is settled. -/
  sourced : x.run.source = none ↔ x.run.tracker.phase.isSettled
  /-- It works for the phase and on the task of the tracker, and nobody has cancelled it. -/
  source : ∀ s cancelled, x.run.source = some (s, cancelled) →
    s.phase = x.run.tracker.phase ∧ cancelled = false ∧
      ∀ id ∈ s.taskId?, id = x.run.tracker.task.id
  /-- A restart is watched only after a completion that calls for it, and not any longer. -/
  probe : ∀ stage cancelled, x.run.source = some (.probe stage, cancelled) →
    x.run.tracker.task.status = .completed ∧ x.run.tracker.task.needsRestart ∧
      ¬ x.run.tracker.task.confirmed
  letters : x.letters.map Letter.signal = x.run.inbox
  /-- What the user did not send comes from the source that is there, and is waited for. -/
  sent : ∀ l ∈ x.letters, l.signal ≠ .cancel →
    x.run.source.isSome ∧ l.sender = some x.sources ∧ x.run.tracker.phase.heeds l.signal
  /-- The last word of a source that is over is still to be heard. -/
  closing : ∀ s cancelled, x.run.source = some (s, cancelled) → s.isOver →
    ∃ l ∈ x.letters, l.signal.closes ∧ l.sender = some x.sources ∧
      x.run.tracker.phase.heeds l.signal
  /-- A run with a task that is not settled goes on. -/
  busy : x.run.tracker.phase.isSettled = false →
    (∃ s, x.run.source = some (s, false) ∧ s.isOver = false) ∨ x.run.inbox ≠ []

/-- What the queue holds is waited for, what the user sent apart. -/
theorem Attends.heeds {s : Source} (h : x.Attends s)
    (hletters : x.letters.map Letter.signal = x.run.inbox) {l : Letter} (hl : l ∈ x.letters)
    (hne : l.signal ≠ .cancel) : x.run.tracker.phase.heeds l.signal := by
  have hmem : l.signal ∈ x.run.inbox := by
    rw [← hletters]
    exact List.mem_map_of_mem hl
  rcases h.post.phase?_of_mem hmem with hcancel | hp
  · exact absurd hcancel hne
  · exact (Tracker.heeds_iff hp).mpr h.phase.symm

/-- **With a source that attends to it, a run is in order.** -/
theorem Attends.inOrder {s : Source} (h : x.Attends s) (hx : x.Orderly) : x.InOrder := by
  have hgoes : x.run.tracker.phase.isSettled = false := by
    rw [← h.phase]
    exact isSettled_phase s
  have hclosing : s.isOver → ∃ l ∈ x.letters, l.signal.closes := by
    intro ho
    have hpost := h.post
    rw [ho, ← hx.letters] at hpost
    obtain ⟨signal, hmem, hc⟩ := hpost.exists_closes
    obtain ⟨l, hl, rfl⟩ := List.mem_map.mp hmem
    exact ⟨l, hl, hc⟩
  constructor
  case sourced => simp [h.source, hgoes]
  case source =>
    intro s' cancelled hs
    cases h.source.symm.trans hs
    exact ⟨h.phase, rfl, h.taskId⟩
  case probe =>
    intro stage cancelled hs
    cases h.source.symm.trans hs
    obtain ⟨hstatus, hr, hc⟩ := hx.accord.record h.phase.symm
    exact ⟨Status.eq_of_final? hstatus, hr, by simp [hc, Source.phase, Phase.confirmed]⟩
  case letters => exact hx.letters
  case sent =>
    intro l hl hne
    exact ⟨by simp [h.source], h.sender l hl hne, h.heeds hx.letters hl hne⟩
  case closing =>
    intro s' cancelled hs ho
    cases h.source.symm.trans hs
    obtain ⟨l, hl, hc⟩ := hclosing ho
    have hne : l.signal ≠ .cancel := by
      intro heq
      simp [heq, Signal.closes] at hc
    exact ⟨l, hl, hc, h.sender l hl hne, h.heeds hx.letters hl hne⟩
  case busy =>
    intro _
    cases ho : s.isOver with
    | false => exact .inl ⟨s, h.source, ho⟩
    | true =>
      obtain ⟨l, hl, -⟩ := hclosing ho
      refine .inr fun hempty => ?_
      rw [← hx.letters, List.map_eq_nil_iff] at hempty
      simp [hempty] at hl

/-- A settled run that waits has no source, and has nothing left to hear but the user. -/
theorem inOrder_settled {o : Outcome} (hx : x.Orderly) (hr : x.run.retired = false)
    (hs : x.run.source = none) (hp : x.run.tracker.phase = .settled o) (h : x.run.Hushed)
    (ho : o.triggersRefresh) : x.InOrder := by
  have hcancels : ∀ l ∈ x.letters, l.signal = .cancel := by
    intro l hl
    have hmem : l.signal ∈ x.run.inbox := by
      rw [← hx.letters]
      exact List.mem_map_of_mem hl
    cases h with
    | retired hr' => simp [hr] at hr'
    | quits hp' ho' =>
      cases hp.symm.trans hp'
      simp [ho] at ho'
    | relieved _ hi => exact hi _ hmem
  constructor
  case sourced => simp [hs, hp, Phase.isSettled]
  case source => simp [hs]
  case probe => simp [hs]
  case letters => exact hx.letters
  case sent =>
    intro l hl hne
    exact absurd (hcancels l hl) hne
  case closing => simp [hs]
  case busy => simp [hp, Phase.isSettled]

/-- **While a run waits, it is in order**, unless it is retired; and at any time a source at
work stays the source of its run, and no other starts beside it. -/
theorem inOrder_turns {start : Tracker.Start} {ts : List Turn}
    (h : (opening start).turns settings ts = some x) :
    (x.run.waits → x.run.retired = false → x.InOrder) ∧
      ∀ t x', x.turn settings t = some x' → ∀ s cancelled,
        x.run.source = some (s, cancelled) → s.isOver = false →
          x'.sources = x.sources ∧
            ∃ s' cancelled', x'.run.source = some (s', cancelled') ∧ s'.phase = s.phase := by
  have hx := orderly_turns h
  constructor
  · intro hwaits hr
    have hsit := hx.situation
    unfold waits at hwaits
    split at hwaits
    · rename_i hstage
      simp only [Situation, hstage, hr, Bool.false_eq_true, false_or] at hsit
      obtain ⟨s, hs⟩ := hsit
      exact hs.inOrder hx
    · rename_i due hstage
      simp only [Situation, hstage] at hsit
      obtain ⟨o, hs, hp, hhushed, ho⟩ := hsit
      exact inOrder_settled hx hr hs hp hhushed ho
    · cases hwaits
  · intro t x' ht s cancelled hs ho
    rcases turn_cases ht with ⟨now, run, acts, -, hstep, rfl⟩ |
      ⟨now, news, s₀, s', c, deeds, -, hs₀, hpoll, rfl⟩ | ⟨-, rfl⟩ | ⟨-, rfl⟩
    · obtain ⟨cancelled', hs'⟩ := hstep.keeps_source hs ho
      exact ⟨goOn_sources (by simp [hs]), s, cancelled', hs', rfl⟩
    · cases hs.symm.trans hs₀
      exact ⟨rfl, s', cancelled, rfl, (Source.poll_same hpoll).1⟩
    · exact ⟨rfl, s, cancelled, hs, rfl⟩
    · exact ⟨rfl, s, cancelled, hs, rfl⟩

/-- A stream breaks, and the server says that the task goes on: the inquiry is over, and its
answer is still to be heard. -/
theorem inOrder_of_break :
    let ts : List Turn :=
      [.step 0, .step 0, .hear 0 none, .hear 5 (some (.handshake (.ok ()))),
        .hear 9 (some (.delivery .closed)), .step 9, .step 9, .step 9, .step 9, .hear 9 none,
        .hear 12 (some (.status (.ok { found := true, status := some .running })))]
    ∃ x, (opening (.streaming "a" "" 3)).turns {} ts = some x ∧ x.run.waits ∧
      x.run.retired = false ∧ x.run.tracker.phase = .reconciling ∧ x.sources = 2 ∧
      x.InOrder := by
  intro ts
  have hx : (opening (.streaming "a" "" 3)).turns {} ts = some _ := rfl
  exact ⟨_, hx, rfl, rfl, rfl, rfl, (inOrder_turns hx).1 rfl rfl⟩

end Signed

end TaskWatch.Run
