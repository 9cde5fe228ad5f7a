/-
# Progress does not steer

Most events of a stream only report how far the task has come.  They are written into the
record, and that is all: a course that misses some of them goes the same way.

Two trackers are `Alike` when they are the same but for their records, and the records agree
on all that a handler ever asks of them: whether and how the task has ended, whether it needs
a restart, and whether that restart is over.  They may differ in what the events of progress
write, which are messages and counters, and in whether the task has been seen to run.  With
`counted` they agree on the counters as well.

* **`Alike.apply`**: a signal keeps trackers alike and asks both for the same.
* **`alike_onEvent`**: an event of progress leaves a tracker alike to itself and asks for
  nothing; a remark, which has no number in it, leaves even the counters alone.
* **`progress_steers_nothing`**: so two courses stay alike when one of them misses events of
  progress, any of them, anywhere.

Neither step needs to know how the trackers came about.
-/
import TaskWatch.Proofs.Tracker.Coherence
import TaskWatch.Proofs.Tracker.Opening

namespace TaskWatch

/-! ## 1. Events that may be missed -/

/-- **A remark**: an event that has no number to report. -/
def Event.isRemark : Event → Bool
  | .info _ | .containerRestartRequired _ | .unknown => true
  | _ => false

/-- **The second list is the first one without some of its events**, all of them quiet. -/
inductive Without (quiet : Event → Bool) : List Signal → List Signal → Prop
  | nil : Without quiet [] []
  | keep (signal : Signal) {all fewer : List Signal} (h : Without quiet all fewer) :
      Without quiet (signal :: all) (signal :: fewer)
  | miss {event : Event} (he : quiet event) {all fewer : List Signal}
      (h : Without quiet all fewer) : Without quiet (.stream event :: all) fewer

/-! ## 2. Records -/

namespace Task

/-- What the events of progress count. -/
def counters (t : Task) : UInt64 × UInt64 × Nat × Tally :=
  (t.current, t.total, t.percent, t.tally)

/-- **Records that no handler tells apart.** -/
structure Alike (counted : Bool) (t u : Task) : Prop where
  id : t.id = u.id
  final : t.status.final? = u.status.final?
  needsRestart : t.needsRestart = u.needsRestart
  confirmed : t.confirmed = u.confirmed
  counters : counted → t.counters = u.counters

namespace Alike

variable {counted : Bool} {t u : Task}

theorem refl (counted : Bool) (t : Task) : Alike counted t t :=
  ⟨rfl, rfl, rfl, rfl, fun _ => rfl⟩

theorem symm (h : Alike counted t u) : Alike counted u t :=
  ⟨h.id.symm, h.final.symm, h.needsRestart.symm, h.confirmed.symm,
    fun hc => (h.counters hc).symm⟩

theorem trans {v : Task} (h : Alike counted t u) (h' : Alike counted u v) :
    Alike counted t v :=
  ⟨h.id.trans h'.id, h.final.trans h'.final, h.needsRestart.trans h'.needsRestart,
    h.confirmed.trans h'.confirmed, fun hc => (h.counters hc).trans (h'.counters hc)⟩

theorem isTerminal_eq (h : Alike counted t u) :
    t.status.isTerminal = u.status.isTerminal := by
  have hf := congrArg Option.isSome h.final
  cases ht : t.status.isTerminal <;> cases hu : u.status.isTerminal <;>
    simp [Status.final?, ht, hu] at hf ⊢

/-- Messages may differ. -/
theorem push (h : Alike counted t u) (message message' : String) :
    Alike counted (t.push message) (u.push message') := by
  rw [push_eq, push_eq]
  exact ⟨h.id, h.final, h.needsRestart, h.confirmed, h.counters⟩

/-- So do tasks that end alike. -/
theorem restatus (h : Alike counted t u) (s : Status) :
    Alike counted { t with status := s } { u with status := s } :=
  ⟨h.id, rfl, h.needsRestart, h.confirmed, h.counters⟩

theorem completed (h : Alike counted t u) : Alike counted t.completed u.completed := by
  refine ⟨h.id, rfl, h.needsRestart, h.confirmed, fun hc => ?_⟩
  have heq := h.counters hc
  simp only [Task.counters, Prod.mk.injEq] at heq
  simp [Task.counters, Task.completed, heq]

/-- A task that is seen to run has not ended. -/
theorem started (counted : Bool) (t : Task) : Alike counted t.started t := by
  refine ⟨rfl, ?_, rfl, rfl, fun _ => rfl⟩
  cases hs : t.status <;> simp [Task.started, hs, Status.final?, Status.isTerminal]

/-- **Progress is counted alike.** -/
theorem observe (h : Alike counted t u) (event : Event) :
    Alike counted (t.observe event) (u.observe event) := by
  refine ⟨?_, by simpa using h.final, by simpa using h.needsRestart, by simpa using h.confirmed,
    fun hc => ?_⟩
  · rw [observe_id, observe_id]
    exact h.id
  · have heq := h.counters hc
    simp only [Task.counters, Prod.mk.injEq] at heq
    obtain ⟨hcurrent, htotal, hpercent, htally⟩ := heq
    cases event with
    | compareResult toDownload unchanged message =>
      by_cases hd : toDownload > 0 <;>
        simp [Task.observe, push_eq, recomputePercent, Task.counters, *]
    | progress current total filename message =>
      by_cases hm : message.isEmpty <;> by_cases hf : filename.isEmpty <;>
        simp [Task.observe, push_eq, recomputePercent, Task.counters, *]
    | _ => simp [Task.observe, push_eq, recomputePercent, Task.counters, *]

/-- **What progress writes leaves a record alike to itself.** -/
theorem observed (t : Task) (event : Event) : Alike false (t.observe event) t :=
  ⟨observe_id t event, by simp, by simp, by simp, by simp⟩

/-- A remark moves no counter. -/
theorem remarked (t : Task) {event : Event} (he : event.isRemark) :
    Alike true (t.observe event) t := by
  have h := observed t event
  refine ⟨h.id, h.final, h.needsRestart, h.confirmed, fun _ => ?_⟩
  cases event <;> simp_all [Event.isRemark, Task.observe, push_eq, Task.counters]

end Alike

end Task

/-! ## 3. Trackers -/

namespace Tracker

/-- **The same trackers but for their records**, which are alike. -/
structure Alike (counted : Bool) (a b : Tracker) : Prop where
  rest : { a with task := b.task } = b
  task : a.task.Alike counted b.task

/-- A completed task is watched, or settled. -/
theorem finishCompleted_eq (t : Tracker) :
    t.finishCompleted =
      if t.task.needsRestart then
        ({ t with
            task := t.task.completed
            phase := .awaitingRestart
            probesStarted := t.probesStarted + 1 },
          [.startProbe])
      else { t with task := t.task.completed }.settle .completed := rfl

/-- The same after a step as well, and both ask for the same. -/
def Abreast (counted : Bool) (x y : Tracker × List Effect) : Prop :=
  Alike counted x.1 y.1 ∧ x.2 = y.2

namespace Alike

variable {counted : Bool} {a b c : Tracker}

theorem refl (counted : Bool) (a : Tracker) : Alike counted a a :=
  ⟨rfl, .refl counted a.task⟩

theorem exists_task (h : Alike counted a b) :
    ∃ u, b = { a with task := u } ∧ a.task.Alike counted u :=
  ⟨b.task, h.rest.symm, h.task⟩

theorem trans (h : Alike counted a b) (h' : Alike counted b c) : Alike counted a c := by
  obtain ⟨u, rfl, hu⟩ := h.exists_task
  obtain ⟨v, rfl, hv⟩ := h'.exists_task
  exact ⟨rfl, hu.trans hv⟩

theorem phase_eq (h : Alike counted a b) : a.phase = b.phase := by
  obtain ⟨u, rfl, -⟩ := h.exists_task
  rfl

/-- Nothing is asked of trackers that are alike. -/
theorem abreast (h : Alike counted a b) : Abreast counted (a, []) (b, []) :=
  ⟨h, rfl⟩

/-- Another link or another phase changes nothing about that. -/
theorem move (h : Alike counted a b) (link : Link) (phase : Phase) :
    Alike counted { a with link, phase } { b with link, phase } := by
  obtain ⟨u, rfl, hu⟩ := h.exists_task
  exact ⟨rfl, hu⟩

theorem relink (h : Alike counted a b) (link : Link) :
    Alike counted { a with link } { b with link } := by
  obtain ⟨u, rfl, hu⟩ := h.exists_task
  exact ⟨rfl, hu⟩

/-- Nor do other records that are alike. -/
theorem rewrite (h : Alike counted a b) {t u : Task} (hu : t.Alike counted u) :
    Alike counted { a with task := t } { b with task := u } := by
  obtain ⟨_, rfl, -⟩ := h.exists_task
  exact ⟨rfl, hu⟩

theorem say (h : Alike counted a b) (message : String) :
    Alike counted (a.say message) (b.say message) :=
  h.rewrite (h.task.push message message)

theorem settle (h : Alike counted a b) (outcome : Outcome) :
    Abreast counted (a.settle outcome) (b.settle outcome) := by
  obtain ⟨u, rfl, hu⟩ := h.exists_task
  exact ⟨⟨rfl, hu⟩, rfl⟩

theorem finishCompleted (h : Alike counted a b) :
    Abreast counted a.finishCompleted b.finishCompleted := by
  have hdone := h.rewrite h.task.completed
  rw [finishCompleted_eq, finishCompleted_eq, ← h.task.needsRestart]
  split
  · obtain ⟨u, rfl, hu⟩ := h.exists_task
    exact ⟨⟨rfl, hdone.task⟩, rfl⟩
  · exact hdone.settle .completed

/-- **A terminal event** ends both alike. -/
theorem conclude (h : Alike counted a b) (event : Event) :
    Abreast counted (a.conclude event) (b.conclude event) := by
  unfold Tracker.conclude
  rw [← h.task.isTerminal_eq]
  split
  · exact h.abreast
  · cases event with
    | complete downloaded skipped failed needsRestart message =>
      have hfinal : Task.Alike counted
          { a.task with tally := ⟨downloaded, skipped, failed⟩, needsRestart }
          { b.task with tally := ⟨downloaded, skipped, failed⟩, needsRestart } := by
        refine ⟨h.task.id, h.task.final, rfl, h.task.confirmed, fun hc => ?_⟩
        have heq := h.task.counters hc
        simp only [Task.counters, Prod.mk.injEq] at heq
        simp [Task.counters, heq]
      exact finishCompleted (h.rewrite (hfinal.push _ _))
    | restart message =>
      have hfinal : Task.Alike counted { a.task with needsRestart := true }
          { b.task with needsRestart := true } :=
        ⟨h.task.id, h.task.final, rfl, h.task.confirmed, h.task.counters⟩
      exact finishCompleted (h.rewrite (hfinal.push _ _))
    | done message => exact (h.say message).finishCompleted
    | error message =>
      exact settle (h.rewrite ((h.task.restatus .failed).push message message)) _
    | _ => exact h.abreast

/-! ## 4. Signals -/

theorem isListening_eq (h : Alike counted a b) : a.isListening = b.isListening := by
  obtain ⟨u, rfl, hu⟩ := h.exists_task
  rfl

/-- An event of the stream. -/
theorem onEvent (h : Alike counted a b) (event : Event) :
    Abreast counted (a.onEvent event) (b.onEvent event) := by
  have hruns :
      Alike counted { a with task := a.task.started } { b with task := b.task.started } := by
    obtain ⟨u, rfl, hu⟩ := h.exists_task
    exact ⟨rfl, (Task.Alike.started counted a.task).trans
      (hu.trans (Task.Alike.started counted u).symm)⟩
  unfold Tracker.onEvent
  rw [← h.isListening_eq]
  split
  · cases he : event.isTerminal with
    | true =>
      obtain ⟨halike, heffects⟩ := (hruns.relink .sawTerminal).conclude event
      exact ⟨halike, congrArg (Effect.closeStream :: ·) heffects⟩
    | false =>
      obtain ⟨u, rfl, hu⟩ := h.exists_task
      exact ⟨⟨rfl, hruns.task.observe event⟩, rfl⟩
  · exact h.abreast

/-- The end of the stream. -/
theorem onStreamEnded (h : Alike counted a b) :
    Abreast counted a.onStreamEnded b.onStreamEnded := by
  unfold Tracker.onStreamEnded
  rw [← h.isListening_eq, ← h.task.isTerminal_eq]
  split
  · obtain ⟨u, rfl, hu⟩ := h.exists_task
    exact ⟨⟨rfl, hu⟩, rfl⟩
  · exact h.abreast

theorem degrade (h : Alike counted a b) : Abreast counted a.degrade b.degrade :=
  ⟨(h.move .detached .degraded).say _, rfl⟩

/-- A cancellation that the user asks for, or that the server remembers. -/
theorem cancelled (h : Alike counted a b) (message : String) :
    Alike counted
      { a with link := .detached, task := ({ a.task with status := .cancelled }).push message }
      { b with link := .detached, task := ({ b.task with status := .cancelled }).push message } :=
  (h.relink .detached).rewrite ((h.task.restatus .cancelled).push message message)

/-- The server's memory of the task. -/
theorem onFallback (h : Alike counted a b) (answer : Except TransportError Snapshot) :
    Abreast counted (a.onFallback answer) (b.onFallback answer) := by
  have hattached : Alike counted
      { a with reattached := a.reattached + 1, phase := .streaming, link := .attached }
      { b with reattached := b.reattached + 1, phase := .streaming, link := .attached } := by
    obtain ⟨u, rfl, hu⟩ := h.exists_task
    exact ⟨rfl, hu⟩
  have hleft : decide (b.reattached < b.maxReattach) = decide (a.reattached < a.maxReattach) := by
    rw [← h.rest]
  unfold Tracker.onFallback
  simp only [← h.phase_eq, hleft]
  split
  · split
    · exact h.degrade
    · split
      · exact (h.move .detached a.phase).conclude _
      · split
        · split
          · exact (h.cancelled _).settle _
          · exact h.degrade
        · split
          · exact ⟨hattached, rfl⟩
          · exact h.degrade
        · split
          · exact ⟨hattached, rfl⟩
          · exact h.degrade
        · exact h.degrade
  · exact h.abreast

theorem onGraceElapsed (h : Alike counted a b) :
    Abreast counted a.onGraceElapsed b.onGraceElapsed := by
  unfold Tracker.onGraceElapsed
  rw [h.phase_eq]
  split
  · exact (h.say _).settle _
  · exact h.abreast

/-- The watch over the restart. -/
theorem onProbe (h : Alike counted a b) (report : ProbeReport) :
    Abreast counted (a.onProbe report) (b.onProbe report) := by
  unfold Tracker.onProbe
  rw [h.phase_eq]
  split
  · obtain ⟨u, rfl, hu⟩ := h.exists_task
    exact ⟨⟨rfl, hu⟩, rfl⟩
  · exact h.abreast

theorem onProbeResolved (h : Alike counted a b) (outcome : ProbeOutcome) :
    Abreast counted (a.onProbeResolved outcome) (b.onProbeResolved outcome) := by
  unfold Tracker.onProbeResolved
  rw [h.phase_eq]
  split
  · cases outcome with
    | ready elapsed =>
      have hconfirmed : Task.Alike counted { a.task with confirmed := true }
          { b.task with confirmed := true } :=
        ⟨h.task.id, h.task.final, h.task.needsRestart, rfl, h.task.counters⟩
      exact settle (h.rewrite (hconfirmed.push _ _)) _
    | timeout elapsed => exact (h.say _).settle _
    | cancelled => exact h.abreast
  · exact h.abreast

/-- The user's cancellation. -/
theorem onCancel (h : Alike counted a b) : Abreast counted a.onCancel b.onCancel := by
  unfold Tracker.onCancel
  rw [h.phase_eq, h.task.isTerminal_eq]
  split
  · exact h.abreast
  · exact h.settle .dismissed
  all_goals
    split
    · exact h.abreast
    · exact ⟨((h.cancelled _).settle .cancelled).1, rfl⟩

/-- **A signal keeps trackers alike** and asks both for the same. -/
theorem apply (h : Alike counted a b) (signal : Signal) :
    Abreast counted (a.apply signal) (b.apply signal) := by
  cases signal with
  | stream event => exact h.onEvent event
  | streamEnded how => exact h.onStreamEnded
  | fallback answer => exact h.onFallback answer
  | graceElapsed => exact h.onGraceElapsed
  | probe report => exact h.onProbe report
  | probeResolved outcome => exact h.onProbeResolved outcome
  | cancel => exact h.onCancel

end Alike

/-- **Progress leaves a tracker alike to itself**, and asks for nothing.  A remark leaves even
the counters alone. -/
theorem alike_onEvent (t : Tracker) {event : Event} (he : event.isTerminal = false) :
    Abreast event.isRemark (t.onEvent event) (t, []) := by
  unfold onEvent
  split
  · rw [if_neg (by simp [he])]
    have hobserved : (t.task.started.observe event).Alike event.isRemark t.task.started := by
      cases hr : event.isRemark with
      | true => exact .remarked _ hr
      | false => exact .observed _ _
    have htask := hobserved.trans (Task.Alike.started _ t.task)
    exact ⟨⟨rfl, htask⟩, rfl⟩
  · exact ⟨.refl _ t, rfl⟩

/-! ## 5. Courses -/

/-- Less is asked of trackers that may differ in their counters. -/
theorem Abreast.mono {counted counted' : Bool} {x y : Tracker × List Effect}
    (h : Abreast counted x y) (hc : counted' → counted) : Abreast counted' x y := by
  obtain ⟨⟨hrest, htask⟩, heffects⟩ := h
  exact ⟨⟨hrest, htask.id, htask.final, htask.needsRestart, htask.confirmed,
    fun hc' => htask.counters (hc hc')⟩, heffects⟩

/-- **A run that misses quiet events goes the same way.** -/
theorem Alike.run {counted : Bool} {quiet : Event → Bool}
    (hquiet : ∀ event, quiet event → event.isTerminal = false ∧ (counted → event.isRemark))
    {all fewer : List Signal} (h : Without quiet all fewer) {a b : Tracker}
    (hab : Alike counted a b) : Abreast counted (a.run all) (b.run fewer) := by
  induction h generalizing a b with
  | nil => exact hab.abreast
  | keep signal _ ih =>
    obtain ⟨hnext, heffects⟩ := hab.apply signal
    obtain ⟨hend, hrest⟩ := ih hnext
    rw [run_cons, run_cons]
    exact ⟨hend, by rw [heffects, hrest]⟩
  | miss he _ ih =>
    rename_i event _ _ _
    obtain ⟨hterminal, hremark⟩ := hquiet event he
    obtain ⟨hself, heffects⟩ := (alike_onEvent a hterminal).mono hremark
    obtain ⟨hend, hrest⟩ := ih (hself.trans hab)
    rw [run_cons]
    refine ⟨hend, ?_⟩
    rw [← hrest, show (a.apply (.stream event)).2 = [] from heffects]
    rfl

/-- The same status, up to whether the task has been seen to run. -/
def Status.SameEnd (s u : Status) : Prop :=
  s = u ∨ ((s = .pending ∨ s = .running) ∧ (u = .pending ∨ u = .running))

theorem Status.sameEnd_of_final? {s u : Status} (h : s.final? = u.final?) : SameEnd s u := by
  cases hu : u.final? with
  | none => exact .inr ⟨Status.final?_eq_none_iff.mp (h.trans hu), Status.final?_eq_none_iff.mp hu⟩
  | some v => exact .inl ((Status.eq_of_final? (h.trans hu)).trans (Status.eq_of_final? hu).symm)

/-- **Two courses have gone the same way**: they have asked for the same, in the same order,
and what is left of them differs in the record only, and there in what is counted and said. -/
structure SameWay (start : Start) (all fewer : List Signal) : Prop where
  emitted : start.emitted all = start.emitted fewer
  phase : (start.reached all).phase = (start.reached fewer).phase
  link : (start.reached all).link = (start.reached fewer).link
  outcome : (start.reached all).outcome? = (start.reached fewer).outcome?
  probe : (start.reached all).probe = (start.reached fewer).probe
  reattached : (start.reached all).reattached = (start.reached fewer).reattached
  probesStarted : (start.reached all).probesStarted = (start.reached fewer).probesStarted
  fallbackQueries : (start.reached all).fallbackQueries = (start.reached fewer).fallbackQueries
  id : (start.reached all).task.id = (start.reached fewer).task.id
  needsRestart : (start.reached all).task.needsRestart = (start.reached fewer).task.needsRestart
  confirmed : (start.reached all).task.confirmed = (start.reached fewer).task.confirmed
  status : Status.SameEnd (start.reached all).task.status (start.reached fewer).task.status

/-- **Events of progress do not steer a course.**  Whatever is asked for, the phase, the
outcome and everything else that a course leads to is the same when any of them are missed;
and when only remarks are missed, so are the counters. -/
theorem progress_steers_nothing (start : Start) {all fewer : List Signal}
    (h : Without (fun event => !event.isTerminal) all fewer) :
    SameWay start all fewer ∧
      (Without Event.isRemark all fewer →
        (start.reached all).task.counters = (start.reached fewer).task.counters) := by
  constructor
  · have hquiet : ∀ event : Event, !event.isTerminal →
        event.isTerminal = false ∧ (false → event.isRemark) :=
      fun event he => ⟨by simpa using he, by simp⟩
    obtain ⟨⟨hrest, htask⟩, heffects⟩ :=
      Alike.run hquiet h (.refl false start.tracker.begin.1)
    have hfield : ∀ {α : Type} (f : Tracker → α),
        (∀ t u, f { t with task := u } = f t) →
          f (start.reached all) = f (start.reached fewer) :=
      fun f hf => (hf _ _).symm.trans (congrArg f hrest)
    constructor
    case emitted => exact congrArg (start.tracker.begin.2 ++ ·) heffects
    case id => exact htask.id
    case needsRestart => exact htask.needsRestart
    case confirmed => exact htask.confirmed
    case status => exact Status.sameEnd_of_final? htask.final
    all_goals exact hfield _ fun _ _ => rfl
  · intro hremarks
    have hquiet : ∀ event : Event, event.isRemark →
        event.isTerminal = false ∧ (true → event.isRemark) := by
      intro event he
      cases event <;> first | exact ⟨rfl, fun _ => he⟩ | cases he
    obtain ⟨⟨-, htask⟩, -⟩ := Alike.run hquiet hremarks (.refl true start.tracker.begin.1)
    exact htask.counters rfl

/-- A stream breaks off in the middle and is attached again, and at the end the task is
complete without a restart, though a restart was hinted at.  A course that missed the total
and the hint has another total; one that missed the hint only counts the same. -/
theorem progress_steers_nothing_of_hint :
    let start := Start.streaming "a" "" 1
    let total : Signal := .stream (.total 4 "")
    let hint : Signal := .stream (.containerRestartRequired "")
    let success : Signal := .stream (.success "b" "")
    let rest : List Signal :=
      [.streamEnded .closed, .fallback (.ok { found := true, status := some .running }), success,
        .stream (.done "")]
    SameWay start (total :: hint :: rest) rest ∧
      (start.reached (total :: hint :: rest)).phase = .settled .completed ∧
      (start.reached (total :: hint :: rest)).task.total ≠ (start.reached rest).task.total ∧
      (start.reached (total :: hint :: rest)).task.counters
        = (start.reached (total :: rest)).task.counters := by
  intro start total hint success rest
  have hself : ∀ quiet, Without quiet rest rest := fun quiet =>
    .keep _ (.keep _ (.keep _ (.keep _ .nil)))
  have hall : Without (fun event => !event.isTerminal) (total :: hint :: rest) rest :=
    .miss rfl (.miss rfl (hself _))
  have hhint : ∀ {quiet : Event → Bool}, quiet (.containerRestartRequired "") →
      Without quiet (total :: hint :: rest) (total :: rest) :=
    fun he => .keep _ (.miss he (hself _))
  exact ⟨(progress_steers_nothing start hall).1, by decide, by decide,
    (progress_steers_nothing start (hhint rfl)).2 (hhint rfl)⟩

end Tracker

end TaskWatch
