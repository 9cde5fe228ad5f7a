/-
# The ruling on a cancellation

A cancellation is put behind all that the run has still to hear, and by the time it is heard the
task may be settled.  What comes of it is decided by the signals ahead of it in the queue.

**`Tracker.Ruling`** lists the ways.  The cancellation settles the task itself; or a signal ahead
has settled it, and then it is too late; or that signal was the server's memory of a cancellation,
which leaves the same outcome as the user's own.  Behind every queue there is a ruling
(**`Accord.exists_ruling`**), and it takes one signal after another
(**`Ruling.cons_cases`**).
-/
import TaskWatch.Proofs.Console.Cancellation

namespace TaskWatch

/-- **How the call answers**, when the run has ended with an outcome. -/
def Outcome.answer : Outcome → Reply
  | .cancelled | .dismissed => .cancelled
  | _ => .refused .noActiveTask

/-! ## 1. What settles a task -/

/-- A task that ends by itself is neither cancelled nor dismissed. -/
theorem Event.outcome?_ne {event : Event} {o : Outcome} (h : event.outcome? = some o) :
    o ≠ .cancelled ∧ o ≠ .dismissed := by
  cases event with
  | complete downloaded skipped failed needsRestart message =>
    simp only [outcome?] at h
    split at h <;> cases h
    simp
  | done message | error message =>
    cases h
    simp
  | _ => cases h

namespace Tracker

variable {t t' : Tracker} {signal : Signal} {effects : List Effect} {o : Outcome}

theorem close_outcome_ne {event : Event} (h : (t.close event).1.phase = .settled o) :
    o ≠ .cancelled ∧ o ≠ .dismissed := by
  rw [close_phase] at h
  cases he : event.outcome? with
  | none =>
    rw [he] at h
    cases h
  | some o' =>
    rw [he] at h
    cases h
    exact Event.outcome?_ne he

/-- **Only the user has the server told** to stop the task. -/
theorem Move.remoteCancel_not_mem_of_ne (h : Move t signal t' effects) (hne : signal ≠ .cancel) :
    .remoteCancel ∉ effects := by
  cases h with
  | ended => simp [remoteCancel_not_mem_close]
  | reconciled => exact remoteCancel_not_mem_close _ _
  | dismissed | cancelled => exact absurd rfl hne
  | _ => simp

/-- **A signal that is not the user's settles a task** with another outcome than a cancellation,
or by the server's memory of one. -/
theorem Move.settles (h : Move t signal t' effects) (hne : signal ≠ .cancel)
    (hp : t.phase.isSettled = false) (hp' : t'.phase = .settled o) :
    (o ≠ .cancelled ∧ o ≠ .dismissed) ∨
      (o = .cancelled ∧ t.phase = .reconciling ∧
        ∃ snapshot, signal = .fallback (.ok snapshot) ∧ snapshot.wasCancelled) := by
  cases h with
  | ignored | observed | reported | unwatched =>
    have hsame : t.phase = .settled o := hp'
    simp [hsame, Phase.isSettled] at hp
  | ended | reconciled => exact .inl (close_outcome_ne hp')
  | lost | attachedAgain | degraded => cases hp'
  | foundCancelled hphase hs =>
    cases hp'
    exact .inr ⟨rfl, hphase, _, rfl, hs⟩
  | graceElapsed | ready | timedOut =>
    cases hp'
    simp
  | dismissed | cancelled => exact absurd rfl hne

/-- **The server's memory of a cancellation settles the task** that is asked about. -/
theorem settled_of_wasCancelled (hp : t.phase = .reconciling) {snapshot : Snapshot} (hs : snapshot.wasCancelled) :
    (t.apply (.fallback (.ok snapshot))).1.phase = .settled .cancelled := by
  obtain ⟨hfound, hstatus⟩ : snapshot.found ∧ snapshot.status = some .cancelled := by
    simpa [Snapshot.wasCancelled] using hs
  simp [apply, onFallback, hp, Snapshot.terminalEvent?, hfound, hstatus, settle]

/-- A settled tracker is the same after any signals. -/
theorem run_of_isSettled (hp : t.phase.isSettled) (signals : List Signal) :
    (t.run signals).1 = t := by
  refine run_keeps (P := (· = t)) (fun u signal hu => ?_) rfl signals
  subst hu
  cases ho : u.phase with
  | settled o =>
    rw [apply_of_not_heeds (by rw [ho, heeds_settled])]
  | _ => simp [ho, Phase.isSettled] at hp

/-- A cancellation comes to one thing. -/
theorem Cancels.unique {calls calls' : List String} (h : Cancels t t' calls)
    (h' : Cancels t t' calls') : calls = calls' := by
  cases h with
  | stopped hp hs hp' hs' =>
    cases h' with
    | stopped => rfl
    | dismissed hq => simp [hq, Phase.inProgress] at hp
  | dismissed hp =>
    cases h' with
    | stopped hq => simp [hp, Phase.inProgress] at hq
    | dismissed => rfl

/-! ## 2. The ruling -/

/-- **What a cancellation comes to** behind the signals of a queue: the reply of the call, and the
tasks that the server is told to stop. -/
inductive Ruling (t : Tracker) (queue : List Signal) : Reply → List String → Prop
  /-- The signals ahead leave the task unsettled, and the cancellation settles it. -/
  | cancels {calls : List String} (hp : (t.run queue).1.phase.isSettled = false)
      (h : Cancels (t.run queue).1 ((t.run queue).1.apply .cancel).1 calls) :
      Ruling t queue .cancelled calls
  /-- A signal ahead settles the task: it ends, or nobody will know how it has. -/
  | late {before after : List Signal} {signal : Signal} {o : Outcome}
      (hq : queue = before ++ signal :: after) (hp : (t.run before).1.phase.isSettled = false)
      (ho : ((t.run before).1.apply signal).1.phase = .settled o)
      (hne : o ≠ .cancelled ∧ o ≠ .dismissed) : Ruling t queue (.refused .noActiveTask) []
  /-- A signal ahead settles the task: the server remembers that it was cancelled. -/
  | found {before after : List Signal} {snapshot : Snapshot}
      (hq : queue = before ++ .fallback (.ok snapshot) :: after)
      (hp : (t.run before).1.phase = .reconciling) (hs : snapshot.wasCancelled) :
      Ruling t queue .cancelled []

variable {rest : List Signal} {reply : Reply} {calls : List String}

/-- One signal more ahead, and the task goes on with it. -/
theorem Ruling.cons (h : (t.apply signal).1.Ruling rest reply calls) :
    t.Ruling (signal :: rest) reply calls := by
  cases h with
  | cancels hp h => exact .cancels (by rwa [run_cons]) (by rwa [run_cons])
  | @late before after last _ hq hp ho hne =>
    have hq' : signal :: rest = (signal :: before) ++ last :: after := congrArg (signal :: ·) hq
    refine .late hq' ?_ ?_ hne
    · rwa [run_cons]
    · rwa [run_cons]
  | @found before after snapshot hq hp hs =>
    have hq' : signal :: rest = (signal :: before) ++ .fallback (.ok snapshot) :: after :=
      congrArg (signal :: ·) hq
    refine .found hq' ?_ hs
    rwa [run_cons]

/-- **There is a ruling** behind any queue without a cancellation. -/
theorem Accord.exists_ruling (ha : t.Accord) (hp : t.phase.isSettled = false)
    {queue : List Signal} (hq : .cancel ∉ queue) :
    ∃ reply calls, t.Ruling queue reply calls := by
  induction queue generalizing t with
  | nil =>
    obtain ⟨calls, hcancels, -⟩ := ha.cancels hp
    exact ⟨.cancelled, calls, .cancels hp hcancels⟩
  | cons signal rest ih =>
    obtain ⟨hne, hrest⟩ : .cancel ≠ signal ∧ .cancel ∉ rest := by simpa using hq
    have hmove := apply_move ha signal
    have hfirst : signal :: rest = [] ++ signal :: rest := rfl
    cases hp' : (t.apply signal).1.phase with
    | settled o =>
      rcases hmove.settles (Ne.symm hne) hp hp' with ho | ⟨rfl, hphase, snapshot, rfl, hs⟩
      · exact ⟨_, _, .late hfirst hp hp' ho⟩
      · exact ⟨_, _, .found hfirst hphase hs⟩
    | _ =>
      obtain ⟨reply, calls, hruling⟩ := ih (hmove.accord ha) (by rw [hp']; rfl) hrest
      exact ⟨reply, calls, hruling.cons⟩

/-- **With nothing ahead, the cancellation settles the task.** -/
theorem Ruling.nil_cases (h : t.Ruling [] reply calls) :
    reply = .cancelled ∧ Cancels t (t.apply .cancel).1 calls := by
  cases h with
  | cancels hp h => exact ⟨rfl, h⟩
  | late hq | found hq => simp at hq

/-- **The first signal ahead** settles the task, or leaves the ruling to the others. -/
theorem Ruling.cons_cases (h : t.Ruling (signal :: rest) reply calls) :
    ((t.apply signal).1.phase.isSettled = false ∧ (t.apply signal).1.Ruling rest reply calls) ∨
      ∃ o, (t.apply signal).1.phase = .settled o ∧ reply = o.answer ∧ calls = [] := by
  -- a signal that settles the task is the last one to change anything
  have hgoes : ∀ signals, ((t.apply signal).1.run signals).1.phase.isSettled = false →
      (t.apply signal).1.phase.isSettled = false := by
    intro signals hp
    refine Bool.eq_false_iff.mpr fun hp' => ?_
    rw [run_of_isSettled hp', hp'] at hp
    cases hp
  cases h with
  | cancels hp h =>
    rw [run_cons] at hp h
    exact .inl ⟨hgoes rest hp, .cancels hp h⟩
  | @late before _ _ o hq hp ho hne =>
    cases before with
    | nil =>
      cases hq
      refine .inr ⟨o, ho, ?_, rfl⟩
      cases o <;> simp_all [Outcome.answer]
    | cons first before =>
      cases hq
      rw [run_cons] at hp ho
      exact .inl ⟨hgoes before hp, .late rfl hp ho hne⟩
  | @found before _ snapshot hq hp hs =>
    cases before with
    | nil =>
      cases hq
      exact .inr ⟨.cancelled, settled_of_wasCancelled hp hs, rfl, rfl⟩
    | cons first before =>
      cases hq
      rw [run_cons] at hp
      exact .inl ⟨hgoes before (by rw [hp]; rfl), .found rfl hp hs⟩

end Tracker

end TaskWatch
