/-
# What a source says

Every source works for one phase of the tracker (`Source.phase`), and it speaks to that
phase only: some words that leave the phase as it is, and one last word that does not
(`Signal.closes`).  After its last word a source is over, and it is over only after that,
unless it was cancelled.

`Post p said signals` says that of a queue: its signals are words for the phase `p`, with
the last word of a source among them or not yet (`said`), and behind the last word there is
nothing but what the user sends.

**`Source.poll_post`**: what a source that is not cancelled says in one step is such a queue,
and the last word is in it exactly when the source is over after the step.  No source ever says
what the user does (**`Source.cancel_not_mem_saying`**).
-/
import TaskWatch.Source
import TaskWatch.Proofs.Tracker.Move

namespace TaskWatch

/-! ## 1. Words -/

/-- **The last word of a source.**  A watch that was called off has none. -/
def Signal.closes : Signal → Bool
  | .stream event => event.isTerminal
  | .streamEnded _ | .fallback _ | .graceElapsed => true
  | .probeResolved outcome => outcome ≠ .cancelled
  | .probe _ | .cancel => false

/-- A word of a source that is not its last. -/
def Signal.isWord : Signal → Bool
  | .stream event => !event.isTerminal
  | .probe _ => true
  | _ => false

/-- No word is a last word. -/
theorem Signal.closes_of_isWord {signal : Signal} (h : signal.isWord) :
    signal.closes = false := by
  cases signal with
  | stream event => simpa [isWord, closes] using h
  | probe report => rfl
  | streamEnded | fallback | graceElapsed | probeResolved | cancel => cases h

/-- **A queue of words for a phase**, and whether the last one has been said. -/
inductive Post (p : Phase) : Bool → List Signal → Prop
  | nil : Post p false []
  /-- The user may cancel at any time. -/
  | cancel {said : Bool} {rest : List Signal} (h : Post p said rest) :
      Post p said (.cancel :: rest)
  | word {said : Bool} {signal : Signal} {rest : List Signal} (hp : signal.phase? = some p)
      (hw : signal.isWord) (h : Post p said rest) : Post p said (signal :: rest)
  | last {signal : Signal} {rest : List Signal} (hp : signal.phase? = some p)
      (hc : signal.closes) (h : ∀ s ∈ rest, s = .cancel) : Post p true (signal :: rest)

namespace Post

variable {p : Phase} {said : Bool} {signals : List Signal}

/-- What is said before the last word only goes on. -/
theorem append (h : Post p false signals) {more : List Signal} (hm : Post p said more) :
    Post p said (signals ++ more) := by
  generalize hs : false = b at h
  induction h with
  | nil => exact hm
  | cancel _ ih => exact .cancel (ih hs)
  | word hp hw _ ih => exact .word hp hw (ih hs)
  | last => cases hs

/-- The user may cancel, whatever has been said. -/
theorem append_cancel (h : Post p said signals) : Post p said (signals ++ [.cancel]) := by
  induction h with
  | nil => exact .cancel .nil
  | cancel _ ih => exact .cancel ih
  | word hp hw _ ih => exact .word hp hw ih
  | last hp hc h =>
    refine .last hp hc fun s hs => ?_
    rcases List.mem_append.mp hs with hs | hs
    · exact h s hs
    · exact List.mem_singleton.mp hs

/-- Where nobody but the user has spoken, nothing has been said. -/
theorem of_cancels (h : ∀ s ∈ signals, s = .cancel) : Post p false signals := by
  induction signals with
  | nil => exact .nil
  | cons s signals ih =>
    obtain ⟨rfl, hrest⟩ := List.forall_mem_cons.mp h
    exact .cancel (ih hrest)

/-- **The first signal of a queue** is the last word, or leaves it to the others. -/
theorem cons_cases {signal : Signal} {rest : List Signal} (h : Post p said (signal :: rest)) :
    (signal.closes = false ∧ Post p said rest) ∨
      (signal.phase? = some p ∧ signal.closes ∧ said ∧ ∀ s ∈ rest, s = .cancel) := by
  cases h with
  | cancel h => exact .inl ⟨rfl, h⟩
  | word hp hw h => exact .inl ⟨Signal.closes_of_isWord hw, h⟩
  | last hp hc h => exact .inr ⟨hp, hc, rfl, h⟩

/-- **Everything in the queue is meant for the phase**, what the user sends apart. -/
theorem phase?_of_mem (h : Post p said signals) {signal : Signal} (hs : signal ∈ signals) :
    signal = .cancel ∨ signal.phase? = some p := by
  induction h with
  | nil => cases hs
  | cancel _ ih =>
    rcases List.mem_cons.mp hs with rfl | hs
    · exact .inl rfl
    · exact ih hs
  | word hp _ _ ih =>
    rcases List.mem_cons.mp hs with rfl | hs
    · exact .inr hp
    · exact ih hs
  | last hp _ h =>
    rcases List.mem_cons.mp hs with rfl | hs
    · exact .inr hp
    · exact .inl (h signal hs)

/-- **The last word is in the queue** once it has been said. -/
theorem exists_closes (h : Post p true signals) : ∃ signal ∈ signals, signal.closes := by
  generalize hs : true = b at h
  induction h with
  | nil => cases hs
  | cancel _ ih | word _ _ _ ih =>
    obtain ⟨signal, hmem, hc⟩ := ih hs
    exact ⟨signal, List.mem_cons_of_mem _ hmem, hc⟩
  | last _ hc => exact ⟨_, List.mem_cons_self, hc⟩

end Post

/-! ## 2. Sources -/

/-- The signal that a deed sends. -/
def Deed.signal? : Deed → Option Signal
  | .send signal => some signal
  | _ => none

/-- The phase that a source works for. -/
def Source.phase : Source → Phase
  | .subscriber .. => .streaming
  | .inquiry .. => .reconciling
  | .grace .. => .degraded
  | .probe _ => .awaitingRestart

/-- The task that a source asks about. -/
def Source.taskId? : Source → Option String
  | .subscriber taskId _ _ | .inquiry taskId _ => some taskId
  | .grace .. | .probe _ => none

/-- What a subscriber passes on. -/
theorem Delivery.post_signal (d : Delivery) : Post .streaming d.isLast [d.signal] := by
  cases d with
  | event e =>
    cases he : e.isTerminal with
    | true =>
      rw [isLast, he]
      exact .last rfl he (by simp)
    | false =>
      rw [isLast, he]
      exact .word rfl (by simp [signal, Signal.isWord, he]) .nil
  | error e => exact .last rfl rfl (by simp)
  | closed => exact .last rfl rfl (by simp)

namespace Source

/-- A source that is over does nothing more. -/
theorem poll_of_isOver {s : Source} (h : s.isOver) (now : Nat) (cancelled : Bool)
    (news : Option News) : s.poll now cancelled news = none := by
  cases s with
  | subscriber taskId idle stage =>
    cases stage with
    | ended => rfl
    | _ => cases h
  | inquiry taskId stage =>
    cases stage with
    | ended => rfl
    | _ => cases h
  | grace length stage =>
    cases stage with
    | ended => rfl
    | _ => cases h
  | probe stage =>
    cases stage with
    | ended outcome => rfl
    | _ => cases h

/-- **A source goes on with its own work.** -/
theorem poll_same {s s' : Source} {now : Nat} {cancelled : Bool} {news : Option News}
    {deeds : List Deed} (h : s.poll now cancelled news = some (s', deeds)) :
    s'.phase = s.phase ∧ s'.taskId? = s.taskId? := by
  cases s <;>
    · simp only [poll, Option.bind_eq_bind, Option.bind_eq_some_iff, Option.some.injEq] at h
      obtain ⟨⟨stage, more⟩, -, heq⟩ := h
      cases heq
      exact ⟨rfl, rfl⟩

end Source

/-! ## 3. One step of a source -/

/-- What some deeds say. -/
def saying (deeds : List Deed) : List Signal :=
  deeds.filterMap Deed.signal?

theorem Subscriber.Stage.poll_post {stage stage' : Stage} {idle now : Nat} {news : Option News}
    {deeds : List Deed} (taskId : String)
    (h : stage.poll idle now false news = some (stage', deeds)) :
    Post .streaming (stage' = .ended)
      (saying (deeds.map (Source.ofSubscriberDeed taskId))) := by
  cases stage with
  | fresh =>
    cases h
    exact .nil
  | attaching deadline =>
    simp only [poll, Bool.false_eq_true, if_false] at h
    split at h
    · cases h
      exact .nil
    · cases h
      exact .last rfl rfl (by simp)
    · split at h
      · cases h
        exact .last rfl rfl (by simp)
      · cases h
  | reading deadline =>
    simp only [poll, Bool.false_eq_true, if_false] at h
    split at h
    · rename_i d
      have hsays := d.post_signal
      split at h
      · rename_i hlast
        cases h
        rwa [hlast] at hsays
      · rename_i hlast
        cases h
        rwa [Bool.eq_false_iff.mpr hlast] at hsays
    · split at h
      · cases h
        exact .last rfl rfl (by simp)
      · cases h
  | ended => cases h

theorem Inquiry.poll_post {stage stage' : Inquiry} {taskId : String} {news : Option News}
    {deeds : List Deed} (h : stage.poll taskId false news = some (stage', deeds)) :
    Post .reconciling (stage' = .ended) (saying deeds) := by
  cases stage with
  | fresh =>
    cases h
    exact .nil
  | asking =>
    simp only [poll, Bool.false_eq_true, if_false] at h
    split at h
    · cases h
      exact .last rfl rfl (by simp)
    · cases h
  | ended => cases h

theorem Grace.poll_post {stage stage' : Grace} {length now : Nat} {deeds : List Deed}
    (h : stage.poll length now false = some (stage', deeds)) :
    Post .degraded (stage' = .ended) (saying deeds) := by
  cases stage with
  | fresh =>
    cases h
    exact .nil
  | waiting deadline =>
    simp only [poll, Bool.false_eq_true, if_false] at h
    split at h
    · cases h
      exact .last rfl rfl (by simp)
    · cases h
  | ended => cases h

/-! A watch reports, and checks; what it says at its end is its farewell. -/

/-- The reports of a watch are words. -/
theorem Probe.post_reports (deeds : List Probe.Deed) :
    Post .awaitingRestart false (saying (deeds.map Source.ofProbeDeed)) := by
  induction deeds with
  | nil => exact .nil
  | cons deed deeds ih =>
    cases deed with
    | report r => exact .word rfl rfl ih
    | check => exact ih

/-- The end of a watch that was not called off is its last word. -/
theorem Probe.post_farewell {stage : Probe.Stage} (h : stage ≠ .ended .cancelled) :
    Post .awaitingRestart (Source.probe stage).isOver (saying (Source.farewell false stage)) := by
  cases stage with
  | ended outcome =>
    have hc : outcome ≠ .cancelled := fun ho => h (congrArg _ ho)
    exact .last rfl (by simp [Signal.closes, hc]) (by simp)
  | fresh | checking | pausing => exact .nil

/-- A watch that is not called off does not end as one that is. -/
theorem Probe.Stage.poll_ne_cancelled {stage stage' : Stage} {now : Nat} {answer : Option Bool}
    {deeds : List Deed} (h : stage.poll now false answer = some (stage', deeds)) :
    stage' ≠ .ended .cancelled := by
  have hround : ∀ p : Probe, (p.round now false).1 ≠ .ended .cancelled := by
    intro p
    by_cases hb : p.settings.budget ≤ p.elapsed now <;> simp [Probe.round, hb]
  have hanswered : ∀ (p : Probe) up, (p.answered now up).1 ≠ .ended .cancelled := by
    intro p up
    unfold Probe.answered
    split <;> simp
  cases stage with
  | fresh settings =>
    simp only [poll, Option.some.injEq, Prod.mk.injEq] at h
    obtain ⟨rfl, -⟩ := h
    exact hround _
  | checking p deadline =>
    simp only [poll, Bool.false_eq_true, if_false] at h
    split at h
    · rename_i up
      have heq := congrArg Prod.fst (Option.some.inj h)
      rw [← show _ = stage' from heq]
      exact hanswered p up
    · split at h
      · cases h
        simp
      · cases h
  | pausing p =>
    simp only [poll, Bool.false_eq_true, if_false] at h
    split at h
    · have heq := congrArg Prod.fst (Option.some.inj h)
      rw [← show _ = stage' from heq]
      exact hround _
    · cases h
  | ended outcome => cases h

/-- **What a source says in one step** is meant for its phase, and it has said its last word
exactly when it is over. -/
theorem Source.poll_post {s s' : Source} {now : Nat} {news : Option News} {deeds : List Deed}
    (h : s.poll now false news = some (s', deeds)) : Post s.phase s'.isOver (saying deeds) := by
  cases s with
  | subscriber taskId idle stage =>
    simp only [poll, Option.bind_eq_bind, Option.bind_eq_some_iff, Option.some.injEq] at h
    obtain ⟨⟨stage', more⟩, hstage, heq⟩ := h
    cases heq
    have := Subscriber.Stage.poll_post taskId hstage
    cases stage' <;> exact this
  | inquiry taskId stage =>
    simp only [poll, Option.bind_eq_bind, Option.bind_eq_some_iff, Option.some.injEq] at h
    obtain ⟨⟨stage', more⟩, hstage, heq⟩ := h
    cases heq
    have := Inquiry.poll_post hstage
    cases stage' <;> exact this
  | grace length stage =>
    simp only [poll, Option.bind_eq_bind, Option.bind_eq_some_iff, Option.some.injEq] at h
    obtain ⟨⟨stage', more⟩, hstage, heq⟩ := h
    cases heq
    have := Grace.poll_post hstage
    cases stage' <;> exact this
  | probe stage =>
    simp only [poll, Option.bind_eq_bind, Option.bind_eq_some_iff, Option.some.injEq] at h
    obtain ⟨⟨stage', more⟩, hstage, heq⟩ := h
    cases heq
    rw [saying, List.filterMap_append]
    exact (Probe.post_reports more).append
      (Probe.post_farewell (Probe.Stage.poll_ne_cancelled hstage))

/-! ## 4. What no source says

A queue may hold a cancellation anywhere, and only the user sends one. -/

theorem Delivery.signal_ne_cancel (d : Delivery) : d.signal ≠ .cancel := by
  cases d <;> simp [signal]

theorem Subscriber.Stage.cancel_not_mem {stage stage' : Stage} {idle now : Nat}
    {cancelled : Bool} {news : Option News} {deeds : List Deed}
    (h : stage.poll idle now cancelled news = some (stage', deeds)) : .send .cancel ∉ deeds := by
  have hsignal := Delivery.signal_ne_cancel
  cases stage <;> simp only [poll] at h <;> grind

theorem Inquiry.cancel_not_mem {stage stage' : Inquiry} {taskId : String} {cancelled : Bool}
    {news : Option News} {deeds : List Deed}
    (h : stage.poll taskId cancelled news = some (stage', deeds)) : .send .cancel ∉ deeds := by
  cases stage <;> simp only [poll] at h <;> grind

theorem Grace.cancel_not_mem {stage stage' : Grace} {length now : Nat} {cancelled : Bool}
    {deeds : List Deed} (h : stage.poll length now cancelled = some (stage', deeds)) :
    .send .cancel ∉ deeds := by
  cases stage <;> simp only [poll] at h <;> grind

theorem Probe.Stage.cancel_not_mem (stage : Stage) (cancelled : Bool) (deeds : List Deed) :
    .send .cancel ∉ deeds.map Source.ofProbeDeed ++ Source.farewell cancelled stage := by
  intro hmem
  rcases List.mem_append.mp hmem with hmem | hmem
  · obtain ⟨deed, -, heq⟩ := List.mem_map.mp hmem
    cases deed <;> cases heq
  · unfold Source.farewell at hmem
    grind

/-- **No source cancels**, whether it is cancelled itself or not. -/
theorem Source.cancel_not_mem_saying {s s' : Source} {now : Nat} {cancelled : Bool}
    {news : Option News} {deeds : List Deed}
    (h : s.poll now cancelled news = some (s', deeds)) : .cancel ∉ saying deeds := by
  intro hmem
  obtain ⟨deed, hdeed, heq⟩ := List.mem_filterMap.mp hmem
  obtain rfl : deed = .send .cancel := by
    cases deed with
    | send signal => exact congrArg Deed.send (Option.some.inj heq)
    | ask | await => cases heq
  cases s with
  | subscriber taskId idle stage =>
    simp only [poll, Option.bind_eq_bind, Option.bind_eq_some_iff, Option.some.injEq] at h
    obtain ⟨⟨stage', more⟩, hstage, heq⟩ := h
    cases heq
    obtain ⟨deed, hdeed, heq⟩ := List.mem_map.mp hdeed
    cases deed with
    | send signal =>
      cases heq
      exact Subscriber.Stage.cancel_not_mem hstage hdeed
    | attach | await => cases heq
  | inquiry taskId stage =>
    simp only [poll, Option.bind_eq_bind, Option.bind_eq_some_iff, Option.some.injEq] at h
    obtain ⟨⟨stage', more⟩, hstage, heq⟩ := h
    cases heq
    exact Inquiry.cancel_not_mem hstage hdeed
  | grace length stage =>
    simp only [poll, Option.bind_eq_bind, Option.bind_eq_some_iff, Option.some.injEq] at h
    obtain ⟨⟨stage', more⟩, hstage, heq⟩ := h
    cases heq
    exact Grace.cancel_not_mem hstage hdeed
  | probe stage =>
    simp only [poll, Option.bind_eq_bind, Option.bind_eq_some_iff, Option.some.injEq] at h
    obtain ⟨⟨stage', more⟩, -, heq⟩ := h
    cases heq
    exact Probe.Stage.cancel_not_mem _ _ _ hdeed

end TaskWatch
