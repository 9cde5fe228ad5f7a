/-
# The language of effects

What a tracker asks for, from its first effects to its last, is a word of a small regular
language that depends on how the tracking started, or the beginning of one
(`emitted_mem_language`).  `Start.Word` is that language, spelled out: a course through the
stream subscribes, may ask and subscribe again a limited number of times (`again`), and then
closes in one of eight ways (`Closing`).

So nothing is asked for twice that must not be: one watch over a restart at most, one
question for each broken stream, no question after the end, no attachment beyond the limit.
And once a tracker is settled the word is complete.

The proof reads words from the right.  `Owes t w` says that `w` is a way to go on from `t`:
what has been asked for already is divided off.  A move takes a way to go on after it to one
before it (`Move.owes`), and so does a run.
-/
import TaskWatch.Proofs.Tracker.Course

namespace TaskWatch

namespace Tracker

/-! ## 1. The words -/

/-- The outcomes of a watch over a restart. -/
inductive EndsWatch : Outcome → Prop
  | restartConfirmed : EndsWatch .restartConfirmed
  | restartTimeout : EndsWatch .restartTimeout
  | dismissed : EndsWatch .dismissed

/-- The outcomes that a terminal event settles a task with. -/
inductive Verdict : Outcome → Prop
  | completed : Verdict .completed
  | failed (message : String) : Verdict (.failed message)

/-- **The ends of a course through the stream.** -/
inductive Closing : List Effect → Prop
  | streamed {o : Outcome} (h : Verdict o) : Closing [.closeStream, .settle o]
  | streamedWatch {o : Outcome} (h : EndsWatch o) :
      Closing [.closeStream, .startProbe, .settle o]
  | cancelled : Closing [.remoteCancel, .settle .cancelled]
  | remembered {o : Outcome} (h : Verdict o ∨ o = .cancelled) :
      Closing [.queryFallback, .settle o]
  | rememberedWatch {o : Outcome} (h : EndsWatch o) :
      Closing [.queryFallback, .startProbe, .settle o]
  | cancelledAsking : Closing [.queryFallback, .remoteCancel, .settle .cancelled]
  | unknown : Closing [.queryFallback, .startGrace, .settle .refreshRequired]
  | cancelledInGrace :
      Closing [.queryFallback, .startGrace, .remoteCancel, .settle .cancelled]

/-- Ask and subscribe again, so many times. -/
def again (k : Nat) : List Effect :=
  (List.replicate k [Effect.queryFallback, .subscribe]).flatten

theorem again_succ (k : Nat) : again (k + 1) = .queryFallback :: .subscribe :: again k := by
  simp [again, List.replicate_succ]

/-- **What can follow a subscription** when it may be renewed `n` times. -/
def Rounds (n : Nat) (w : List Effect) : Prop :=
  ∃ k ≤ n, ∃ tail, Closing tail ∧ w = again k ++ tail

theorem Rounds.close {n : Nat} {w : List Effect} (h : Closing w) : Rounds n w :=
  ⟨0, Nat.zero_le n, w, h, rfl⟩

theorem Rounds.again {n : Nat} {w : List Effect} (h : Rounds n w) :
    Rounds (n + 1) (.queryFallback :: .subscribe :: w) := by
  obtain ⟨k, hk, tail, htail, rfl⟩ := h
  exact ⟨k + 1, Nat.succ_le_succ hk, tail, htail, by rw [again_succ]; rfl⟩

/-- **The words of a course**, by the way it starts. -/
def Start.Word : Start → List Effect → Prop
  | .streaming _ _ maxReattach, w => ∃ rest, Rounds maxReattach rest ∧ w = .subscribe :: rest
  | .awaitingRestart _ _, w => ∃ o, EndsWatch o ∧ w = [.startProbe, .settle o]
  | .ofInstall _ _ receipt, w =>
    if receipt.needRestart && receipt.autoRestart then
      ∃ o, EndsWatch o ∧ w = [.startProbe, .settle o]
    else if receipt.needRestart then
      w = [.settle (.manualRestartRequired
        (orDefault receipt.message "安装完成, 请手动重启服务"))]
    else w = [.settle .completed]

/-! ## 2. Ways to go on -/

/-- How often the stream may still be attached again. -/
def left (t : Tracker) : Nat :=
  t.maxReattach - t.reattached

/-- **A way to go on**: these effects may follow. -/
def Owes (t : Tracker) (w : List Effect) : Prop :=
  match t.phase with
  | .streaming => Rounds t.left w
  | .reconciling => Rounds t.left (.queryFallback :: w)
  | .degraded => Rounds t.left (.queryFallback :: .startGrace :: w)
  | .awaitingRestart => ∃ o, EndsWatch o ∧ w = [.settle o]
  | .settled _ => w = []

theorem owes_streaming {t : Tracker} {w : List Effect} (h : t.phase = .streaming) :
    t.Owes w ↔ Rounds t.left w := by
  simp only [Owes, h]

theorem owes_reconciling {t : Tracker} {w : List Effect} (h : t.phase = .reconciling) :
    t.Owes w ↔ Rounds t.left (.queryFallback :: w) := by
  simp only [Owes, h]

theorem owes_degraded {t : Tracker} {w : List Effect} (h : t.phase = .degraded) :
    t.Owes w ↔ Rounds t.left (.queryFallback :: .startGrace :: w) := by
  simp only [Owes, h]

theorem owes_awaitingRestart {t : Tracker} {w : List Effect} (h : t.phase = .awaitingRestart) :
    t.Owes w ↔ ∃ o, EndsWatch o ∧ w = [.settle o] := by
  simp only [Owes, h]

/-- A settled tracker asks for nothing more. -/
theorem owes_settled {t : Tracker} {w : List Effect} {o : Outcome} (h : t.phase = .settled o) :
    t.Owes w ↔ w = [] := by
  simp only [Owes, h]

/-- There always is one. -/
theorem exists_owes (t : Tracker) : ∃ w, t.Owes w := by
  unfold Owes
  cases t.phase with
  | streaming => exact ⟨_, .close .cancelled⟩
  | reconciling => exact ⟨_, .close .cancelledAsking⟩
  | degraded => exact ⟨_, .close .cancelledInGrace⟩
  | awaitingRestart => exact ⟨_, _, .dismissed, rfl⟩
  | settled outcome => exact ⟨_, rfl⟩

/-- A terminal event settles with a verdict. -/
theorem verdict_of_outcome? {event : Event} {o : Outcome} (h : event.outcome? = some o) :
    Verdict o := by
  cases event with
  | complete downloaded skipped failed needsRestart message =>
    cases needsRestart
    · cases h; exact .completed
    · cases h
  | done message => cases h; exact .completed
  | error message => cases h; exact .failed message
  | _ => cases h

/-- **What is owed after a terminal event**, with what the event itself asks for: a verdict,
or a watch over the restart. -/
theorem owes_close {t : Tracker} {event : Event} {w : List Effect}
    (h : (t.close event).1.Owes w) :
    (∃ o, Verdict o ∧ (t.close event).2 ++ w = [.settle o]) ∨
      ∃ o, EndsWatch o ∧ (t.close event).2 ++ w = [.startProbe, .settle o] := by
  unfold close at h ⊢
  cases ho : event.outcome? with
  | some o =>
    rw [ho] at h
    obtain rfl : w = [] := (owes_settled rfl).mp h
    exact .inl ⟨o, verdict_of_outcome? ho, rfl⟩
  | none =>
    rw [ho] at h
    obtain ⟨o, hend, rfl⟩ := (owes_awaitingRestart rfl).mp h
    exact .inr ⟨o, hend, rfl⟩

/-- **A move takes a way to go on after it to one before it.** -/
theorem Move.owes {t t' : Tracker} {signal : Signal} {effects w : List Effect}
    (h : Move t signal t' effects) (hw : t'.Owes w) : t.Owes (effects ++ w) := by
  cases h with
  | ignored | unwatched => exact hw
  | observed h => exact (owes_streaming h).mpr ((owes_streaming h).mp hw)
  | reported h => exact (owes_awaitingRestart h).mpr ((owes_awaitingRestart h).mp hw)
  | ended h he =>
    rw [owes_streaming h, List.cons_append]
    rcases owes_close hw with ⟨o, hv, heq⟩ | ⟨o, hend, heq⟩
    · rw [heq]
      exact .close (.streamed hv)
    · rw [heq]
      exact .close (.streamedWatch hend)
  | lost h =>
    have hrounds := (owes_reconciling rfl).mp hw
    exact (owes_streaming h).mpr hrounds
  | reconciled h he =>
    rw [owes_reconciling h]
    rcases owes_close hw with ⟨o, hv, heq⟩ | ⟨o, hend, heq⟩
    · rw [heq]
      exact .close (.remembered (.inl hv))
    · rw [heq]
      exact .close (.rememberedWatch hend)
  | foundCancelled h _ =>
    obtain rfl : w = [] := (owes_settled rfl).mp hw
    rw [owes_reconciling h]
    exact .close (.remembered (.inr rfl))
  | attachedAgain h _ hr =>
    have hrounds : Rounds (t.maxReattach - (t.reattached + 1)) w := (owes_streaming rfl).mp hw
    have hleft : t.left = t.maxReattach - (t.reattached + 1) + 1 := by
      unfold left
      omega
    rw [owes_reconciling h, hleft]
    exact hrounds.again
  | degraded message h _ =>
    have hrounds := (owes_degraded rfl).mp hw
    exact (owes_reconciling h).mpr hrounds
  | graceElapsed message h =>
    obtain rfl : w = [] := (owes_settled rfl).mp hw
    rw [owes_degraded h]
    exact .close .unknown
  | ready message h =>
    obtain rfl : w = [] := (owes_settled rfl).mp hw
    rw [owes_awaitingRestart h]
    exact ⟨_, .restartConfirmed, rfl⟩
  | timedOut message h =>
    obtain rfl : w = [] := (owes_settled rfl).mp hw
    rw [owes_awaitingRestart h]
    exact ⟨_, .restartTimeout, rfl⟩
  | dismissed h =>
    obtain rfl : w = [] := (owes_settled rfl).mp hw
    rw [owes_awaitingRestart h]
    exact ⟨_, .dismissed, rfl⟩
  | cancelled message h =>
    obtain rfl : w = [] := (owes_settled rfl).mp hw
    cases hp : t.phase with
    | streaming =>
      rw [owes_streaming hp]
      exact .close .cancelled
    | reconciling =>
      rw [owes_reconciling hp]
      exact .close .cancelledAsking
    | degraded =>
      rw [owes_degraded hp]
      exact .close .cancelledInGrace
    | awaitingRestart | settled outcome => simp [hp, Phase.inProgress] at h

/-- **So does a run.** -/
theorem Accord.owes_run {t : Tracker} (ht : t.Accord) {w : List Effect}
    (signals : List Signal) (hw : (t.run signals).1.Owes w) :
    t.Owes ((t.run signals).2 ++ w) := by
  induction signals generalizing t with
  | nil => exact hw
  | cons signal rest ih =>
    have hmove := apply_move ht signal
    rw [run_cons] at hw ⊢
    rw [List.append_assoc]
    exact hmove.owes (ih (hmove.accord ht) hw)

/-! ## 3. Courses -/

/-- A way to go on after the first effects completes a word. -/
theorem Start.word_begin (start : Start) {w : List Effect}
    (hw : start.tracker.begin.1.Owes w) : start.Word (start.tracker.begin.2 ++ w) := by
  cases start with
  | streaming id startedAt maxReattach => exact ⟨w, (owes_streaming rfl).mp hw, rfl⟩
  | awaitingRestart id startedAt =>
    obtain ⟨o, hend, rfl⟩ := (owes_awaitingRestart rfl).mp hw
    exact ⟨o, hend, rfl⟩
  | ofInstall id startedAt receipt =>
    obtain ⟨message, needRestart, autoRestart⟩ := receipt
    cases needRestart with
    | false =>
      obtain rfl : w = [] := (owes_settled rfl).mp hw
      rfl
    | true =>
      cases autoRestart with
      | false =>
        obtain rfl : w = [] := (owes_settled rfl).mp hw
        rfl
      | true =>
        obtain ⟨o, hend, rfl⟩ := (owes_awaitingRestart rfl).mp hw
        exact ⟨o, hend, rfl⟩

theorem Start.word_emitted (start : Start) (signals : List Signal) {w : List Effect}
    (hw : (start.reached signals).Owes w) : start.Word (start.emitted signals ++ w) := by
  rw [emitted, List.append_assoc]
  exact start.word_begin (start.accord_begin.owes_run signals hw)

/-- **What a course asks for is the beginning of a word of its language**, and a whole word
as soon as the task is settled. -/
theorem emitted_mem_language (start : Start) (signals : List Signal) :
    (∃ w, start.Word w ∧ start.emitted signals <+: w) ∧
      ((start.reached signals).phase.isSettled → start.Word (start.emitted signals)) := by
  constructor
  · obtain ⟨w, hw⟩ := exists_owes (start.reached signals)
    exact ⟨_, start.word_emitted signals hw, List.prefix_append _ _⟩
  · intro hs
    cases hp : (start.reached signals).phase with
    | settled outcome =>
      have hnil : (start.reached signals).Owes [] := (owes_settled hp).mpr rfl
      simpa using start.word_emitted signals hnil
    | _ => simp [hp, Phase.isSettled] at hs

/-- A stream that broke once, and then announced a restart that was seen to be over. -/
theorem emitted_mem_language_of_restart :
    let start := Start.streaming "a" "" 1
    let signals : List Signal :=
      [.streamEnded .closed, .fallback (.ok { found := true, status := some .running }),
        .stream (.restart ""), .probeResolved (.ready 5)]
    start.emitted signals =
        [.subscribe, .queryFallback, .subscribe, .closeStream, .startProbe,
          .settle .restartConfirmed] ∧
      start.Word (start.emitted signals) :=
  ⟨by decide, (emitted_mem_language _ _).2 (by decide)⟩

end Tracker

end TaskWatch
