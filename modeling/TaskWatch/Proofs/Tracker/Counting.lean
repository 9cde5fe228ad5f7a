/-
# What is counted, and what is announced

The tally of a record is written in two ways.  While the stream is attached, an event about
one file adds one to one of three counters (`Tally.add`).  And a complete event, or the
server's memory of a completed task, brings three numbers of its own, which take the place of
what was counted (`Event.numbers?`).

A history says which of the two it is, as long as it remembers the phase in which each signal
came: `Tracker.heard` is the list of all events that came while the stream was attached, the
first attachment and the later ones alike, and `Tracker.announced?` is what was announced
first.  By induction along the course (`Accord.tally_run`) the tally is what was announced,
and otherwise the count of what was heard.  The counters are words, so the count is exact for
fewer than `UInt64.size` signals (**`tally_reached`**).

Nothing is lost and nothing counted twice, because one signal adds what it brings when it is
heard and never again: an event that comes after the end of the task, or while the stream is
lost, is not heard at all.
-/
import TaskWatch.Proofs.Tracker.Finality

namespace TaskWatch

/-! ## 1. What an event counts as -/

namespace Event

def isSuccess : Event → Bool
  | success .. => true
  | _ => false

/-- A skipped file, for whatever reason it was skipped. -/
def isSkip : Event → Bool
  | skip .. | skipHash .. => true
  | _ => false

def isFailure : Event → Bool
  | failed .. => true
  | _ => false

/-- An event about one file that is done with. -/
def isCounted (e : Event) : Bool :=
  e.isSuccess || e.isSkip || e.isFailure

/-- **The final numbers** that an event announces. -/
def numbers? : Event → Option Tally
  | complete downloads skips failures _ _ => some ⟨downloads, skips, failures⟩
  | _ => none

theorem isTerminal_of_numbers? {event : Event} {tally : Tally}
    (h : event.numbers? = some tally) : event.isTerminal := by
  cases event <;> first | rfl | cases h

end Event

/-- **The final numbers of a completed task** that the server remembers. -/
def Snapshot.numbers? (s : Snapshot) : Option Tally :=
  if s.found && s.status = some .completed then some ⟨s.downloaded, s.skipped, s.failed⟩
  else none

/-- They are those of the event that the snapshot amounts to. -/
theorem Snapshot.numbers?_eq (s : Snapshot) :
    s.numbers? = s.terminalEvent?.bind Event.numbers? := by
  unfold numbers? terminalEvent?
  cases s.found with
  | false => rfl
  | true =>
    cases s.status with
    | none => rfl
    | some status => cases status <;> simp [Event.numbers?]

/-- A task that was not completed has no final numbers. -/
theorem Snapshot.numbers?_eq_none {s : Snapshot} (h : s.status ≠ some .completed) :
    s.numbers? = none := by
  simp [numbers?, h]

/-- **One event more** in the tally. -/
def Tally.add (n : Tally) : Event → Tally
  | .success .. => { n with downloaded := n.downloaded + 1 }
  | .skip .. | .skipHash .. => { n with skipped := n.skipped + 1 }
  | .failed .. => { n with failed := n.failed + 1 }
  | _ => n

theorem Tally.add_of_not_isCounted (n : Tally) {event : Event} (h : event.isCounted = false) :
    n.add event = n := by
  cases event <;> first | rfl | cases h

/-- A terminal event is not about one file. -/
theorem Tally.add_of_isTerminal (n : Tally) {event : Event} (h : event.isTerminal) :
    n.add event = n := by
  cases event <;> first | rfl | cases h

/-- **A counter of the tally**: where it stands, and what it counts. -/
structure Tally.Counter where
  read : Tally → UInt64
  counts : Event → Bool
  read_empty : read {} = 0
  read_add : ∀ n event, read (n.add event) = read n + if counts event then 1 else 0

namespace Tally.Counter

def downloaded : Counter where
  read := Tally.downloaded
  counts := Event.isSuccess
  read_empty := rfl
  read_add n event := by cases event <;> simp [add, Event.isSuccess]

def skipped : Counter where
  read := Tally.skipped
  counts := Event.isSkip
  read_empty := rfl
  read_add n event := by cases event <;> simp [add, Event.isSkip]

def failed : Counter where
  read := Tally.failed
  counts := Event.isFailure
  read_empty := rfl
  read_add n event := by cases event <;> simp [add, Event.isFailure]

/-- A counter goes up by the number of events that it counts, as far as words go. -/
theorem read_foldl (c : Counter) (events : List Event) (n : Tally) :
    c.read (events.foldl Tally.add n) = c.read n + .ofNat (events.countP c.counts) := by
  induction events generalizing n with
  | nil => simp
  | cons event rest ih =>
    rw [List.foldl_cons, ih, c.read_add, List.countP_cons, UInt64.ofNat_add]
    cases c.counts event with
    | false => simp
    | true =>
      simp only [if_true]
      rw [UInt64.add_assoc, UInt64.add_comm 1]
      rfl

/-- **From nothing, and while words suffice, a counter is the number of events.** -/
theorem toNat_read_foldl (c : Counter) {events : List Event}
    (hlt : events.length < UInt64.size) :
    (c.read (events.foldl Tally.add {})).toNat = events.countP c.counts := by
  have hcount : events.countP c.counts ≤ events.length := List.countP_le_length
  rw [read_foldl, c.read_empty, UInt64.zero_add, UInt64.toNat_ofNat']
  exact Nat.mod_eq_of_lt (Nat.lt_of_le_of_lt hcount hlt)

end Tally.Counter

/-! ## 2. Who writes the tally -/

namespace Task

theorem tally_push (t : Task) (message : String) : (t.push message).tally = t.tally := by
  rw [push_eq]

theorem tally_observe (t : Task) (event : Event) :
    (t.observe event).tally = t.tally.add event := by
  cases event with
  | compareResult toDownload unchanged message =>
    rw [observe, tally_push]
    split <;> rfl
  | progress current total filename message =>
    rw [observe]
    split
    · rw [tally_push]
      rfl
    · split
      · rw [tally_push]
        rfl
      · rfl
  | info | total | success | skip | skipHash | failed | containerRestartRequired =>
    rw [observe, tally_push]
    rfl
  | complete | restart | done | error | unknown => rfl

/-- Of the terminal events only a complete one has numbers. -/
theorem tally_close (t : Task) (event : Event) :
    (t.close event).tally = event.numbers?.getD t.tally := by
  cases event with
  | complete | restart | done => exact tally_push _ _
  | error message => exact tally_push _ _
  | _ => rfl

/-- The record of a task that has ended keeps its tally. -/
theorem Frozen.tally_eq {t u : Task} (h : t.Frozen u) : u.tally = t.tally := by
  rw [h]

end Task

namespace Tracker

/-! ## 3. What a signal brings -/

/-- The event that a signal brings while the stream is attached. -/
def hears? (t : Tracker) : Signal → Option Event
  | .stream event => if t.phase = .streaming then some event else none
  | _ => none

/-- **The final numbers that a signal brings**, of a complete event while the stream is
attached or of a completed task while the server is asked. -/
def accepts? (t : Tracker) : Signal → Option Tally
  | .stream event => if t.phase = .streaming then event.numbers? else none
  | .fallback (.ok snapshot) => if t.phase = .reconciling then snapshot.numbers? else none
  | _ => none

/-- A signal that nobody waits for brings nothing. -/
theorem brings_nothing {t : Tracker} {signal : Signal} (h : t.phase.heeds signal = false) :
    t.hears? signal = none ∧ t.accepts? signal = none := by
  cases signal with
  | stream event =>
    have hp : t.phase ≠ .streaming := (not_heeds_iff rfl).mp h
    exact ⟨if_neg hp, if_neg hp⟩
  | fallback answer =>
    have hp : t.phase ≠ .reconciling := (not_heeds_iff rfl).mp h
    cases answer with
    | ok snapshot => exact ⟨rfl, if_neg hp⟩
    | error e => exact ⟨rfl, rfl⟩
  | _ => exact ⟨rfl, rfl⟩

theorem accepts?_fallback {t : Tracker} (h : t.phase = .reconciling) (snapshot : Snapshot) :
    t.accepts? (.fallback (.ok snapshot)) = snapshot.numbers? :=
  if_pos h

/-- **What every move writes into the tally**: the final numbers that the signal brings, or
else the event that is heard, if it is one that counts. -/
theorem Move.tally_eq {t t' : Tracker} {signal : Signal} {effects : List Effect}
    (h : Move t signal t' effects) :
    t'.task.tally =
      (t.accepts? signal).getD ((t.hears? signal).toList.foldl Tally.add t.task.tally) := by
  cases h with
  | ignored h =>
    obtain ⟨hhears, haccepts⟩ := brings_nothing h
    rw [hhears, haccepts]
    rfl
  | @observed event h he =>
    have hnone : event.numbers? = none := by
      cases hn : event.numbers? with
      | none => rfl
      | some tally => simp [Event.isTerminal_of_numbers? hn] at he
    rw [Task.tally_observe]
    simp [hears?, accepts?, h, hnone, Task.started]
  | @ended event h he =>
    rw [close_task, Task.tally_close]
    simp [hears?, accepts?, h, Tally.add_of_isTerminal _ he]
  | @reconciled snapshot event h he =>
    rw [close_task, Task.tally_close, accepts?_fallback h, Snapshot.numbers?_eq, he]
    rfl
  | @foundCancelled snapshot h hs =>
    have hstatus : snapshot.status ≠ some .completed := by
      intro heq
      simp [Snapshot.wasCancelled, heq] at hs
    rw [accepts?_fallback h, Snapshot.numbers?_eq_none hstatus]
    exact Task.tally_push _ _
  | @attachedAgain snapshot h hs hr =>
    have hstatus : snapshot.status ≠ some .completed := by
      intro heq
      simp [Snapshot.goesOn, heq] at hs
    rw [accepts?_fallback h, Snapshot.numbers?_eq_none hstatus]
    rfl
  | @degraded answer message h ha =>
    cases answer with
    | error e => exact Task.tally_push _ _
    | ok snapshot =>
      have hclue : snapshot.terminalEvent? = none := by
        simp only [givesUpOn, Bool.and_eq_true, Option.isNone_iff_eq_none] at ha
        exact ha.1.1
      rw [accepts?_fallback h, Snapshot.numbers?_eq, hclue]
      exact Task.tally_push _ _
  | lost | reported | unwatched | dismissed => rfl
  | graceElapsed | ready | timedOut | cancelled => exact Task.tally_push _ _

/-- **Final numbers come with the end of the task.** -/
theorem Accord.ended_of_accepts? {t : Tracker} (ht : t.Accord) {signal : Signal} {tally : Tally}
    (h : t.accepts? signal = some tally) :
    (t.apply signal).1.task.status.isTerminal := by
  cases signal with
  | stream event =>
    obtain ⟨hp, hn⟩ : t.phase = .streaming ∧ event.numbers? = some tally := by
      simpa [accepts?] using h
    have he := Event.isTerminal_of_numbers? hn
    rw [apply_ended ht hp he, close_task]
    exact Task.isTerminal_close _ he
  | fallback answer =>
    cases answer with
    | error e => cases h
    | ok snapshot =>
      obtain ⟨hp, hn⟩ : t.phase = .reconciling ∧ snapshot.numbers? = some tally := by
        simpa [accepts?] using h
      rw [Snapshot.numbers?_eq, Option.bind_eq_some_iff] at hn
      obtain ⟨event, he, -⟩ := hn
      rw [apply_reconciled ht hp he, close_task]
      exact Task.isTerminal_close _ (Snapshot.isTerminal_of_terminalEvent? he)
  | streamEnded | graceElapsed | probe | probeResolved | cancel => cases h

/-! ## 4. What a history brings -/

/-- **All that is heard**: the events that come while the stream is attached, for the first
time or again. -/
def heard (t : Tracker) : List Signal → List Event
  | [] => []
  | signal :: rest => (t.hears? signal).toList ++ (t.apply signal).1.heard rest

/-- **The first final numbers** that come. -/
def announced? (t : Tracker) : List Signal → Option Tally
  | [] => none
  | signal :: rest => (t.accepts? signal).or ((t.apply signal).1.announced? rest)

/-- One signal brings one event at most. -/
theorem length_heard_le (t : Tracker) (signals : List Signal) :
    (t.heard signals).length ≤ signals.length := by
  induction signals generalizing t with
  | nil => exact Nat.le_refl _
  | cons signal rest ih =>
    have hone : (t.hears? signal).toList.length ≤ 1 := by
      cases t.hears? signal <;> simp
    have hrest := ih (t.apply signal).1
    rw [heard, List.length_append, List.length_cons]
    omega

/-- What comes first stays first, whatever follows. -/
theorem announced?_append {t : Tracker} {before : List Signal} {tally : Tally}
    (h : t.announced? before = some tally) (after : List Signal) :
    t.announced? (before ++ after) = some tally := by
  induction before generalizing t with
  | nil => cases h
  | cons signal rest ih =>
    rw [List.cons_append, announced?]
    rw [announced?] at h
    cases ha : t.accepts? signal with
    | some numbers => rwa [ha] at h
    | none =>
      rw [ha] at h
      exact ih h

/-- **The tally after a run** is what was announced first, and without an announcement what
it was, with every event that was heard added to it. -/
theorem Accord.tally_run {t : Tracker} (ht : t.Accord) (signals : List Signal) :
    (t.run signals).1.task.tally =
      (t.announced? signals).getD ((t.heard signals).foldl Tally.add t.task.tally) := by
  induction signals generalizing t with
  | nil => rfl
  | cons signal rest ih =>
    have hmove := apply_move ht signal
    have htally := hmove.tally_eq
    rw [run_cons, announced?, heard, List.foldl_append]
    cases ha : t.accepts? signal with
    | some numbers =>
      -- the task has ended, and nothing of what follows is written into the tally
      have hfrozen := (hmove.accord ht).frozen_run (ht.ended_of_accepts? ha) rest
      rw [ha] at htally
      exact hfrozen.tally_eq.trans htally
    | none =>
      rw [ha] at htally
      rw [ih (hmove.accord ht), htally]
      rfl

end Tracker

/-! ## 5. Wherever a course leads -/

/-- **What says nothing about files**: an event that counts none and announces no numbers,
such as a done, a restart or an error; a cancellation; the end of the stream, of the grace or
of the watch; and any answer but the memory of a completed task. -/
def Signal.isQuiet : Signal → Bool
  | .stream event => !event.isCounted && event.numbers?.isNone
  | .fallback (.ok snapshot) => snapshot.numbers?.isNone
  | .fallback (.error _) | .streamEnded _ | .graceElapsed | .probe _ | .probeResolved _
  | .cancel => true

namespace Tracker

/-- **A quiet signal leaves the tally alone.** -/
theorem Accord.tally_of_isQuiet {t : Tracker} (ht : t.Accord) {signal : Signal}
    (hq : signal.isQuiet) : (t.apply signal).1.task.tally = t.task.tally := by
  rw [(apply_move ht signal).tally_eq]
  cases signal with
  | stream event =>
    obtain ⟨hcounted, hnone⟩ : event.isCounted = false ∧ event.numbers? = none := by
      simpa [Signal.isQuiet] using hq
    by_cases hp : t.phase = .streaming <;>
      simp [accepts?, hears?, hp, hnone, Tally.add_of_not_isCounted _ hcounted]
  | fallback answer =>
    cases answer with
    | error e => rfl
    | ok snapshot =>
      have hnone : snapshot.numbers? = none := by simpa [Signal.isQuiet] using hq
      simp [accepts?, hears?, hnone]
  | streamEnded | graceElapsed | probe | probeResolved | cancel => rfl

namespace Start

/-- All that is heard after the beginning. -/
def heard (start : Start) (signals : List Signal) : List Event :=
  start.tracker.begin.1.heard signals

/-- The first final numbers that come after the beginning. -/
def announced? (start : Start) (signals : List Signal) : Option Tally :=
  start.tracker.begin.1.announced? signals

/-- Nothing is counted before the beginning. -/
theorem tally_begin (start : Start) : start.tracker.begin.1.task.tally = {} := by
  cases start with
  | streaming | awaitingRestart => rfl
  | ofInstall id startedAt receipt =>
    obtain ⟨message, needRestart, autoRestart⟩ := receipt
    cases needRestart <;> cases autoRestart <;> exact Task.tally_push _ _

/-- **The tally wherever a course leads.** -/
theorem tally_eq (start : Start) (signals : List Signal) :
    (start.reached signals).task.tally =
      (start.announced? signals).getD ((start.heard signals).foldl Tally.add {}) := by
  rw [← start.tally_begin]
  exact start.accord_begin.tally_run signals

/-- **A counter is the number of events that were heard of it**, before anything is
announced. -/
theorem toNat_counter (start : Start) {signals : List Signal}
    (ha : start.announced? signals = none) (hlen : signals.length < UInt64.size)
    (c : Tally.Counter) :
    (c.read (start.reached signals).task.tally).toNat =
      (start.heard signals).countP c.counts := by
  have hheard : (start.heard signals).length < UInt64.size :=
    Nat.lt_of_le_of_lt (length_heard_le _ signals) hlen
  rw [start.tally_eq, ha]
  exact c.toNat_read_foldl hheard

end Start

/-- **The tally of every state.**

* Until final numbers are announced, it counts the successes, the skips and the failures that
  were heard, over all attachments together.
* Whatever says nothing about files leaves it alone.
* The final numbers that were announced first take its place, for good. -/
theorem tally_reached (start : Start) (before : List Signal) :
    let t := start.reached before
    (start.announced? before = none → before.length < UInt64.size →
      t.task.tally.downloaded.toNat = (start.heard before).countP Event.isSuccess ∧
      t.task.tally.skipped.toNat = (start.heard before).countP Event.isSkip ∧
      t.task.tally.failed.toNat = (start.heard before).countP Event.isFailure) ∧
    (∀ signal, signal.isQuiet → (t.apply signal).1.task.tally = t.task.tally) ∧
    (∀ tally, start.announced? before = some tally →
      ∀ after, (start.reached (before ++ after)).task.tally = tally) := by
  intro t
  have ht : t.Accord := start.accord_reached before
  refine ⟨?_, ?_, ?_⟩
  · intro ha hlen
    exact ⟨start.toNat_counter ha hlen .downloaded, start.toNat_counter ha hlen .skipped,
      start.toNat_counter ha hlen .failed⟩
  · intro signal hq
    exact ht.tally_of_isQuiet hq
  · intro tally ha after
    have hall : start.announced? (before ++ after) = some tally := announced?_append ha after
    rw [start.tally_eq, hall]
    rfl

/-- Two attachments, an event between them that nobody hears, and one after the error: five
files are counted.  When the server remembers three others, those are what stays. -/
theorem tally_reached_of_reattachment :
    let start : Start := .streaming "a" "" 1
    let first : List Signal := [.stream (.success "x" ""), .stream (.skip "y" ""),
      .streamEnded .stalled, .stream (.success "late" "")]
    let again : Signal := .fallback (.ok { found := true, status := some .running })
    let second : List Signal := [.stream (.skipHash "z" ""), .stream (.failed "w" ""),
      .stream (.success "v" ""), .stream (.error ""), .stream (.success "late" "")]
    let memory : Signal := .fallback (.ok
      { found := true, status := some .completed, downloaded := 7, skipped := 8, failed := 9 })
    let failed := start.reached (first ++ again :: second)
    (failed.task.tally.downloaded.toNat, failed.task.tally.skipped.toNat,
      failed.task.tally.failed.toNat) = (2, 2, 1) ∧
    (failed.apply .cancel).1.task.tally = failed.task.tally ∧
    (start.reached (first ++ [memory] ++ second)).task.tally = ⟨7, 8, 9⟩ := by
  intro start first again second memory failed
  have hcounted := tally_reached start (first ++ again :: second)
  obtain ⟨hdownloaded, hskipped, hfailed⟩ := hcounted.1 (by decide) (by decide)
  refine ⟨?_, hcounted.2.1 .cancel rfl, ?_⟩
  · rw [hdownloaded, hskipped, hfailed]
    decide
  · exact (tally_reached start (first ++ [memory])).2.2 ⟨7, 8, 9⟩ (by decide) second

end Tracker

end TaskWatch
