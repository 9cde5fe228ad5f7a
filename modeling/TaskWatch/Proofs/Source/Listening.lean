/-
# What a subscriber passes on

A stream is seen here as a timeline: what it delivers, each with its moment.  `Told` says without
the subscriber's stages what is to be passed on of a timeline: event by event, each within the idle
time of the one before it, up to the one thing that ends it (`Ends`).  That is a terminal event, or
the report of an error, of the end of the stream, or of a gap.  `Answered` puts the handshake in
front, which may take as long as any other wait.

**`told_in_full`**: a subscriber that nobody cancels says exactly this, and one that is cancelled
says a beginning of it, and then nothing more.

* A stream of bytes has a timeline too (`byteline`).  Comments and frames that are no events are
  not in it, so they do not put off the end of a wait.
* A cancellation at some moment comes before everything else at that moment.  Several deliveries may
  come at one moment and a cancellation between them, so the law is also stated for every wait of
  the subscriber (`Waiting`), whatever the clock says.

The induction is on the deliveries, by one equation for a wait (`readOut_eq`): either the
cancellation comes first, or the subscriber says what is due next (`due`).
-/
import TaskWatch.Rehearsal.Server
import TaskWatch.Proofs.Source.Speech

namespace TaskWatch

/-- A delivery is the last one when its signal is a last word. -/
theorem Delivery.closes_signal (d : Delivery) : d.signal.closes = d.isLast := by
  cases d with
  | event | error | closed => rfl

namespace Subscriber

/-! ## 1. Timelines -/

/-- **What a stream delivers, and when**: each delivery is asked for as soon as the one before it
has come. -/
def timeline : Nat → List Arrival → List (Nat × Delivery)
  | _, [] => []
  | now, a :: rest => (now + a.after, a.delivery) :: timeline (now + a.after) rest

/-- **What a stream of bytes delivers**: the events of a chunk come with the chunk that completes
them.  At its end the stream is closed, or stays open. -/
def byteline (closes : Bool) : Sse.Decoder → Nat → List (Nat × Sse.Chunk) → List (Nat × Delivery)
  | _, now, [] => if closes then [(now, .closed)] else []
  | _, now, (after, .error e) :: _ => [(now + after, .error e)]
  | d, now, (after, .ok bytes) :: rest =>
    (Sse.eventsOf (d.push bytes).2).map (fun e => (now + after, .event e)) ++
      byteline closes (d.push bytes).1 (now + after) rest

/-- The further events of a chunk are there at once. -/
theorem timeline_at_once (now : Nat) (es : List Event) (rest : List Arrival) :
    timeline now (es.map (fun e => ⟨0, .event e⟩) ++ rest) =
      es.map (fun e => (now, .event e)) ++ timeline now rest := by
  induction es with
  | nil => rfl
  | cons e es ih =>
    rw [List.map_cons, List.map_cons, List.cons_append, List.cons_append, timeline, Nat.add_zero,
      ih]

/-- **The time that brings no event** is only added to the next wait. -/
theorem timeline_arrivals (closes : Bool) (d : Sse.Decoder) (waited now : Nat)
    (items : List (Nat × Sse.Chunk)) :
    timeline now (Rehearsal.arrivals (if closes then Rehearsal.closing else Rehearsal.silence)
        d waited items) = byteline closes d (now + waited) items := by
  induction items generalizing d waited now with
  | nil => cases closes <;> rfl
  | cons item items ih =>
    obtain ⟨after, chunk⟩ := item
    cases chunk with
    | error e =>
      rw [Rehearsal.arrivals, byteline, timeline, timeline, Nat.add_assoc]
    | ok bytes =>
      rw [Rehearsal.arrivals, byteline]
      rcases d.push bytes with ⟨d', payloads⟩
      simp only
      cases Sse.eventsOf payloads with
      | nil => rw [ih, Nat.add_assoc, List.map_nil, List.nil_append]
      | cons e es =>
        simp only
        rw [List.cons_append, timeline, timeline_at_once, ih, Nat.add_zero, Nat.add_assoc,
          List.map_cons, List.cons_append]

/-! ## 2. What is to be told -/

/-- **What ends a subscription** that has last heard something at a moment. -/
inductive Ends (idle since : Nat) : List (Nat × Delivery) → Nat × Signal → Prop
  /-- A terminal event; nothing behind it is heard. -/
  | terminal {m : Nat} {e : Event} {rest : List (Nat × Delivery)} (hm : m ≤ since + idle)
      (he : e.isTerminal) : Ends idle since ((m, .event e) :: rest) (m, .stream e)
  | failed {m : Nat} {e : TransportError} {rest : List (Nat × Delivery)}
      (hm : m ≤ since + idle) :
      Ends idle since ((m, .error e) :: rest) (m, .streamEnded (.failed e))
  | closed {m : Nat} {rest : List (Nat × Delivery)} (hm : m ≤ since + idle) :
      Ends idle since ((m, .closed) :: rest) (m, .streamEnded .closed)
  /-- Nothing comes within the idle time. -/
  | stalled {rest : List (Nat × Delivery)} (h : ∀ d ∈ rest.head?, since + idle < d.1) :
      Ends idle since rest (since + idle, .streamEnded .stalled)

/-- **What is told of a timeline**: events that are not terminal, each within the idle time of the
one before it, and one last signal. -/
inductive Told (idle : Nat) : Nat → List (Nat × Delivery) → List (Nat × Signal) → Prop
  | event {since m : Nat} {e : Event} {rest : List (Nat × Delivery)}
      {sent : List (Nat × Signal)} (hm : m ≤ since + idle) (he : ¬ e.isTerminal)
      (h : Told idle m rest sent) :
      Told idle since ((m, .event e) :: rest) ((m, .stream e) :: sent)
  | last {since : Nat} {deliveries : List (Nat × Delivery)} {signal : Nat × Signal}
      (h : Ends idle since deliveries signal) : Told idle since deliveries [signal]

/-- **What is told of a subscription.** -/
inductive Answered (idle : Nat) (s : Subscription) : List (Nat × Signal) → Prop
  /-- The handshake takes too long, or for ever. -/
  | unanswered (h : ∀ reply ∈ s.handshake, idle < reply.1) :
      Answered idle s [(idle, .streamEnded .stalled)]
  | refused {m : Nat} {e : TransportError} (h : s.handshake = some (m, .error e)) (hm : m ≤ idle) :
      Answered idle s [(m, .streamEnded (.failed e))]
  | attached {m : Nat} {sent : List (Nat × Signal)} (h : s.handshake = some (m, .ok ()))
      (hm : m ≤ idle) (ht : Told idle m (timeline m s.arrivals) sent) : Answered idle s sent

/-! Nothing is left open by these rules. -/

theorem Ends.unique {idle since : Nat} {deliveries : List (Nat × Delivery)}
    {signal signal' : Nat × Signal} (h : Ends idle since deliveries signal)
    (h' : Ends idle since deliveries signal') : signal = signal' := by
  cases h with
  | terminal hm | failed hm | closed hm =>
    cases h' with
    | stalled hs => exact absurd (hs _ rfl) (Nat.not_lt.mpr hm)
    | _ => rfl
  | stalled hs =>
    cases h' with
    | stalled => rfl
    | terminal hm | failed hm | closed hm => exact absurd (hs _ rfl) (Nat.not_lt.mpr hm)

theorem Told.ne_nil {idle since : Nat} {deliveries : List (Nat × Delivery)}
    {sent : List (Nat × Signal)} (h : Told idle since deliveries sent) : sent ≠ [] := by
  cases h with
  | event | last => exact List.cons_ne_nil _ _

theorem Answered.ne_nil {idle : Nat} {s : Subscription} {sent : List (Nat × Signal)}
    (h : Answered idle s sent) : sent ≠ [] := by
  cases h with
  | unanswered | refused => exact List.cons_ne_nil _ _
  | attached _ _ ht => exact ht.ne_nil

theorem Told.unique {idle since : Nat} {deliveries : List (Nat × Delivery)}
    {sent sent' : List (Nat × Signal)} (h : Told idle since deliveries sent)
    (h' : Told idle since deliveries sent') : sent = sent' := by
  induction h generalizing sent' with
  | event hm he _ ih =>
    cases h' with
    | event _ _ h => rw [ih h]
    | last hend =>
      cases hend with
      | terminal _ hterminal => exact absurd hterminal he
      | stalled hs => exact absurd (hs _ rfl) (Nat.not_lt.mpr hm)
  | last hend =>
    cases h' with
    | last hend' => rw [hend.unique hend']
    | event hm he =>
      cases hend with
      | terminal _ hterminal => exact absurd hterminal he
      | stalled hs => exact absurd (hs _ rfl) (Nat.not_lt.mpr hm)

theorem Answered.unique {idle : Nat} {s : Subscription} {sent sent' : List (Nat × Signal)}
    (h : Answered idle s sent) (h' : Answered idle s sent') : sent = sent' := by
  cases h with
  | unanswered hnone =>
    cases h' with
    | unanswered => rfl
    | refused hs hm | attached hs hm => exact absurd (hnone _ hs) (Nat.not_lt.mpr hm)
  | refused hs hm =>
    cases h' with
    | unanswered hnone => exact absurd (hnone _ hs) (Nat.not_lt.mpr hm)
    | refused hs' =>
      cases hs.symm.trans hs'
      rfl
    | attached hs' => cases hs.symm.trans hs'
  | attached hs hm ht =>
    cases h' with
    | unanswered hnone => exact absurd (hnone _ hs) (Nat.not_lt.mpr hm)
    | refused hs' => cases hs.symm.trans hs'
    | attached hs' _ ht' =>
      cases hs.symm.trans hs'
      exact ht.unique ht'

/-! ## 3. The waits

A cancellation comes while the subscriber waits for something.  Several deliveries may come at one
moment, and it may come between them. -/

/-- What is waited for while the handshake lasts. -/
def asked (s : Subscription) : Option (Nat × News) :=
  s.handshake.map fun (after, result) => (after, .handshake result)

/-- What is waited for after it. -/
def awaited (arrivals : List Arrival) : Option (Nat × News) :=
  arrivals.head?.map fun a => (a.after, .delivery a.delivery)

/-- **The waits of a subscriber** that nobody has cancelled yet: since when, what it waits for, what
the stream has still to deliver, and what has been said.  Its end is among them. -/
inductive Waiting (idle : Nat) (s : Subscription) :
    Nat → Stage → List Arrival → List (Nat × Signal) → Prop
  /-- It has not begun. -/
  | fresh : Waiting idle s 0 .fresh s.arrivals []
  | begun {now : Nat} {stage : Stage} {deeds : List Deed} {arrivals : List Arrival}
      {said : List (Nat × Signal)} (hw : Waiting idle s now .fresh arrivals said)
      (h : Stage.fresh.poll idle now false none = some (stage, deeds)) :
      Waiting idle s now stage arrivals (said ++ (signals deeds).map (now, ·))
  | answered {now deadline moment : Nat} {stage : Stage} {deeds : List Deed}
      {arrivals : List Arrival} {said : List (Nat × Signal)}
      (hw : Waiting idle s now (.attaching deadline) arrivals said)
      (h : (Stage.attaching deadline).turn idle now none (asked s) = (moment, stage, deeds)) :
      Waiting idle s moment stage arrivals (said ++ (signals deeds).map (moment, ·))
  | heard {now deadline moment : Nat} {stage : Stage} {deeds : List Deed}
      {arrivals : List Arrival} {said : List (Nat × Signal)}
      (hw : Waiting idle s now (.reading deadline) arrivals said)
      (h : (Stage.reading deadline).turn idle now none (awaited arrivals) =
        (moment, stage, deeds)) :
      Waiting idle s moment stage arrivals.tail (said ++ (signals deeds).map (moment, ·))

/-! ## 4. One wait -/

/-- A cancellation is heard at the end of every wait, and nothing is said to it. -/
theorem Stage.poll_cancelled {stage : Stage} (h : stage ≠ .ended) (idle moment : Nat)
    (news : Option News) : stage.poll idle moment true news = some (.ended, []) := by
  cases stage with
  | fresh | attaching | reading => rfl
  | ended => exact absurd rfl h

/-- **When a wait ends, and with what**, if nobody cancels it. -/
def wakes (idle now : Nat) : Option (Nat × News) → Nat × Option News
  | none => (now + idle, none)
  | some (after, news) =>
    if after ≤ idle then (now + after, some news) else (now + idle, none)

theorem le_wakes (idle now : Nat) (news : Option (Nat × News)) :
    now ≤ (wakes idle now news).1 := by
  cases news with
  | none => exact Nat.le_add_right now idle
  | some news =>
    rw [wakes]
    split <;> exact Nat.le_add_right _ _

/-- A wait for a moment that is still to come. -/
theorem waitUntil_of_le {now target : Nat} (h : now ≤ target) (c : Cancellation) :
    waitUntil now target c =
      if c.any (· ≤ target) then (max now (c.getD 0), false) else (target, true) := by
  cases c with
  | none => simp [waitUntil, Nat.max_eq_right h]
  | some m => simp [waitUntil, Nat.max_eq_right h]

theorem any_wakes (idle now : Nat) (news : Option (Nat × News)) :
    (news.map Prod.fst).any (now + · ≤ now + idle) = (wakes idle now news).2.isSome := by
  cases news with
  | none => rfl
  | some news =>
    by_cases h : news.1 ≤ idle
    · simp [wakes, h]
    · simp [wakes, h]

theorem moment_wakes (idle now : Nat) (news : Option (Nat × News)) :
    (if (wakes idle now news).2.isSome then now + (news.map Prod.fst).getD 0 else now + idle) =
      (wakes idle now news).1 := by
  cases news with
  | none => rfl
  | some news =>
    by_cases h : news.1 ≤ idle
    · simp [wakes, h]
    · simp [wakes, h]

theorem Stage.wake_eq {stage : Stage} {idle now : Nat} (h : stage.deadline? = some (now + idle))
    (c : Cancellation) (news : Option (Nat × News)) :
    stage.wake now (news.map Prod.fst) c =
      if c.any (· ≤ (wakes idle now news).1) then some (max now (c.getD 0), false, false)
      else some ((wakes idle now news).1, true, (wakes idle now news).2.isSome) := by
  unfold wake
  rw [h]
  simp only [any_wakes, moment_wakes, waitUntil_of_le (le_wakes idle now news)]
  by_cases hc : c.any (· ≤ (wakes idle now news).1)
  · simp only [if_pos hc, Bool.and_false]
  · simp only [if_neg hc, Bool.and_true]

/-- **A wait that may last the idle time** is ended by a cancellation, or as `wakes` says. -/
theorem Stage.turn_eq {stage : Stage} {idle now : Nat} (h : stage.deadline? = some (now + idle))
    (c : Cancellation) (news : Option (Nat × News)) :
    stage.turn idle now c news =
      if c.any (· ≤ (wakes idle now news).1) then (max now (c.getD 0), .ended, [])
      else
        ((wakes idle now news).1,
          (stage.poll idle (wakes idle now news).1 false (wakes idle now news).2).getD
            (stage, [])) := by
  have hwaiting : stage ≠ .ended := by
    intro hended
    rw [hended] at h
    cases h
  have hheard : (if (wakes idle now news).2.isSome then news.map Prod.snd else none) =
      (wakes idle now news).2 := by
    cases news with
    | none => rfl
    | some news =>
      rw [wakes]
      split <;> rfl
  rw [turn, wake_eq h]
  by_cases hc : c.any (· ≤ (wakes idle now news).1)
  · rw [if_pos hc, if_pos hc]
    simp only [Bool.not_false, poll_cancelled hwaiting]
  · rw [if_neg hc, if_neg hc]
    simp only [Bool.not_true, hheard]
    cases stage.poll idle (wakes idle now news).1 false (wakes idle now news).2 <;> rfl

/-! ## 5. From one wait to the next -/

/-- **What a subscriber that reads says next**, if nobody cancels it. -/
def due (idle now : Nat) : List Arrival → Nat × Signal
  | [] => (now + idle, .streamEnded .stalled)
  | a :: _ =>
    if a.after ≤ idle then (now + a.after, a.delivery.signal)
    else (now + idle, .streamEnded .stalled)

theorem wakes_awaited (idle now : Nat) (arrivals : List Arrival) :
    (wakes idle now (awaited arrivals)).1 = (due idle now arrivals).1 := by
  cases arrivals with
  | nil => rfl
  | cons a rest =>
    by_cases h : a.after ≤ idle
    · simp [awaited, wakes, due, h]
    · simp [awaited, wakes, due, h]

theorem Stage.turn_reading (idle now : Nat) (c : Cancellation) (arrivals : List Arrival) :
    (Stage.reading (now + idle)).turn idle now c (awaited arrivals) =
      if c.any (· ≤ (due idle now arrivals).1) then (max now (c.getD 0), .ended, [])
      else if (due idle now arrivals).2.closes then
        ((due idle now arrivals).1, .ended, [.send (due idle now arrivals).2])
      else
        ((due idle now arrivals).1, .reading ((due idle now arrivals).1 + idle),
          [.send (due idle now arrivals).2, .await]) := by
  rw [turn_eq rfl, wakes_awaited]
  by_cases hc : c.any (· ≤ (due idle now arrivals).1)
  · rw [if_pos hc, if_pos hc]
  rw [if_neg hc, if_neg hc]
  cases arrivals with
  | nil => simp [awaited, wakes, due, poll, Signal.closes]
  | cons a rest =>
    by_cases h : a.after ≤ idle
    · cases hlast : a.delivery.isLast with
      | true => simp [awaited, wakes, due, poll, h, hlast, Delivery.closes_signal]
      | false => simp [awaited, wakes, due, poll, h, hlast, Delivery.closes_signal]
    · simp [awaited, wakes, due, poll, h, Signal.closes]

theorem le_due (idle now : Nat) (arrivals : List Arrival) : now ≤ (due idle now arrivals).1 := by
  rw [← wakes_awaited]
  exact le_wakes idle now (awaited arrivals)

/-- The signals of a subscriber that reads, to the end. -/
def readOut (idle : Nat) (c : Cancellation) (now : Nat) (arrivals : List Arrival) :
    List (Nat × Signal) :=
  ((Stage.reading (now + idle)).read idle c (fun _ => true) now arrivals).sent

/-- **The signals of a subscriber that reads**: the cancellation comes first, or else what is due,
and then the signals from there. -/
theorem readOut_eq (idle : Nat) (c : Cancellation) (now : Nat) (arrivals : List Arrival) :
    readOut idle c now arrivals =
      if c.any (· ≤ (due idle now arrivals).1) then []
      else due idle now arrivals ::
        if (due idle now arrivals).2.closes then []
        else readOut idle c (due idle now arrivals).1 arrivals.tail := by
  have hturn := Stage.turn_reading idle now c arrivals
  rw [awaited] at hturn
  rw [readOut, Stage.read]
  rw [hturn]
  by_cases hc : c.any (· ≤ (due idle now arrivals).1)
  · rw [if_pos hc, if_pos hc]
    rfl
  rw [if_neg hc, if_neg hc]
  by_cases hlast : (due idle now arrivals).2.closes
  · rw [if_pos hlast, if_pos hlast]
    rfl
  rw [if_neg hlast, if_neg hlast]
  cases arrivals with
  | nil => exact absurd rfl hlast
  | cons a rest => rfl

/-- **Nobody cancels**: what is said is what is to be told. -/
theorem told_readOut (idle now : Nat) (arrivals : List Arrival) :
    Told idle now (timeline now arrivals) (readOut idle none now arrivals) := by
  induction arrivals generalizing now with
  | nil =>
    rw [readOut_eq]
    exact .last (.stalled (by simp [timeline]))
  | cons a rest ih =>
    rw [readOut_eq, Option.any_none, if_neg Bool.false_ne_true, timeline]
    by_cases h : a.after ≤ idle
    · have hm : now + a.after ≤ now + idle := Nat.add_le_add_left h now
      rw [due, if_pos h, List.tail_cons]
      cases a.delivery with
      | event e =>
        have hcloses : (Delivery.event e).signal.closes = e.isTerminal := rfl
        by_cases he : e.isTerminal
        · rw [if_pos (hcloses.trans he)]
          exact .last (.terminal hm he)
        · rw [if_neg (hcloses ▸ he)]
          exact .event hm he (ih _)
      | error e => exact .last (.failed hm)
      | closed => exact .last (.closed hm)
    · rw [due, if_neg h]
      refine .last (.stalled ?_)
      intro d hd
      cases hd
      exact Nat.add_lt_add_left (Nat.lt_of_not_le h) now

/-- What a cancellation leaves of one wait, if it leaves the right thing of the waits behind it. -/
theorem readOut_cancelled_step {idle m now : Nat} {arrivals : List Arrival}
    (h : ¬ (due idle now arrivals).2.closes →
      readOut idle (some m) (due idle now arrivals).1 arrivals.tail =
        (readOut idle none (due idle now arrivals).1 arrivals.tail).takeWhile (·.1 < m)) :
    readOut idle (some m) now arrivals =
      (readOut idle none now arrivals).takeWhile (·.1 < m) := by
  rw [readOut_eq, readOut_eq idle none, Option.any_none, if_neg Bool.false_ne_true,
    Option.any_some]
  by_cases hm : m ≤ (due idle now arrivals).1
  · rw [if_pos (decide_eq_true hm), List.takeWhile_cons_of_neg (by simpa using hm)]
  · rw [if_neg (by simpa using hm), List.takeWhile_cons_of_pos (by simpa using hm)]
    by_cases hlast : (due idle now arrivals).2.closes
    · rw [if_pos hlast, if_pos hlast, List.takeWhile_nil]
    · rw [if_neg hlast, if_neg hlast, h hlast]

/-- **Somebody cancels**: what is said is what comes before. -/
theorem readOut_cancelled (idle m now : Nat) (arrivals : List Arrival) :
    readOut idle (some m) now arrivals =
      (readOut idle none now arrivals).takeWhile (·.1 < m) := by
  induction arrivals generalizing now with
  | nil =>
    apply readOut_cancelled_step
    intro hlast
    exact absurd rfl hlast
  | cons a rest ih =>
    apply readOut_cancelled_step
    intro _
    exact ih _

/-! ## 6. The handshake -/

/-- How the wait for the handshake ends: the last word, or none if the stream is there. -/
def welcome (idle : Nat) (s : Subscription) : Nat × Option Signal :=
  match s.handshake with
  | none => (idle, some (.streamEnded .stalled))
  | some (after, result) =>
    if after ≤ idle then
      (after,
        match result with
        | .ok () => none
        | .error e => some (.streamEnded (.failed e)))
    else (idle, some (.streamEnded .stalled))

theorem wakes_asked (idle : Nat) (s : Subscription) :
    (wakes idle 0 (asked s)).1 = (welcome idle s).1 := by
  rw [asked, welcome]
  cases s.handshake with
  | none => simp [wakes]
  | some reply =>
    by_cases h : reply.1 ≤ idle
    · simp [wakes, h]
    · simp [wakes, h]

theorem Stage.turn_attaching (idle : Nat) (s : Subscription) (c : Cancellation) :
    (Stage.attaching idle).turn idle 0 c (asked s) =
      if c.any (· ≤ (welcome idle s).1) then (max 0 (c.getD 0), .ended, [])
      else
        match (welcome idle s).2 with
        | some last => ((welcome idle s).1, .ended, [.send last])
        | none => ((welcome idle s).1, .reading ((welcome idle s).1 + idle), [.await]) := by
  rw [turn_eq (by rw [Nat.zero_add]; rfl), wakes_asked]
  by_cases hc : c.any (· ≤ (welcome idle s).1)
  · rw [if_pos hc, if_pos hc]
  rw [if_neg hc, if_neg hc, asked, welcome]
  rcases s.handshake with _ | ⟨after, result⟩
  · simp [wakes, poll]
  · by_cases h : after ≤ idle
    · cases result with
      | ok => simp [wakes, poll, h]
      | error => simp [wakes, poll, h]
    · simp [wakes, poll, h]

/-- **The signals of a whole subscription.** -/
theorem sent_run (idle : Nat) (s : Subscription) (c : Cancellation) :
    (run idle s c fun _ => true).sent =
      if c.any (· ≤ (welcome idle s).1) then []
      else
        match (welcome idle s).2 with
        | some last => [((welcome idle s).1, last)]
        | none => readOut idle c (welcome idle s).1 s.arrivals := by
  have hturn := Stage.turn_attaching idle s c
  by_cases hbefore : c.any (· ≤ 0)
  · have hc : c.any (· ≤ (welcome idle s).1) := by
      cases c with
      | none => cases hbefore
      | some m =>
        have hm : m ≤ 0 := of_decide_eq_true hbefore
        exact decide_eq_true (Nat.le_trans hm (Nat.zero_le _))
    rw [if_pos hc]
    simp only [run, Stage.poll, hbefore, if_true]
    rw [Stage.turn, Stage.wake]
    simp [Stage.deadline?, Stage.read, Trace.after, signals]
  · rw [asked] at hturn
    simp only [run, Stage.poll, hbefore, Nat.zero_add]
    simp only [Bool.false_eq_true, if_false, hturn]
    by_cases hc : c.any (· ≤ (welcome idle s).1)
    · rw [if_pos hc, if_pos hc]
      simp [Stage.read, Trace.after, signals]
    · rw [if_neg hc, if_neg hc]
      cases (welcome idle s).2 with
      | some last => simp [Stage.read, Trace.after, signals]
      | none => rfl

/-- **Nobody cancels**: the subscription is answered as it is to be. -/
theorem answered_run (idle : Nat) (s : Subscription) :
    Answered idle s (run idle s none fun _ => true).sent := by
  rw [sent_run, Option.any_none, if_neg Bool.false_ne_true]
  cases h : s.handshake with
  | none =>
    rw [welcome, h]
    exact .unanswered (by simp [h])
  | some reply =>
    obtain ⟨after, result⟩ := reply
    by_cases hm : after ≤ idle
    · cases result with
      | ok =>
        simp only [welcome, h, if_pos hm]
        exact .attached h hm (told_readOut idle after s.arrivals)
      | error e =>
        simp only [welcome, h, if_pos hm]
        exact .refused h hm
    · simp only [welcome, h, if_neg hm]
      refine .unanswered ?_
      intro reply hreply
      cases h.symm.trans hreply
      exact Nat.lt_of_not_le hm

/-- **Somebody cancels**: what is said is what comes before. -/
theorem run_cancelled (idle m : Nat) (s : Subscription) :
    (run idle s (some m) fun _ => true).sent =
      (run idle s none fun _ => true).sent.takeWhile (·.1 < m) := by
  rw [sent_run, sent_run idle s none, Option.any_none, if_neg Bool.false_ne_true, Option.any_some]
  cases (welcome idle s).2 with
  | some last =>
    by_cases hm : m ≤ (welcome idle s).1
    · rw [if_pos (decide_eq_true hm), List.takeWhile_cons_of_neg (by simpa using hm)]
    · rw [if_neg (by simpa using hm), List.takeWhile_cons_of_pos (by simpa using hm),
        List.takeWhile_nil]
  | none =>
    simp only
    rw [← readOut_cancelled]
    by_cases hm : m ≤ (welcome idle s).1
    · have hdue : m ≤ (due idle (welcome idle s).1 s.arrivals).1 :=
        Nat.le_trans hm (le_due idle _ s.arrivals)
      rw [if_pos (decide_eq_true hm), readOut_eq, Option.any_some, if_pos (decide_eq_true hdue)]
    · rw [if_neg (by simpa using hm)]

/-! ## 7. Every wait -/

/-- **Where a wait stands**: it may last the idle time, and what has been said goes on with what the
subscriber would read out from here. -/
def Owing (idle : Nat) (s : Subscription) :
    Nat → Stage → List Arrival → List (Nat × Signal) → Prop
  | now, .fresh, arrivals, said => now = 0 ∧ arrivals = s.arrivals ∧ said = []
  | now, .attaching deadline, arrivals, said =>
    now = 0 ∧ deadline = idle ∧ arrivals = s.arrivals ∧ said = []
  | now, .reading deadline, arrivals, said =>
    deadline = now + idle ∧
      said ++ readOut idle none now arrivals = (run idle s none fun _ => true).sent
  | _, .ended, _, said => said = (run idle s none fun _ => true).sent

theorem Waiting.owing {idle now : Nat} {s : Subscription} {stage : Stage}
    {arrivals : List Arrival} {said : List (Nat × Signal)}
    (h : Waiting idle s now stage arrivals said) : Owing idle s now stage arrivals said := by
  have hsent := sent_run idle s none
  rw [Option.any_none, if_neg Bool.false_ne_true] at hsent
  induction h with
  | fresh => exact ⟨rfl, rfl, rfl⟩
  | begun _ h ih =>
    obtain ⟨rfl, rfl, rfl⟩ := ih
    cases h
    exact ⟨rfl, Nat.zero_add idle, rfl, rfl⟩
  | answered _ h ih =>
    obtain ⟨rfl, hdeadline, rfl, rfl⟩ := ih
    rw [hdeadline, Stage.turn_attaching, Option.any_none, if_neg Bool.false_ne_true] at h
    cases hlast : (welcome idle s).2 with
    | some last =>
      simp only [hlast] at h hsent
      cases h
      exact hsent.symm
    | none =>
      simp only [hlast] at h hsent
      cases h
      exact ⟨rfl, hsent.symm⟩
  | @heard now _ _ _ _ arrivals _ _ h ih =>
    obtain ⟨rfl, hout⟩ := ih
    rw [readOut_eq, Option.any_none, if_neg Bool.false_ne_true] at hout
    rw [Stage.turn_reading, Option.any_none, if_neg Bool.false_ne_true] at h
    by_cases hlast : (due idle now arrivals).2.closes
    · rw [if_pos hlast] at h hout
      cases h
      exact hout
    · rw [if_neg hlast] at h hout
      cases h
      refine ⟨rfl, ?_⟩
      rw [← hout, List.append_assoc]
      rfl

/-- **What has been said by some wait** is the beginning of what is said, and all of it only at the
end. -/
theorem Waiting.said_begins {idle now : Nat} {s : Subscription} {stage : Stage}
    {arrivals : List Arrival} {said : List (Nat × Signal)}
    (h : Waiting idle s now stage arrivals said) :
    said <+: (run idle s none fun _ => true).sent ∧
      (said = (run idle s none fun _ => true).sent ↔ stage = .ended) := by
  have howing := h.owing
  have hsome := (answered_run idle s).ne_nil
  cases stage with
  | fresh =>
    obtain ⟨-, -, rfl⟩ := howing
    exact ⟨List.nil_prefix, by simp [hsome.symm]⟩
  | attaching =>
    obtain ⟨-, -, -, rfl⟩ := howing
    exact ⟨List.nil_prefix, by simp [hsome.symm]⟩
  | reading deadline =>
    obtain ⟨-, hout⟩ := howing
    refine ⟨⟨_, hout⟩, ?_, ?_⟩
    · intro hall
      rw [hall] at hout
      exact absurd (List.append_right_eq_self.mp hout) (told_readOut idle now arrivals).ne_nil
    · intro hended
      cases hended
  | ended =>
    refine ⟨howing ▸ List.prefix_rfl, ?_, ?_⟩
    · intro _
      rfl
    · intro _
      exact howing

/-! ## 8. The law -/

/-- **Everything that is to be told is told, and nothing else**: the signals of a subscriber that
nobody cancels are the ones that `Answered` allows.  One that is cancelled at some moment says what
comes before it.  Whatever it waits for when it is cancelled, it has said a beginning of the same,
all of it only if it was over, and it says nothing more.  The timeline of a stream of bytes has its
events alone. -/
theorem told_in_full (idle : Nat) (s : Subscription) :
    (∀ sent, (run idle s none fun _ => true).sent = sent ↔ Answered idle s sent) ∧
    (∀ m, (run idle s (some m) fun _ => true).sent =
      (run idle s none fun _ => true).sent.takeWhile (·.1 < m)) ∧
    (∀ now stage arrivals said, Waiting idle s now stage arrivals said →
      said <+: (run idle s none fun _ => true).sent ∧
        (said = (run idle s none fun _ => true).sent ↔ stage = .ended) ∧
        (stage ≠ .ended → ∀ moment news,
          stage.poll idle moment true news = some (.ended, []))) ∧
    (∀ moment cancelled news, Stage.ended.poll idle moment cancelled news = none) ∧
    ∀ closes items now,
      timeline now (Rehearsal.arrivals
          (if closes then Rehearsal.closing else Rehearsal.silence) {} 0 items) =
        byteline closes {} now items := by
  refine ⟨?_, ?_, ?_, ?_, ?_⟩
  · intro sent
    constructor
    · intro h
      exact h ▸ answered_run idle s
    · intro h
      exact (answered_run idle s).unique h
  · intro m
    exact run_cancelled idle m s
  · intro now stage arrivals said hwaiting
    obtain ⟨hbegins, hall⟩ := hwaiting.said_begins
    refine ⟨hbegins, hall, ?_⟩
    intro hstage moment news
    exact Stage.poll_cancelled hstage idle moment news
  · intro moment cancelled news
    rfl
  · intro closes items now
    exact timeline_arrivals closes {} 0 now items

/-- The stream says something at 15 and at 135.  The comment between the two does not help: the wait
that began at 15 ends at 115, and a cancellation at that moment still comes first. -/
theorem told_in_full_of_comment :
    let items : List (Nat × Sse.Chunk) :=
      [(10, .ok (Text.Utf8.encode "data: \x7b\"type\":\"total\",\"total\":4\x7d\n\n")),
        (60, .ok (Text.Utf8.encode ": ping\n\n")),
        (60, .ok (Text.Utf8.encode "data: \x7b\"type\":\"done\"\x7d\n\n"))]
    let s : Subscription :=
      { handshake := some (5, .ok ()),
        arrivals := Rehearsal.arrivals Rehearsal.silence {} 0 items }
    let begun : List (Nat × Signal) := [(15, .stream (.total 4 ""))]
    (run 100 s none fun _ => true).sent = begun ++ [(115, .streamEnded .stalled)] ∧
      (run 100 s (some 115) fun _ => true).sent = begun ∧
      Waiting 100 s 15 (.reading 115) s.arrivals.tail begun ∧
      begun <+: (run 100 s none fun _ => true).sent ∧
      begun ≠ (run 100 s none fun _ => true).sent ∧
      (Stage.reading 115).poll 100 115 true none = some (.ended, []) := by
  intro items s begun
  obtain ⟨htold, hcancelled, hwaits, -, hbytes⟩ := told_in_full 100 s
  have hbyteline : byteline false {} 5 items =
      [(15, .event (.total 4 "")), (135, .event (.done ""))] := by decide +kernel
  have htimeline := hbytes false items 5
  rw [if_neg Bool.false_ne_true] at htimeline
  have hsent : (run 100 s none fun _ => true).sent = begun ++ [(115, .streamEnded .stalled)] := by
    refine (htold _).mpr (.attached rfl (by decide) ?_)
    rw [htimeline, hbyteline]
    exact .event (by decide) (by decide) (.last (.stalled (by decide)))
  have harrivals : s.arrivals = [⟨10, .event (.total 4 "")⟩, ⟨120, .event (.done "")⟩] := by
    decide +kernel
  have hattaching : Waiting 100 s 0 (.attaching 100) s.arrivals [] := .begun .fresh rfl
  have hreading : Waiting 100 s 5 (.reading 105) s.arrivals [] := .answered hattaching rfl
  have hheard : (Stage.reading 105).turn 100 5 none (awaited s.arrivals) =
      (15, .reading 115, [.send (.stream (.total 4 "")), .await]) := by
    rw [harrivals]
    rfl
  have hwaiting : Waiting 100 s 15 (.reading 115) s.arrivals.tail begun := .heard hreading hheard
  have hstage : Stage.reading 115 ≠ .ended := by decide
  obtain ⟨hbegins, hall, hpoll⟩ := hwaits _ _ _ _ hwaiting
  refine ⟨hsent, ?_, hwaiting, hbegins, ?_, hpoll hstage 115 none⟩
  · rw [hcancelled, hsent]
    rfl
  · intro h
    exact hstage (hall.mp h)

end Subscriber

end TaskWatch
