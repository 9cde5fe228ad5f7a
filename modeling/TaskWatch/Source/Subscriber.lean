/-
# Subscribing to a task

A `Subscriber` attaches to the stream of a task and passes its events on, one by one, until
the stream is over for the task: a terminal event came, or the stream ended in one of three
ways, which it then reports.  After either of them it says nothing more.

**Patience.**  The handshake, and after it every wait for the next event, may take up to the
idle time.  Comments and frames that are no events do not count as a sign of life: the wait
is for an event.  Something that arrives at the very end of the wait is in time.

Once cancelled, the subscriber says nothing more.
-/
import TaskWatch.Ticker
import TaskWatch.Tracker

namespace TaskWatch

/-- **What a stream delivers.** -/
inductive Delivery where
  | event (e : Event)
  | error (e : TransportError)
  /-- The server closed the stream. -/
  | closed
  deriving Repr, DecidableEq, Inhabited

/-- The signal for a delivery: an event is passed on, everything else is an end. -/
def Delivery.signal : Delivery → Signal
  | event e => .stream e
  | error e => .streamEnded (.failed e)
  | closed => .streamEnded .closed

/-- A delivery after which a subscriber is done. -/
def Delivery.isLast : Delivery → Bool
  | event e => e.isTerminal
  | error _ | closed => true

namespace Subscriber

/-- **What a subscriber waits for.** -/
inductive Stage where
  /-- It has not begun. -/
  | fresh
  /-- The end of the handshake. -/
  | attaching (deadline : Nat)
  /-- The next delivery. -/
  | reading (deadline : Nat)
  | ended
  deriving Repr, DecidableEq, Inhabited

/-- **What it hears.** -/
inductive News where
  /-- How the handshake ended. -/
  | handshake (result : Except TransportError Unit)
  | delivery (d : Delivery)
  deriving Repr

/-- **What a step does.** -/
inductive Deed where
  /-- The handshake begins. -/
  | attach
  /-- The next delivery is asked for. -/
  | await
  | send (s : Signal)
  deriving Repr

/-- **One step** at a moment, given whether the subscriber is cancelled by then and what has
arrived.  `none`: it goes on waiting. -/
def Stage.poll (idle now : Nat) (cancelled : Bool) (news : Option News) :
    Stage → Option (Stage × List Deed)
  | .fresh =>
    if cancelled then some (.ended, []) else some (.attaching (now + idle), [.attach])
  | .attaching deadline =>
    if cancelled then some (.ended, [])
    else
      match news with
      | some (.handshake (.ok ())) => some (.reading (now + idle), [.await])
      | some (.handshake (.error e)) => some (.ended, [.send (.streamEnded (.failed e))])
      | _ => if deadline ≤ now then some (.ended, [.send (.streamEnded .stalled)]) else none
  | .reading deadline =>
    if cancelled then some (.ended, [])
    else
      match news with
      | some (.delivery d) =>
        if d.isLast then some (.ended, [.send d.signal])
        else some (.reading (now + idle), [.send d.signal, .await])
      | _ => if deadline ≤ now then some (.ended, [.send (.streamEnded .stalled)]) else none
  | .ended => none

/-- When a stage goes on by itself. -/
def Stage.deadline? : Stage → Option Nat
  | .attaching deadline | .reading deadline => some deadline
  | .fresh | .ended => none

/-! ## A whole subscription

The server's side is given in full: when and how the handshake ends, and what the stream
delivers, each delivery with the time from the moment it is asked for.  A stream whose
deliveries are used up is silent. -/

/-- **A delivery and the time it takes.** -/
structure Arrival where
  after : Nat
  delivery : Delivery
  deriving Repr, DecidableEq, Inhabited

/-- **The server's side of a subscription.**  Without a handshake it never answers. -/
structure Subscription where
  handshake : Option (Nat × Except TransportError Unit)
  arrivals : List Arrival
  deriving Repr

/-- **What a subscriber did**: the signals it sent with their moments, and its end. -/
structure Trace where
  sent : List (Nat × Signal) := []
  endedAt : Nat := 0
  deriving Repr

/-- The signals that are sent by some deeds. -/
def signals (deeds : List Deed) : List Signal :=
  deeds.filterMap fun
    | .send s => some s
    | _ => none

/-- The signals of one moment in front of a trace. -/
def Trace.after (now : Nat) (deeds : List Deed) (t : Trace) : Trace :=
  { t with sent := (signals deeds).map (now, ·) ++ t.sent }

/-- The moment at which a stage goes on, and whether it is cancelled then: news that take
`after` from now, or the deadline if that is earlier, unless the cancellation comes first. -/
def Stage.wake (stage : Stage) (now : Nat) (after : Option Nat) (c : Cancellation) :
    Option (Nat × Bool × Bool) :=
  match stage.deadline? with
  | none => none
  | some deadline =>
    let arrives := after.any (now + · ≤ deadline)
    let moment := if arrives then now + after.getD 0 else deadline
    let (moment, undisturbed) := waitUntil now moment c
    some (moment, undisturbed, arrives && undisturbed)

/-- One wait of a subscriber, and the step that ends it. -/
def Stage.turn (idle now : Nat) (c : Cancellation) (news : Option (Nat × News))
    (stage : Stage) : Nat × Stage × List Deed :=
  match stage.wake now (news.map Prod.fst) c with
  | none => (now, stage, [])
  | some (moment, undisturbed, arrives) =>
    let heard := if arrives then news.map Prod.snd else none
    match stage.poll idle moment (!undisturbed) heard with
    | none => (moment, stage, [])
    | some (stage, deeds) => (moment, stage, deeds)

/-- Reading: one turn per arrival, and one more at the end. -/
def Stage.read (idle : Nat) (c : Cancellation) (heeded : Nat → Bool) :
    Nat → Stage → List Arrival → Trace
  | now, .reading deadline, arrivals =>
    let news := arrivals.head?.map fun a => (a.after, News.delivery a.delivery)
    let (moment, stage, deeds) := (Stage.reading deadline).turn idle now c news
    match stage, arrivals with
    | .reading deadline, _ :: rest =>
      if heeded moment then
        (read idle c heeded moment (.reading deadline) rest).after moment deeds
      else { endedAt := moment }
    | _, _ => Trace.after moment deeds { endedAt := moment }
  | now, _, _ => { endedAt := now }
termination_by _ _ arrivals => arrivals.length

/-- **A whole subscription** that begins at the start of the clock.  The subscriber stops at
the first event that nobody takes any more. -/
def run (idle : Nat) (s : Subscription) (c : Cancellation) (heeded : Nat → Bool) : Trace :=
  match Stage.fresh.poll idle 0 (c.any (· ≤ 0)) none with
  | none => {}
  | some (stage, deeds) =>
    let news := s.handshake.map fun (after, result) => (after, News.handshake result)
    let (moment, stage, more) := stage.turn idle 0 c news
    Trace.after 0 deeds ((stage.read idle c heeded moment s.arrivals).after moment more)

end Subscriber

end TaskWatch
