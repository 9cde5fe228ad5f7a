/-
# Sources of signals

A tracker hears from one source at a time: a subscriber to the stream, an inquiry about the
server's memory of the task, the period of grace, or the watch over a restart.  A `Source`
is one of the four at some stage of its work.

All four work in the same way.  `poll` is one step, from one wait to the next.  A step may
ask the server something, ask the stream for its next delivery, or send a signal.  A source
that is cancelled stops at its next step; except for the first report of a watch that is
cancelled before it begins, it does nothing more.
-/
import TaskWatch.Source.Probe
import TaskWatch.Source.Subscriber

namespace TaskWatch

/-! ## 1. Questions and answers -/

/-- **What a source asks the server.** -/
inductive Query where
  | subscribe (taskId : String)
  | status (taskId : String)
  | liveness
  deriving Repr, DecidableEq, Inhabited

/-- **What reaches a source.** -/
inductive News where
  | handshake (result : Except TransportError Unit)
  | delivery (d : Delivery)
  | status (result : Except TransportError Snapshot)
  | liveness (up : Bool)
  deriving Repr

/-- **What a source does.** -/
inductive Deed where
  /-- A request to the server begins. -/
  | ask (q : Query)
  /-- The next delivery of the stream is asked for. -/
  | await
  | send (s : Signal)
  deriving Repr

/-! ## 2. The two short sources -/

/-- **An inquiry**: one question about a task, and one signal with the answer. -/
inductive Inquiry where
  | fresh
  | asking
  | ended
  deriving Repr, DecidableEq, Inhabited

def Inquiry.poll (taskId : String) (cancelled : Bool) (news : Option News) :
    Inquiry → Option (Inquiry × List Deed)
  | fresh => if cancelled then some (ended, []) else some (asking, [.ask (.status taskId)])
  | asking =>
    if cancelled then some (ended, [])
    else
      match news with
      | some (.status result) => some (ended, [.send (.fallback result)])
      | _ => none
  | ended => none

/-- **The period of grace**: one wait, and one signal at its end. -/
inductive Grace where
  | fresh
  | waiting (deadline : Nat)
  | ended
  deriving Repr, DecidableEq, Inhabited

def Grace.poll (length now : Nat) (cancelled : Bool) : Grace → Option (Grace × List Deed)
  | fresh => if cancelled then some (ended, []) else some (waiting (now + length), [])
  | waiting deadline =>
    if cancelled then some (ended, [])
    else if deadline ≤ now then some (ended, [.send .graceElapsed])
    else none
  | ended => none

/-! ## 3. Sources -/

/-- **A source.** -/
inductive Source where
  | subscriber (taskId : String) (idle : Nat) (stage : Subscriber.Stage)
  | inquiry (taskId : String) (stage : Inquiry)
  | grace (length : Nat) (stage : Grace)
  | probe (stage : Probe.Stage)
  deriving Repr, Inhabited

namespace Source

/-- A source that has done its work. -/
def isOver : Source → Bool
  | subscriber _ _ .ended | inquiry _ .ended | grace _ .ended | probe (.ended _) => true
  | _ => false

/-- When a source goes on by itself. -/
def deadline? : Source → Option Nat
  | subscriber _ _ stage => stage.deadline?
  | grace _ (.waiting deadline) => some deadline
  | probe stage => stage.deadline?
  | _ => none

/-- The news that a subscriber understands. -/
def subscriberNews? : News → Option Subscriber.News
  | .handshake result => some (.handshake result)
  | .delivery d => some (.delivery d)
  | _ => none

/-- The answer that a watch understands. -/
def probeNews? : News → Option Bool
  | .liveness up => some up
  | _ => none

/-- A subscriber's deed. -/
def ofSubscriberDeed (taskId : String) : Subscriber.Deed → Deed
  | .attach => .ask (.subscribe taskId)
  | .await => .await
  | .send s => .send s

/-- A watch's deed. -/
def ofProbeDeed : Probe.Deed → Deed
  | .report r => .send (.probe r)
  | .check => .ask .liveness

/-- The last signal of a watch, unless it is cancelled. -/
def farewell (cancelled : Bool) : Probe.Stage → List Deed
  | .ended outcome => if cancelled then [] else [.send (.probeResolved outcome)]
  | _ => []

/-- **One step** at a moment, given whether the source is cancelled by then and what has
arrived.  `none`: it goes on waiting, or it is over. -/
def poll (now : Nat) (cancelled : Bool) (news : Option News) :
    Source → Option (Source × List Deed)
  | subscriber taskId idle stage => do
    let (stage, deeds) ← stage.poll idle now cancelled (news.bind subscriberNews?)
    some (subscriber taskId idle stage, deeds.map (ofSubscriberDeed taskId))
  | inquiry taskId stage => do
    let (stage, deeds) ← stage.poll taskId cancelled news
    some (inquiry taskId stage, deeds)
  | grace length stage => do
    let (stage, deeds) ← stage.poll length now cancelled
    some (grace length stage, deeds)
  | probe stage => do
    let (stage, deeds) ← stage.poll now cancelled (news.bind probeNews?)
    some (probe stage, deeds.map ofProbeDeed ++ farewell cancelled stage)

end Source

end TaskWatch
