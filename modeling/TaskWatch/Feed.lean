/-
# The feed of a page

A page that is open follows the console through a `Feed`: a stream of frames, one for the
picture at the start, one for every picture after it, and one for every notice that the
page has to refresh.

**Pictures** are not queued.  The feed remembers the newest one and whether it has looked at
it; of several that are published between two looks only the last is seen.

**Notices** are queued, but only the newest `capacity` of them; what the feed does not take
in time is lost, oldest first.

**The page** may read slowly.  A buffer holds `Feed.room` frames for it, and one more may
wait to be put there; while that one waits, the feed takes nothing.

The feed ends when the page has left, and when the console's side of either source is
closed and nothing is left in it.  `Feed.step` is one step of the feed or of what is around
it; `Feed.settle` is what the feed does when nothing disturbs it.
-/
import TaskWatch.Wire.View
import TaskWatch.Sse.Frame

namespace TaskWatch

/-! ## 1. Frames -/

/-- **A frame of a feed.** -/
inductive Frame where
  | state (v : View)
  | refresh (taskId : String)
  deriving Repr, DecidableEq, Inhabited

namespace Frame

/-- The name of a frame's event. -/
def event : Frame → String
  | state _ => "state"
  | refresh _ => "refresh"

/-- The data of a frame. -/
def toJson : Frame → Json
  | state v => v.toJson
  | refresh taskId => .object [("taskId", .string taskId)]

/-- **The text of a frame.** -/
def text (f : Frame) : String :=
  Sse.write f.event f.toJson.write

/-- Whether a frame shows a picture. -/
def isState : Frame → Bool
  | state _ => true
  | refresh _ => false

end Frame

/-! ## 2. The feed and its steps -/

/-- **What a feed is doing.** -/
inductive Feed.Stage where
  /-- It has not looked at anything yet. -/
  | fresh
  /-- It waits for a picture, a notice or an end. -/
  | watching
  /-- It waits for room in the buffer. -/
  | holding (f : Frame)
  | ended
  deriving Repr, DecidableEq, Inhabited

/-- **A feed**, with its two sources and its buffer. -/
structure Feed where
  /-- How many notices are kept. -/
  capacity : Nat
  /-- The newest picture. -/
  view : View
  /-- The newest picture has not been looked at. -/
  unseen : Bool := false
  viewsOpen : Bool := true
  /-- The notices that were not taken, oldest first. -/
  notices : List String := []
  noticesOpen : Bool := true
  stage : Feed.Stage := .fresh
  /-- The frames that the page has not read, oldest first. -/
  buffer : List Frame := []
  /-- The page has left. -/
  abandoned : Bool := false
  deriving Repr

namespace Feed

/-- How many frames the buffer holds. -/
def room : Nat := 32

/-- How many notices the console keeps for a page. -/
def noticesKept : Nat := 16

/-- **A feed that opens now**, with nothing in its queues. -/
def opening (capacity : Nat) (view : View) : Feed :=
  { capacity, view }

/-- **What can happen next.** -/
inductive Move where
  | publish (v : View)
  | notify (taskId : String)
  /-- No more pictures will be published. -/
  | closeViews
  /-- No more notices will be given. -/
  | closeNotices
  /-- The page leaves. -/
  | leave
  /-- The page reads the oldest frame. -/
  | read
  /-- The feed looks at the first picture. -/
  | begin
  /-- The feed looks at a new picture. -/
  | takeView
  /-- The feed takes a notice. -/
  | takeNotice
  /-- The frame that waits is put into the buffer. -/
  | deliver
  /-- The feed ends. -/
  | stop
  deriving Repr, DecidableEq, Inhabited

/-- Queue a notice; the oldest is lost if there are too many. -/
def enqueue (f : Feed) (taskId : String) : Feed :=
  let notices := f.notices ++ [taskId]
  { f with notices := notices.drop (notices.length - f.capacity) }

/-- A feed with nothing left to look at, and no hope of more. -/
def isExhausted (f : Feed) : Bool :=
  !f.viewsOpen && !f.unseen || !f.noticesOpen && f.notices.isEmpty

/-- **One step**, and the frame that the feed produces in it, if it does.  `none`: the step
cannot happen now. -/
def step (f : Feed) : Move → Option (Feed × Option Frame)
  | .publish v => if f.viewsOpen then some ({ f with view := v, unseen := true }, none) else none
  | .notify taskId => if f.noticesOpen then some (f.enqueue taskId, none) else none
  | .closeViews => some ({ f with viewsOpen := false }, none)
  | .closeNotices => some ({ f with noticesOpen := false }, none)
  | .leave => some ({ f with abandoned := true, buffer := [] }, none)
  | .read =>
    match f.buffer with
    | [] => none
    | _ :: buffer => some ({ f with buffer }, none)
  | .begin =>
    match f.stage with
    | .fresh =>
      let frame := Frame.state f.view
      some ({ f with unseen := false, stage := .holding frame }, some frame)
    | _ => none
  | .takeView =>
    match f.stage, f.unseen with
    | .watching, true =>
      let frame := Frame.state f.view
      some ({ f with unseen := false, stage := .holding frame }, some frame)
    | _, _ => none
  | .takeNotice =>
    match f.stage, f.notices with
    | .watching, taskId :: notices =>
      let frame := Frame.refresh taskId
      some ({ f with notices, stage := .holding frame }, some frame)
    | _, _ => none
  | .deliver =>
    match f.stage with
    | .holding frame =>
      if !f.abandoned && f.buffer.length < room then
        some ({ f with buffer := f.buffer ++ [frame], stage := .watching }, none)
      else none
    | _ => none
  | .stop =>
    match f.stage with
    | .watching =>
      if f.abandoned || f.isExhausted then some ({ f with stage := .ended }, none) else none
    | .holding _ => if f.abandoned then some ({ f with stage := .ended }, none) else none
    | _ => none

/-- **A sequence of steps**, and the frames that the feed produces.  `none`: one of them
cannot happen. -/
def steps (f : Feed) : List Move → Option (Feed × List Frame)
  | [] => some (f, [])
  | m :: rest => do
    let (f, frame) ← f.step m
    let (f, frames) ← f.steps rest
    some (f, frame.toList ++ frames)

/-- A feed that has ended. -/
def isOver (f : Feed) : Bool :=
  f.stage = .ended

/-- A feed whose page has left or has read all frames of. -/
def isSpent (f : Feed) : Bool :=
  f.isOver && f.buffer.isEmpty

/-! ## 3. A feed left to itself -/

/-- **The feed's own next step**, if it has one.  It ends as soon as the page has left; a
picture comes before a notice, and what is left in a source before its end. -/
def next? (f : Feed) : Option Move :=
  match f.stage with
  | .fresh => some .begin
  | .watching =>
    if f.abandoned then some .stop
    else if f.unseen then some .takeView
    else if !f.notices.isEmpty then some .takeNotice
    else if f.isExhausted then some .stop
    else none
  | .holding _ =>
    if f.abandoned then some .stop
    else if f.buffer.length < room then some .deliver
    else none
  | .ended => none

/-- The feed's own steps, at most `fuel` of them. -/
def settleWithin (f : Feed) : Nat → Feed
  | 0 => f
  | fuel + 1 =>
    match f.next?.bind f.step with
    | some (f, _) => f.settleWithin fuel
    | none => f

/-- **The feed after all steps of its own.**  Every picture and every notice takes two of
them, and the end takes one. -/
def settle (f : Feed) : Feed :=
  f.settleWithin (2 * f.notices.length + 6)

/-- Reading, in at most `fuel` rounds; each begins with a feed that has settled. -/
def drainWithin (f : Feed) : Nat → Feed × List Frame
  | 0 => (f, [])
  | fuel + 1 =>
    let f := f.settle
    match f.buffer with
    | [] => (f, [])
    | frames =>
      let (f, more) := { f with buffer := [] }.drainWithin fuel
      (f, frames ++ more)

/-- **The page reads until nothing comes any more**: the feed after that, and the frames. -/
def drain (f : Feed) : Feed × List Frame :=
  f.drainWithin (f.notices.length + 4)

end Feed

end TaskWatch
