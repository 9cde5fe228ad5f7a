/-
# Rehearsing the console

A play puts the whole console in front of a scripted server, and pages in front of the
console.  Its script is a list of cues, one actor per cue: an actor waits, calls an
operation, sends a request, or opens or closes a page.

**Who acts when.**  There is one stage, and whoever is on it goes on until he has to wait.
The actor in the lead goes first; while he waits, everybody who can do something takes a
turn, in the order in which they became able to.  When nobody can, the clock moves on to the
next moment at which something happens.  So everything takes place as early as possible, and
everything that the console does in a play is a sequence of steps of `Console.step`.

An actor can also act in the background; then the next cue does not wait for his end.
-/
import TaskWatch.Rehearsal.Server
import TaskWatch.Routes

namespace TaskWatch.Rehearsal

/-! ## 1. Cues, actors and pages -/

/-- **What an actor does.** -/
inductive Cue where
  | sleep (ms : Nat)
  /-- Nothing. -/
  | pause
  | operate (op : Operation)
  | request (r : Http.Request)
  | openPage
  /-- The page that was opened last leaves. -/
  | closePage
  deriving Repr, Inhabited

/-- **How an actor's part ends.** -/
inductive Ending where
  | nothing
  | reply (r : Reply)
  | response (r : Http.Response)
  deriving Repr, Inhabited

inductive Actor.Stage where
  | fresh
  | sleeping (due : Nat)
  /-- Waiting for the end of a call. -/
  | calling (call : Nat)
  | done (moment : Nat) (ending : Ending)
  deriving Repr, Inhabited

/-- **An actor.** -/
structure Actor where
  cue : Cue
  stage : Actor.Stage := .fresh
  deriving Repr, Inhabited

/-- The moment and the ending of an actor's part. -/
def Actor.ending? (a : Actor) : Option (Nat × Ending) :=
  match a.stage with
  | .done moment ending => some (moment, ending)
  | _ => none

/-- **A page**: its feed, and the frames that it has read, newest first. -/
structure Page where
  feed : Feed
  read : List (Nat × Frame) := []
  deriving Repr

/-- **What a page has seen**: of pictures that it read one after another at one moment, only
the last one counts. -/
def Page.seen (p : Page) : List (Nat × Frame) :=
  p.read.foldl
    (fun seen (t, frame) =>
      match seen with
      | (t', next) :: _ =>
        if t = t' && frame.isState && next.isState then seen else (t, frame) :: seen
      | [] => [(t, frame)])
    []

/-- A move of what is around a page's feed. -/
def Page.move (m : Feed.Move) (page : Page) : Page :=
  match page.feed.step m with
  | some (feed, _) => { page with feed }
  | none => page

/-- **Who can be on the stage.** -/
inductive Part where
  | actor (k : Nat)
  | run (r : Nat)
  | source (r : Nat)
  | page (k : Nat)
  deriving Repr, DecidableEq, Inhabited

/-! ## 2. The play -/

/-- **A play.** -/
structure Play where
  console : Console
  server : Server
  actors : List Actor := []
  pages : List Page := []
  /-- Everybody who can do something, in the order in which they became able to. -/
  ready : List Part := []
  /-- The actor in the lead. -/
  lead : Option Nat := none
  /-- The answers to calls that are on their way, each with its moment. -/
  callNews : List (Nat × Nat × CallNews) := []
  /-- The news for the sources of runs that are on their way. -/
  sourceNews : List (Nat × Nat × News) := []
  /-- What the streams of runs will deliver. -/
  streams : List (Nat × List Subscriber.Arrival) := []
  /-- The refreshes, newest first. -/
  refreshes : List (Nat × Task) := []
  deriving Repr

namespace Play

/-- A play before its first cue. -/
def opening (settings : ConsoleSettings) (wall : WallClock) (server : Server) : Play :=
  { console := .new settings wall, server }

def now (p : Play) : Nat :=
  p.console.now

/-- Replace what belongs to a number. -/
def assign {α : Type} (key : Nat) (value : Option α) (entries : List (Nat × α)) :
    List (Nat × α) :=
  (value.map (key, ·)).toList ++ entries.filter (·.1 ≠ key)

/-- News that have arrived. -/
def arrived {α : Type} (now key : Nat) (entries : List (Nat × Nat × α)) : Option α :=
  (entries.lookup key).bind fun (due, news) => if due ≤ now then some news else none

/-- Send news to the source of a run. -/
def send (p : Play) (r : Nat) (answer : Answer News) : Play :=
  { p with
    sourceNews := assign r (answer.map fun (after, news) => (p.now + after, news)) p.sourceNews }

/-! ## 3. What the console's steps cause -/

/-- **What a note of the console causes.** -/
def heed (p : Play) : Note → Play
  | .launch i params =>
    let (after, result, server) := p.server.launch p.now params
    { p with
      server
      callNews := assign i (some (p.now + after, .launched result)) p.callNews }
  | .install i package =>
    let (after, result, server) := p.server.install p.now package
    { p with
      server
      callNews := assign i (some (p.now + after, .installed result)) p.callNews }
  | .ask r (.subscribe taskId) =>
    let (subscription, server) := p.server.subscribe p.now taskId
    let p := { p with
      server, streams := assign r (some subscription.arrivals) p.streams }
    p.send r (subscription.handshake.map fun (after, result) => (after, .handshake result))
  | .ask r (.status taskId) =>
    let (answer, server) := p.server.status p.now taskId
    { p with server }.send r (answer.map fun (after, result) => (after, .status result))
  | .ask r .liveness =>
    let (answer, server) := p.server.check p.now
    { p with server }.send r (answer.map fun (after, up) => (after, .liveness up))
  | .await r =>
    match p.streams.lookup r with
    | some (arrival :: rest) =>
      { p with streams := assign r (some rest) p.streams }.send r
        (some (arrival.after, .delivery arrival.delivery))
    | _ => p.send r none
  | .remoteCancel _ taskId => { p with server := (p.server.cancel p.now taskId).2 }
  | .refresh _ task =>
    { p with
      refreshes := (p.now, task) :: p.refreshes
      pages := p.pages.map (Page.move (.notify task.id)) }

/-- **After a step of the console**: a new picture goes to the pages, and its notes are
heeded. -/
def follow (p : Play) (c : Console) (notes : List Note) : Play :=
  let pages :=
    if c.revision = p.console.revision then p.pages
    else p.pages.map (Page.move (.publish c.view))
  notes.foldl heed { p with console := c, pages }

/-! ## 4. Steps -/

/-- Move an actor on. -/
def setActor (p : Play) (k : Nat) (stage : Actor.Stage) : Play :=
  { p with actors := p.actors.modify k fun a => { a with stage } }

/-- An actor's part ends. -/
def finish (p : Play) (k : Nat) (ending : Ending) : Play :=
  p.setActor k (.done p.now ending)

/-- An actor calls an operation. -/
def call (p : Play) (k : Nat) (op : Operation) : Play :=
  match p.console.step (.invoke op) with
  | some (c, notes) => (p.follow c notes).setActor k (.calling p.console.calls.length)
  | none => p

/-- Open a page. -/
def openPage (p : Play) : Play :=
  { p with pages := p.pages ++ [{ feed := .opening Feed.noticesKept p.console.view }] }

/-- Close the last of the pages that are open. -/
def closeLast : List Page → List Page
  | [] => []
  | page :: rest =>
    if rest.any (!·.feed.abandoned) || page.feed.abandoned then page :: closeLast rest
    else page.move .leave :: rest

/-- **An actor begins.** -/
def beginActor (p : Play) (k : Nat) : Cue → Play
  | .sleep ms => if ms = 0 then p.finish k .nothing else p.setActor k (.sleeping (p.now + ms))
  | .pause => p.finish k .nothing
  | .operate op => p.call k op
  | .request r =>
    match requestHandling p.console.wall r with
    | .answer response => p.finish k (.response (portion r response))
    | .showView => p.finish k (.response (portion r (viewResponse p.console.view)))
    | .operate op => p.call k op
    | .openFeed => p.openPage.finish k (.response .ofFeed)
  | .openPage => p.openPage.finish k (.response .ofFeed)
  | .closePage => { p with pages := closeLast p.pages }.finish k .nothing

/-- How a reply looks to the actor who called. -/
def endingOf (view : View) (cue : Cue) (reply : Reply) : Ending :=
  match cue with
  | .request _ => .response (reply.response view)
  | _ => .reply reply

/-- **One step of an actor.** -/
def stepActor (p : Play) (k : Nat) : Option Play := do
  let actor ← p.actors[k]?
  match actor.stage with
  | .fresh => some (p.beginActor k actor.cue)
  | .sleeping due => if due ≤ p.now then some (p.finish k .nothing) else none
  | .calling i =>
    match (p.console.calls[i]?).map Call.stage with
    | some (.done reply) => some (p.finish k (endingOf p.console.view actor.cue reply))
    | _ =>
      let news := arrived p.now i p.callNews
      let (c, notes) ← p.console.step (.call i news)
      some ({ p with callNews := assign i none p.callNews }.follow c notes)
  | .done _ _ => none

/-- **One step of a run's source.**  News that it has heard are gone, and so are all news
for a source that is over. -/
def stepSource (p : Play) (r : Nat) : Option Play := do
  let news := arrived p.now r p.sourceNews
  let (c, notes) ← p.console.step (.source r news)
  let isOver := ((c.runs[r]?).bind Run.source).all fun (source, _) => source.isOver
  let sourceNews := if news.isSome || isOver then assign r none p.sourceNews else p.sourceNews
  some ({ p with sourceNews }.follow c notes)

/-- **One step of a page**: it reads all there is to read. -/
def stepPage (p : Play) (k : Nat) : Option Play := do
  let page ← p.pages[k]?
  if page.feed.next?.isNone && page.feed.buffer.isEmpty then none
  else
    let (feed, frames) := page.feed.drain
    let page : Page := { feed, read := (frames.map (p.now, ·)).reverse ++ page.read }
    some { p with pages := p.pages.set k page }

/-- **One step of whoever is on the stage.**  `none`: he has to wait. -/
def step (p : Play) : Part → Option Play
  | .actor k => p.stepActor k
  | .run r => do
    let (c, notes) ← p.console.step (.run r)
    some (p.follow c notes)
  | .source r => p.stepSource r
  | .page k => p.stepPage k

/-! ## 5. Turns -/

/-- Everybody. -/
def everybody (p : Play) : List Part :=
  (List.range p.actors.length).map .actor ++
    (List.range p.console.runs.length).flatMap (fun r => [.source r, .run r]) ++
    (List.range p.pages.length).map .page

/-- **Everybody who has become able to do something gets in line.** -/
def wake (p : Play) : Play :=
  let woken := p.everybody.filter fun part =>
    !p.ready.contains part && some part != p.lead.map .actor && (p.step part).isSome
  { p with ready := p.ready ++ woken }

/-- Steps of one part until he has to wait, at most `fuel` of them. -/
def goOn (p : Play) (part : Part) : Nat → Play
  | 0 => p
  | fuel + 1 =>
    match p.step part with
    | some p => p.goOn part fuel
    | none => p

/-- A play that goes on for longer than this is given up. -/
def patience : Nat := 1000000

/-- **A turn**: somebody goes on until he has to wait. -/
def turn (p : Play) (part : Part) : Play :=
  (p.goOn part patience).wake

/-- **Turns until nobody is in line**, at most `fuel` of them. -/
def calm (p : Play) : Nat → Play
  | 0 => p
  | fuel + 1 =>
    match p.ready with
    | [] => p
    | part :: rest => ({ p with ready := rest }.turn part).calm fuel

/-- The next moment at which something happens by itself. -/
def nextMoment? (p : Play) : Option Nat :=
  let sleeping := p.actors.filterMap fun a =>
    match a.stage with
    | .sleeping due => some due
    | _ => none
  let moments := p.console.deadlines ++ sleeping ++ p.callNews.map (·.2.1) ++
    p.sourceNews.map (·.2.1)
  (moments.filter (p.now < ·)).min?

/-- **The clock moves on.**  `none`: nothing will ever happen. -/
def tick? (p : Play) : Option Play := do
  let moment ← p.nextMoment?
  let (c, notes) ← p.console.step (.elapse (moment - p.now))
  some (p.follow c notes)

/-- Whether an actor's part has ended. -/
def isDone (p : Play) (k : Nat) : Bool :=
  (p.actors[k]?).all fun a => a.ending?.isSome

/-- **An actor in the lead**, up to the end of his part.  `none`: it never ends. -/
def leadThrough (p : Play) (k : Nat) : Nat → Option Play
  | 0 => none
  | fuel + 1 =>
    let p := p.turn (.actor k)
    if p.isDone k then some p
    else
      let p := p.calm patience
      if (p.step (.actor k)).isSome then p.leadThrough k fuel
      else p.tick?.bind fun p => p.leadThrough k fuel

/-! ## 6. The whole play -/

/-- **A scene**: the moment after a cue, the picture then, and how the actor's part ended,
unless he acts in the background. -/
structure Scene where
  moment : Nat
  view : View
  ending : Option Ending
  deriving Repr

/-- **One cue.** -/
def perform (p : Play) (cue : Cue) (background : Bool) : Option (Play × Scene) :=
  let k := p.actors.length
  let p : Play := { p with actors := p.actors ++ [{ cue }] }
  if background then
    let p : Play := { p with ready := p.ready ++ [.actor k] }
    some (p, { moment := p.now, view := p.console.view, ending := none })
  else do
    let p ← { p with lead := some k }.leadThrough k patience
    let ending := ((p.actors[k]?).bind Actor.ending?).map Prod.snd
    some ({ p with lead := none }, { moment := p.now, view := p.console.view, ending })

/-- **A script of cues**, each with the word whether it is in the background. -/
def performAll (p : Play) : List (Cue × Bool) → Option (Play × List Scene)
  | [] => some (p, [])
  | (cue, background) :: rest => do
    let (p, scene) ← p.perform cue background
    let (p, scenes) ← p.performAll rest
    some (p, scene :: scenes)

end Play

end TaskWatch.Rehearsal
