/-
# A server that follows a script

A rehearsal puts the console, or one of its sources, in front of a server that answers as it
was told beforehand.  For each of its services a `Server` has a queue of answers, each with
the time it takes, or the word that it never comes.  Streams and snapshots have a queue per
task.  Every answer is given once.  When a queue is used up, the service falls back on an
answer of its own, so it always has one.

The server keeps a record of the requests, each with the moment at which it began.
-/
import TaskWatch.Source.Subscriber
import TaskWatch.Source
import TaskWatch.Sse.EventStream

namespace TaskWatch.Rehearsal

/-! ## 1. Answers -/

/-- **An answer and the time it takes.**  `none`: it never comes. -/
abbrev Answer (α : Type) := Option (Nat × α)

/-- **What a server is asked.** -/
inductive Request where
  | launch (params : Params)
  | cancel (taskId : String)
  | subscribe (taskId : String)
  | status (taskId : String)
  | liveness
  | install (package : Package)
  deriving Repr, DecidableEq, Inhabited

/-- Queues by name: the next entry of a name's queue, and the queues without it. -/
def takeFrom {α : Type} (name : String) :
    List (String × List α) → Option α × List (String × List α)
  | [] => (none, [])
  | (other, queue) :: rest =>
    if other = name then (queue.head?, (other, queue.drop 1) :: rest)
    else
      let (entry, rest) := takeFrom name rest
      (entry, (other, queue) :: rest)

/-! ## 2. The server -/

/-- **A server and its script.** -/
structure Server where
  /-- Without a result, a launch starts a task whose id the server makes up. -/
  launches : List (Nat × Option (Except TaskError String)) := []
  cancels : List (Answer (Except TransportError Unit)) := []
  streams : List (String × List Subscriber.Subscription) := []
  statuses : List (String × List (Answer (Except TransportError Snapshot))) := []
  liveness : List (Answer Bool) := []
  /-- The answer to every further check. -/
  thereafter : Bool := true
  installs : List (Nat × Except TaskError InstallReceipt) := []
  /-- How many ids were made up. -/
  madeUp : Nat := 0
  /-- The requests with their moments, newest first. -/
  record : List (Nat × Request) := []
  deriving Repr

namespace Server

/-- The requests in the order in which they began. -/
def requests (s : Server) : List (Nat × Request) :=
  s.record.reverse

/-- Take down a request. -/
def note (s : Server) (now : Nat) (r : Request) : Server :=
  { s with record := (now, r) :: s.record }

/-- The next id that the server makes up. -/
def freshId (s : Server) : String :=
  s!"task-{s.madeUp + 1}"

/-- **A launch.** -/
def launch (s : Server) (now : Nat) (params : Params) :
    Nat × Except TaskError String × Server :=
  let s := s.note now (.launch params)
  let (after, scripted) := s.launches.head?.getD (0, none)
  let s := { s with launches := s.launches.drop 1 }
  match scripted with
  | some result => (after, result, s)
  | none => (after, .ok s.freshId, { s with madeUp := s.madeUp + 1 })

/-- **A request to stop a task.** -/
def cancel (s : Server) (now : Nat) (taskId : String) :
    Answer (Except TransportError Unit) × Server :=
  let s := s.note now (.cancel taskId)
  (s.cancels.head?.getD (some (0, .ok ())), { s with cancels := s.cancels.drop 1 })

/-- **A subscription.**  Without a script there is no stream to attach to. -/
def subscribe (s : Server) (now : Nat) (taskId : String) : Subscriber.Subscription × Server :=
  let s := s.note now (.subscribe taskId)
  let (entry, streams) := takeFrom taskId s.streams
  let absent : Subscriber.Subscription :=
    { handshake := some (0, .error (.requestFailed "no stream")), arrivals := [] }
  (entry.getD absent, { s with streams })

/-- **A question about a task.** -/
def status (s : Server) (now : Nat) (taskId : String) :
    Answer (Except TransportError Snapshot) × Server :=
  let s := s.note now (.status taskId)
  let (entry, statuses) := takeFrom taskId s.statuses
  (entry.getD (some (0, .ok .notFound)), { s with statuses })

/-- **A liveness check.** -/
def check (s : Server) (now : Nat) : Answer Bool × Server :=
  let s := s.note now .liveness
  (s.liveness.head?.getD (some (0, s.thereafter)), { s with liveness := s.liveness.drop 1 })

/-- **An upload.** -/
def install (s : Server) (now : Nat) (package : Package) :
    Nat × Except TaskError InstallReceipt × Server :=
  let s := s.note now (.install package)
  let (after, result) := s.installs.head?.getD (0, .ok {})
  (after, result, { s with installs := s.installs.drop 1 })

/-- How the checks of a lone watch are answered. -/
def answers (s : Server) : Probe.Answers := fun n =>
  s.liveness[n]?.getD (some (0, s.thereafter))

end Server

/-! ## 3. Streams of bytes -/

/-- **The deliveries of a stream of bytes.**  Each chunk comes some time after it is asked
for.  A chunk that completes no event only adds its time to the next delivery; the second
event of a chunk is there at once.  `ending` is what is left after the last chunk, given the
time that has been waited for it. -/
def arrivals (ending : Nat → List Subscriber.Arrival) (d : Sse.Decoder) (waited : Nat) :
    List (Nat × Sse.Chunk) → List Subscriber.Arrival
  | [] => ending waited
  | (after, .error e) :: _ => [⟨waited + after, .error e⟩]
  | (after, .ok bytes) :: rest =>
    let (d, payloads) := d.push bytes
    match Sse.eventsOf payloads with
    | [] => arrivals ending d (waited + after) rest
    | e :: es =>
      ⟨waited + after, .event e⟩ ::
        (es.map fun e => ⟨0, .event e⟩) ++ arrivals ending d 0 rest

/-- The end of a stream that the server closes. -/
def closing (waited : Nat) : List Subscriber.Arrival :=
  [⟨waited, .closed⟩]

/-- The end of a stream that stays open. -/
def silence (_waited : Nat) : List Subscriber.Arrival :=
  []

end TaskWatch.Rehearsal
