/-
# Rehearsing one part

Short rehearsals, each of one part of the console alone with a scripted server: inquiries
about a task one after another, and requests to launch and to cancel.  The time that an
answer takes passes before the next request begins.
-/
import TaskWatch.Rehearsal.Server
import TaskWatch.Launch

namespace TaskWatch.Rehearsal

/-! ## 1. Inquiries -/

/-- **One inquiry**: the signals it sends, the moment at which it is over, and the server
after it.  The cancellation is given as a moment.  An inquiry that is never answered and
never cancelled is not over; the moment is then the one at which it began. -/
def inquire (s : Server) (now : Nat) (taskId : String) (c : Cancellation) :
    List Signal × Nat × Server :=
  match Inquiry.fresh.poll taskId (c.any (· ≤ now)) none with
  | some (.asking, _) =>
    let (answer, s) := s.status now taskId
    let report (moment : Nat) (undisturbed : Bool) (news : Option News) :=
      let deeds := ((Inquiry.asking.poll taskId (!undisturbed) news).map Prod.snd).getD []
      (deeds.filterMap fun
        | .send signal => some signal
        | _ => none, moment, s)
    match answer, c with
    | some (after, result), c =>
      let (moment, undisturbed) := waitUntil now (now + after) c
      report moment undisturbed (some (.status result))
    | none, some moment => report moment false none
    | none, none => ([], now, s)
  | _ => ([], now, s)

/-- **Inquiries one after another**, each with a cancellation of its own, so much later than
it begins. -/
def inquiries (s : Server) (now : Nat) (taskId : String) (patience : Option Nat) :
    Nat → List Signal × Nat × Server
  | 0 => ([], now, s)
  | n + 1 =>
    let (signals, now, s) := inquire s now taskId (patience.map (now + ·))
    let (more, now, s) := inquiries s now taskId patience n
    (signals ++ more, now, s)

/-! ## 2. Launches and cancels -/

/-- **An errand**: launch a task, or tell the server to stop one and look after a while
whether the request is over. -/
inductive Errand where
  | launch (params : Params)
  | cancel (taskId : String) (wait : Nat)
  deriving Repr, Inhabited

/-- **What came of an errand.** -/
inductive Errand.Result where
  | launched (result : Except TaskError String)
  | cancelled (isDone : Bool)
  deriving Repr

/-- **One errand**: its result, the moment after it, and the server after it. -/
def Errand.run (s : Server) (now : Nat) : Errand → Errand.Result × Nat × Server
  | .launch params =>
    match params.prepare with
    | .error e => (.launched (.error e), now, s)
    | .ok params =>
      let (after, result, s) := s.launch now params
      (.launched result, now + after, s)
  | .cancel taskId wait =>
    let (answer, s) := s.cancel now taskId
    (.cancelled (answer.any fun (after, _) => after < wait), now + wait, s)

/-- **Errands one after another.** -/
def Errand.runAll (s : Server) (now : Nat) : List Errand → List Errand.Result × Server
  | [] => ([], s)
  | e :: rest =>
    let (result, now, s) := e.run s now
    let (results, s) := runAll s now rest
    (result :: results, s)

end TaskWatch.Rehearsal
