/-
# The program

Reads the settings from the environment, starts up, and then rehearses the console at the
terminal, in front of a server without a script.  Every line of the input is a cue:
`sleep` and a number of milliseconds, or a request, its method, target, media type and body
with a space between each two.  Every response is written as its status and its body.
-/
import TaskWatch.Startup
import TaskWatch.Rehearsal.Play

namespace TaskWatch

/-- The names of all variables that are looked at. -/
def variableNames : List String :=
  ["PORT", "DANMU_SERVER_URL", "LIVENESS_PATH", "LIVENESS_TIMEOUT_SECS",
   "REQUEST_TIMEOUT_SECS", "STREAM_IDLE_TIMEOUT_SECS", "DEGRADED_GRACE_SECS",
   "REFRESH_DELAY_MS", "MAX_REATTACH", "RESTART_BUDGET_SECS", "RESTART_DOWN_WINDOW_SECS",
   "RESTART_DOWN_INTERVAL_MS", "RESTART_UP_INTERVAL_MS"]

/-- The environment of this process. -/
def processEnvironment : IO Environment := do
  let values ← variableNames.filterMapM fun name => do
    return (← IO.getEnv name).map (name, ·)
  return fun name => values.lookup name

/-- **The cue that a line gives.** -/
def Rehearsal.Cue.ofLine (line : String) : Rehearsal.Cue :=
  match Text.cut (· = ' ') line.toList with
  | word :: rest =>
    let argument := String.ofList (Text.glue ' ' (rest.drop 2))
    match String.ofList word, rest with
    | "sleep", [ms] => .sleep ((digits? ms).getD 0)
    | method, target :: rest =>
      .request {
        method
        target := String.ofList target
        contentType := rest.head?.map String.ofList
        body := Text.Utf8.encode argument }
    | _, [] => .pause
  | [] => .pause

/-- How a cue's ending is written. -/
def Rehearsal.Ending.text : Rehearsal.Ending → String
  | .response r =>
    match r.body with
    | .text s => s!"{r.status} {s}"
    | .empty | .feed => toString r.status
  | .nothing | .reply _ => ""

/-- Cue after cue, until the input ends. -/
partial def rehearse (input : IO.FS.Stream) (play : Rehearsal.Play) : IO Unit := do
  let line ← input.getLine
  if line.isEmpty then return
  match play.perform (.ofLine (Text.trim line)) false with
  | none => return
  | some (play, scene) =>
    match scene.ending with
    | some ending => IO.println ending.text
    | none => return
    rehearse input play

end TaskWatch

open TaskWatch in
def main : IO UInt32 := do
  match startUp (← processEnvironment) Service.Network.absent (fun _ => false) "form" with
  | .error e =>
    IO.eprintln s!"Error: {e.message}"
    return 1
  | .ok (settings, _) =>
    let wall : WallClock := { stamp := "1970-01-01T00:00:00+00:00", millis := "0" }
    rehearse (← IO.getStdin) (.opening settings.console wall {})
    return 0
