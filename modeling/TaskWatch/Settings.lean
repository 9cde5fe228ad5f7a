/-
# Settings

What can be set from outside, through thirteen environment variables.  A setting that is
absent, blank or not understood has its default, and each setting depends on its own
variable only.

**Numbers** are decimal digits with an optional plus sign, blanks around them left aside.  A
number that does not fit its setting counts as not understood.

**Lengths of time** are never zero, with one exception: zero counts as not understood, so no
timer is ever set to a period of zero.  The exception is the delay before a refresh, which
may be zero.
-/
import TaskWatch.Duration
import TaskWatch.Text.Blank

namespace TaskWatch

/-! ## 1. The settings -/

/-- **The watch over a restart.** -/
structure ProbeSettings where
  /-- The time for all of it. -/
  budget : Nat := 120000
  /-- The longest wait for the server to go down. -/
  downWindow : Nat := 30000
  /-- The time between two checks while the server has yet to go down. -/
  downInterval : Nat := 1000
  /-- The time between two checks while the server has yet to come back. -/
  upInterval : Nat := 2000
  /-- The share of the progress that the first phase may show. -/
  downCap : Float := 0.30
  /-- The share of the progress that the second phase may show. -/
  upCap : Float := 0.95
  deriving Repr, Inhabited

/-- **The console.** -/
structure ConsoleSettings where
  /-- A stream without an event for this long has stalled. -/
  idleTimeout : Nat := 300000
  /-- The period of grace while nothing is known of a task. -/
  grace : Nat := 10000
  /-- How long the last message is shown before the refresh. -/
  refreshDelay : Nat := 1500
  /-- How often a stream is attached again. -/
  maxReattach : Nat := 3
  probe : ProbeSettings := {}
  deriving Repr, Inhabited

/-- **The server that the tasks run on.** -/
structure ServerSettings where
  baseUrl : String := "http://127.0.0.1:7768"
  livenessPath : String := "/health"
  livenessTimeout : Nat := 3000
  requestTimeout : Nat := 15000
  deriving Repr, DecidableEq, Inhabited

/-- **All settings.** -/
structure Settings where
  port : Nat := 3000
  server : ServerSettings := {}
  console : ConsoleSettings := {}
  deriving Repr, Inhabited

/-! ## 2. Reading them -/

/-- The values of the environment's variables. -/
abbrev Environment := String → Option String

/-- The value of a variable; a blank one counts as absent. -/
def Environment.given? (env : Environment) (name : String) : Option String :=
  (env name).filter fun value => !Text.isBlankText value

/-- The number that a list of decimal digits writes, if it is one. -/
def digits? (cs : List Char) : Option Nat :=
  if !cs.isEmpty && cs.all Char.isDigit then
    some (cs.foldl (fun n c => 10 * n + (c.toNat - '0'.toNat)) 0)
  else none

/-- **A number up to a limit**, with an optional plus sign. -/
def number? (limit : Nat) (text : String) : Option Nat := do
  let n ← match Text.trimChars text.toList with
    | '+' :: cs => digits? cs
    | cs => digits? cs
  if n ≤ limit then some n else none

/-- A number, or its default. -/
def Environment.number (env : Environment) (name : String) (limit default : Nat) : Nat :=
  ((env.given? name).bind (number? limit)).getD default

/-- A word of 64 bits, or its default, where zero stands for the default too. -/
def Environment.positive (env : Environment) (name : String) (default : Nat) : Nat :=
  let n := env.number name (UInt64.size - 1) default
  if n = 0 then default else n

/-- A length of time given in seconds. -/
def Environment.seconds (env : Environment) (name : String) (default : Nat) : Nat :=
  1000 * env.positive name default

/-- A length of time given in milliseconds. -/
def Environment.millis (env : Environment) (name : String) (default : Nat) : Nat :=
  env.positive name default

/-- A text, or its default. -/
def Environment.text (env : Environment) (name default : String) : String :=
  (env.given? name).getD default

/-- **The settings of an environment.** -/
def Settings.ofEnvironment (env : Environment) : Settings where
  port := env.number "PORT" 65535 3000
  server :=
    { baseUrl := env.text "DANMU_SERVER_URL" "http://127.0.0.1:7768"
      livenessPath := env.text "LIVENESS_PATH" "/health"
      livenessTimeout := env.seconds "LIVENESS_TIMEOUT_SECS" 3
      requestTimeout := env.seconds "REQUEST_TIMEOUT_SECS" 15 }
  console :=
    { idleTimeout := env.seconds "STREAM_IDLE_TIMEOUT_SECS" 300
      grace := env.seconds "DEGRADED_GRACE_SECS" 10
      refreshDelay := env.number "REFRESH_DELAY_MS" (UInt64.size - 1) 1500
      maxReattach := env.number "MAX_REATTACH" (UInt32.size - 1) 3
      probe :=
        { budget := env.seconds "RESTART_BUDGET_SECS" 120
          downWindow := env.seconds "RESTART_DOWN_WINDOW_SECS" 30
          downInterval := env.millis "RESTART_DOWN_INTERVAL_MS" 1000
          upInterval := env.millis "RESTART_UP_INTERVAL_MS" 2000 } }

end TaskWatch
