/-
# Starting up

Before the console can serve pages, two things have to be in order: the server's address,
and the place where the console listens.  They are looked at in this order, and the first
that is not in order is reported.
-/
import TaskWatch.Service.Client

namespace TaskWatch

/-- **Why the console does not start.** -/
inductive StartupError where
  /-- The server's address, or the path of its liveness check, is none. -/
  | badServer (baseUrl : String)
  /-- Somebody else listens there. -/
  | placeTaken (port : Nat)
  deriving Repr, DecidableEq, Inhabited

/-- The text of a startup error. -/
def StartupError.message : StartupError → String
  | badServer baseUrl => s!"弹幕服务地址无效: {baseUrl}"
  | placeTaken port => s!"无法监听 0.0.0.0:{port}"

/-- **Start up** with the settings of an environment: the settings, and the client that asks
the server. -/
def startUp (env : Environment) (network : Service.Network) (isTaken : Nat → Bool)
    (boundary : String) : Except StartupError (Settings × Service.Client) :=
  let settings := Settings.ofEnvironment env
  match Service.Client.ofSettings network settings.server boundary with
  | .error _ => .error (.badServer settings.server.baseUrl)
  | .ok client =>
    if isTaken settings.port then .error (.placeTaken settings.port)
    else .ok (settings, client)

end TaskWatch
