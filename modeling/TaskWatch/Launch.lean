/-
# Starting a task

Before the server is asked to start a task, the console looks at the parameters itself: the
repository's address must be there, be an address, and be one of the web.  The address is
judged, and sent, without the blanks around it.
-/
import TaskWatch.Snapshot
import TaskWatch.Failure
import TaskWatch.Text.Blank
import TaskWatch.Url

namespace TaskWatch.Params

/-- The parameters as they are sent. -/
def trimmed (p : Params) : Params :=
  { p with repoUrl := Text.trim p.repoUrl }

/-- An address of the web: its scheme is `http` or `https`, and it has a host. -/
def isWeb (u : Url) : Bool :=
  (u.scheme = "http" || u.scheme = "https") && u.host.isSome

/-- **Whether parameters may be sent**, and if not, why. -/
def validate (p : Params) : Except TaskError Unit :=
  let address := Text.trim p.repoUrl
  if address.isEmpty then .error (.validation "仓库地址不能为空")
  else
    match Url.parse address with
    | .error e => .error (.validation s!"仓库地址无效: {e.message}")
    | .ok u =>
      if isWeb u then .ok ()
      else .error (.validation s!"仓库地址必须是 http(s) 链接: {address}")

/-- **What is sent to the server**, or why nothing is. -/
def prepare (p : Params) : Except TaskError Params := do
  p.validate
  return p.trimmed

end TaskWatch.Params
