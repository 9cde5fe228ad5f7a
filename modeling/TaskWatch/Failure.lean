/-
# What can go wrong

Two layers of failure.  A `TransportError` is what the link to the server reports about one
request.  A `TaskError` is what an operation on a task answers with: its own reasons, or a
transport error passed through unchanged.

Each has one function `message` with the text that the user reads.  A wrapped transport
error shows its own text.
-/

namespace TaskWatch

/-- **A request that did not get its answer.** -/
inductive TransportError where
  /-- No answer within the time allowed. -/
  | timeout
  /-- The request could not be made, or broke off. -/
  | requestFailed (detail : String)
  /-- An answer with a status outside the 2xx. -/
  | badStatus (code : Nat)
  /-- A body that is not what was asked for. -/
  | decode (detail : String)
  deriving Repr, DecidableEq, Inhabited

/-- The text of a transport error. -/
def TransportError.message : TransportError → String
  | timeout => "请求超时"
  | requestFailed detail => s!"请求失败: {detail}"
  | badStatus code => s!"响应异常状态码: {code}"
  | decode detail => s!"响应解析失败: {detail}"

/-- **An operation on a task that was refused or failed.** -/
inductive TaskError where
  /-- The parameters are wrong, in the eyes of the console or of the server. -/
  | validation (detail : String)
  | transport (e : TransportError)
  /-- The server reports that the task failed. -/
  | taskFailure (detail : String)
  /-- The server did not come back from its restart in time. -/
  | restartTimeout
  /-- The link broke and nobody can tell how the task ended. -/
  | statusUnknown
  | noActiveTask
  | taskInProgress
  deriving Repr, DecidableEq, Inhabited

/-- The text of a task error. -/
def TaskError.message : TaskError → String
  | validation detail => s!"参数校验失败: {detail}"
  | transport e => e.message
  | taskFailure detail => s!"任务失败: {detail}"
  | restartTimeout => "等待服务重启超时, 操作可能已成功, 请手动刷新"
  | statusUnknown => "与服务端的连接中断, 无法确认任务状态, 请刷新页面"
  | noActiveTask => "当前没有正在跟踪的任务"
  | taskInProgress => "任务仍在进行中, 请先取消"

/-- **The HTTP status that an error answers with.** -/
def TaskError.status : TaskError → Nat
  | validation _ => 400
  | noActiveTask | taskInProgress => 409
  | transport _ => 502
  | taskFailure _ | restartTimeout | statusUnknown => 500

end TaskWatch
