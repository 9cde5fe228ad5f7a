/-
# Where the server's services are

The server's address may have a path; all services lie below it.  `Endpoint.ofSettings`
reads the address once, and every service is then found relative to it: a slash at the end
of the path makes sure that the path is kept.

A task's services lie below the collection of tasks, in a segment that is the task's id.
-/
import TaskWatch.Url
import TaskWatch.Settings

namespace TaskWatch

/-- **The server's address**, and that of its liveness check. -/
structure Endpoint where
  base : Url
  liveness : Url
  deriving Repr, DecidableEq, Inhabited

namespace Endpoint

/-- A path without the slashes at its start. -/
def dropSlashes (path : String) : String :=
  String.ofList (path.toList.dropWhile (· = '/'))

/-- **The endpoint that the settings name.** -/
def ofSettings (s : ServerSettings) : Except Url.UrlError Endpoint := do
  let base := (← Url.parse s.baseUrl).withTrailingSlash
  let liveness ← base.join (dropSlashes s.livenessPath)
  return { base, liveness }

/-! ## Services -/

/-- The collection of tasks. -/
def resourceTasks : String := "api/ui/scrapers/resources/download"

/-- The place where packages are uploaded. -/
def uploadPackage : String := "api/ui/scrapers/upload-package"

/-- What can be done with one task. -/
inductive TaskService where
  | progress
  | status
  | cancel
  deriving Repr, DecidableEq, Inhabited

def TaskService.name : TaskService → String
  | progress => "progress"
  | status => "status"
  | cancel => "cancel"

/-- **The address of a service.** -/
def service (e : Endpoint) (path : String) : Except Url.UrlError Url :=
  e.base.join path

/-- **The address of a task's service.** -/
def task (e : Endpoint) (taskId : String) (service : TaskService) :
    Except Url.UrlError Url :=
  e.base.join s!"{resourceTasks}/{Url.Percent.component taskId}/{service.name}"

end Endpoint

end TaskWatch
