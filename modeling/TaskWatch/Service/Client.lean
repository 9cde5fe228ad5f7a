/-
# Asking the server

A `Network` carries a request to the server and brings back what came of it.  A `Client` has
a network, the server's settings and its address; each of its functions makes one request
and reads the answer.

Without a network every request fails (`Network.absent`), and then no service succeeds.
-/
import TaskWatch.Service.Request
import TaskWatch.Service.Exchange

namespace TaskWatch.Service

/-- **What carries requests.** -/
abbrev Network := Request → Exchange

/-- **No network.** -/
def Network.absent : Network := fun _ => .failed "error sending request"

/-- **A client of the server.** -/
structure Client where
  network : Network
  settings : ServerSettings
  endpoint : Endpoint
  /-- What separates the parts of a form. -/
  boundary : String

namespace Client

/-- **The client that the settings ask for.** -/
def ofSettings (network : Network) (s : ServerSettings) (boundary : String) :
    Except Url.UrlError Client := do
  let endpoint ← Endpoint.ofSettings s
  return { network, settings := s, endpoint, boundary }

/-- What came of a request, if it can be made at all. -/
def exchange (c : Client) : Except TransportError Request → Exchange
  | .ok r => c.network r
  | .error (.requestFailed detail) => .failed detail
  | .error e => .failed e.message

def launch (c : Client) (p : Params) : Except TaskError String :=
  (c.exchange (Service.launch c.endpoint c.settings p)).launch

def cancel (c : Client) (taskId : String) : Except TransportError Unit :=
  (c.exchange (Service.cancel c.endpoint c.settings taskId)).cancel

def subscribe (c : Client) (taskId : String) :
    Except TransportError (List (Except TransportError Event)) :=
  (c.exchange (Service.subscribe c.endpoint taskId)).subscribe

def status (c : Client) (taskId : String) : Except TransportError Snapshot :=
  (c.exchange (Service.status c.endpoint c.settings taskId)).status

def check (c : Client) : Bool :=
  (c.exchange (.ok (Service.check c.endpoint c.settings))).check

def install (c : Client) (p : Package) : Except TaskError InstallReceipt :=
  (c.exchange (Service.install c.endpoint c.settings c.boundary p)).install

end Client

end TaskWatch.Service
