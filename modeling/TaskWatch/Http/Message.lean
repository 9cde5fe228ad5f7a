/-
# Requests and responses

What a page asks the console, and what it gets.  A body of a response is empty, a text, or a
feed, which goes on for as long as the page stays.
-/
import TaskWatch.Wire.View

namespace TaskWatch.Http

/-- **A request.** -/
structure Request where
  method : String
  /-- The path, perhaps with a query behind it. -/
  target : String
  contentType : Option String := none
  body : List UInt8 := []
  deriving Repr, DecidableEq, Inhabited

/-- The path of a request, without its query. -/
def Request.path (r : Request) : String :=
  String.ofList (r.target.toList.takeWhile (· ≠ '?'))

/-- **The body of a response.** -/
inductive Body where
  | empty
  | text (s : String)
  | feed
  deriving Repr, DecidableEq, Inhabited

/-- **A response.** -/
structure Response where
  status : Nat
  contentType : Option String := none
  cacheControl : Option String := none
  connection : Option String := none
  /-- The methods that are allowed, where another one was used. -/
  allow : Option String := none
  body : Body := .empty
  deriving Repr, DecidableEq, Inhabited

namespace Response

/-- A response without a body. -/
def bare (status : Nat) : Response :=
  { status }

/-- **A response in JSON.** -/
def json (status : Nat) (j : Json) : Response :=
  { status, contentType := some "application/json", body := .text j.write }

/-- A response in plain text. -/
def plain (status : Nat) (s : String) : Response :=
  { status, contentType := some "text/plain; charset=utf-8", body := .text s }

/-- **The response to an error.** -/
def ofError (e : TaskError) : Response :=
  .json e.status e.toJson

/-- The response that a feed comes with. -/
def ofFeed : Response :=
  { status := 200
    contentType := some "text/event-stream; charset=utf-8"
    cacheControl := some "no-cache"
    connection := some "keep-alive"
    body := .feed }

end Response

end TaskWatch.Http
