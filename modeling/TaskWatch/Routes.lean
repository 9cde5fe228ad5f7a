/-
# The console's routes

A page reaches the console through six paths.  `requestHandling` says what a request asks
for: an answer that is known at once, the picture, an operation, or a feed.
`Reply.response` says how the end of an operation is answered.

**Order of refusals.**  A path that does not exist comes before a method that a path does not
have; then comes the kind of the body, then its size, then what it says.
-/
import TaskWatch.Console
import TaskWatch.Feed
import TaskWatch.Http.Message
import TaskWatch.Http.Multipart
import TaskWatch.Json.Bytes
import TaskWatch.Wire.Refusal

namespace TaskWatch

open Http (Request Response MediaType)

/-! ## 1. Paths and methods -/

/-- **The routes**: each path with its methods. -/
def routes : List (String × List String) :=
  [("/api", ["GET"]),
   ("/health", ["GET"]),
   ("/api/task", ["GET", "POST", "DELETE"]),
   ("/api/task/cancel", ["POST"]),
   ("/api/task/events", ["GET"]),
   ("/api/install", ["POST"])]

/-- The methods of a path as a header names them. -/
def allowText (methods : List String) : String :=
  ",".intercalate (methods.flatMap fun m => if m = "GET" then ["GET", "HEAD"] else [m])

/-- **What the console says about itself.** -/
def aboutConsole : Json :=
  .object
    [("name", .string "Danmu Task Console"),
     ("version", .string "0.1.0"),
     ("description", .string "弹幕服务后台任务进度控制台"),
     ("endpoints", .object
       [("GET /api/task", .string "当前任务状态"),
        ("POST /api/task", .string "启动资源更新任务 \x7brepoUrl, fullReplace\x7d"),
        ("DELETE /api/task", .string "清除已结束的任务"),
        ("POST /api/task/cancel", .string "取消当前任务"),
        ("GET /api/task/events", .string "任务状态推送 (SSE: state / refresh)"),
        ("POST /api/install", .string "上传安装包 (multipart: file)"),
        ("GET /health", .string "健康检查")])]

/-- **The console is well.** -/
def healthReport (wall : WallClock) : Json :=
  .object [("status", .string "ok"), ("timestamp", .string wall.stamp)]

/-! ## 2. Bodies -/

/-- The largest body, in bytes. -/
def bodyLimit : Nat := 2097152

/-- The media type of a request's body. -/
def mediaType? (r : Request) : Option MediaType :=
  r.contentType.bind MediaType.parse?

/-- **The parameters in a request**, or the response that refuses it. -/
def paramsOf (r : Request) : Except Response Params :=
  if !((mediaType? r).any MediaType.isJson) then
    .error (.plain 415 "Expected request with \x60Content-Type: application/json\x60")
  else if r.body.length > bodyLimit then
    .error (.plain 413 "Failed to buffer the request body: length limit exceeded")
  else
    let text := Json.spelling r.body
    match Params.decode? text with
    | some p => .ok p
    | none =>
      match Params.refusal text with
      | .malformed => .error (.plain 400 "Failed to parse the request body as JSON")
      | .mismatched =>
        .error (.plain 422 "Failed to deserialize the JSON body into the target type")

/-- The file's name if the form does not give one. -/
def unnamedPackage : String := "package.zip"

/-- **The package among the parts of a form**: the last file that is complete.  A file that
is not complete makes the whole form an error. -/
def packageAmong (found : Option Package) : List Http.Part → Except TaskError (Option Package)
  | [] => .ok found
  | part :: rest =>
    if part.name = some "file" then
      match part.data with
      | some bytes =>
        packageAmong (some { fileName := part.fileName.getD unnamedPackage, bytes }) rest
      | none =>
        .error (.validation
          "读取上传文件失败: Error parsing \x60multipart/form-data\x60 request")
    else packageAmong found rest

/-- **The package in a request**, or the response that refuses it.  A body that is too large
is not looked at: its form has no parts. -/
def packageOf (r : Request) : Except Response Package :=
  match (mediaType? r).bind MediaType.formBoundary? with
  | none => .error (.plain 400 "Invalid \x60boundary\x60 for \x60multipart/form-data\x60 request")
  | some boundary =>
    let parts := if r.body.length > bodyLimit then [] else Http.parts boundary r.body
    match packageAmong none parts with
    | .error e => .error (.ofError e)
    | .ok none => .error (.ofError (.validation "缺少 file 字段"))
    | .ok (some package) => .ok package

/-! ## 3. Requests -/

/-- **What a request asks for.** -/
inductive Handling where
  | answer (r : Response)
  /-- Show the picture of this moment. -/
  | showView
  | operate (op : Operation)
  | openFeed
  deriving Repr, Inhabited

/-- An operation on what a request carries, or the response that refuses it. -/
def Handling.ofBody {α : Type} (body : Except Response α) (op : α → Operation) : Handling :=
  match body with
  | .ok a => .operate (op a)
  | .error r => .answer r

/-- The method that a request is handled by: whoever asks for the head of a response is
handled like one who asks for all of it. -/
def handledAs (r : Request) : String :=
  if r.method = "HEAD" then "GET" else r.method

/-- The part of a response that a request asks for. -/
def portion (r : Request) (response : Response) : Response :=
  if r.method = "HEAD" then { response with body := .empty } else response

/-- **What a request asks for.** -/
def requestHandling (wall : WallClock) (r : Request) : Handling :=
  match routes.lookup r.path with
  | none => .answer (.bare 404)
  | some methods =>
    if !methods.contains (handledAs r) then
      .answer { Response.bare 405 with allow := some (allowText methods) }
    else
      match handledAs r, r.path with
      | "GET", "/api" => .answer (.json 200 aboutConsole)
      | "GET", "/health" => .answer (.json 200 (healthReport wall))
      | "GET", "/api/task" => .showView
      | "POST", "/api/task" => .ofBody (paramsOf r) .start
      | "DELETE", "/api/task" => .operate .delete
      | "POST", "/api/task/cancel" => .operate .cancel
      | "GET", "/api/task/events" =>
        if r.method = "HEAD" then .answer .ofFeed else .openFeed
      | _, _ => .ofBody (packageOf r) .install

/-- The response with the picture. -/
def viewResponse (v : View) : Response :=
  .json 200 v.toJson

/-- **The response to the end of an operation**, given the picture of that moment. -/
def Reply.response (view : View) : Reply → Response
  | .started taskId => .json 202 (.object [("taskId", .string taskId)])
  | .installed receipt => .json 200 receipt.toJson
  | .cancelled => viewResponse view
  | .cleared => .bare 204
  | .settled view => viewResponse view
  | .finished => viewResponse view
  | .refused e => .ofError e

end TaskWatch
