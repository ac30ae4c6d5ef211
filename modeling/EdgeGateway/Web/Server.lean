import EdgeGateway.Lib.Prog
import EdgeGateway.Lib.Utf8
import EdgeGateway.Mqtt.Command

/-!
`WebServer.handle`, one connection from its start to its end.

`handle` is a program over the operations of `Op`: those on the connection and on
files, the builders of the dashboard, and the attributes that all connections share.
What `Op` answers by an `Except` may raise, at every single use. Bytes go out in
pieces, which tell a status line with its headers from a body.
-/

namespace EdgeGateway.Web

open EdgeGateway.Lib

/-- The settings of `config.py` the server reads, and whether it was given a modem. -/
structure Config where
  readSize : Nat
  staticRoot : String
  gcIntervalRequests : Nat
  gcLowMemoryBytes : Nat
  maxActiveRequests : Nat
  modem : Bool
deriving DecidableEq, Repr

/-- The values of `config.example.py`. -/
def Config.shipped : Config where
  readSize := 1024
  staticRoot := "www"
  gcIntervalRequests := 10
  gcLowMemoryBytes := 55000
  maxActiveRequests := 6
  modem := true

/-! ### What a handler performs -/

/-- An exception of class `Exception`. -/
inductive Exc where
  /-- an `OSError`, with `args[0]` if that is a number -/
  | osError (errno : Option Int) (text : String)
  | other (text : String)
deriving DecidableEq, Repr

/-- `str(exc)`. -/
def Exc.text : Exc → String
  | .osError _ text => text
  | .other text => text

/-- Browsers routinely cancel superseded polling connections. -/
def Exc.cancelled : Exc → Bool
  | .osError errno _ => errno = some 104 ∨ errno = some 128
  | .other _ => false

/-- The attributes of a `WebServer` that its handlers share. -/
structure Attributes where
  running : Bool
  requestsSinceGc : Nat
  activeRequests : Int
  rejectedRequests : Nat
  restartCount : Nat
deriving DecidableEq, Repr

/-- What is written to a connection. -/
inductive Piece where
  /-- the status line and the headers -/
  | headers (status : Nat) (contentType : String) (length : Nat)
  | body (data : Bytes)
deriving DecidableEq, Repr

/-- The builders of `DashboardData`, and what a route reads itself. -/
inductive Page where
  | snapshot (httpRunning : Bool)
  | details
  | status (httpRunning : Bool)
  | network
  | statistics
  /-- `devices.list()` -/
  | devices
  /-- `logger.entries(limit)` -/
  | logs (limit : Int)
deriving DecidableEq, Repr

inductive Level where
  | warning | error
deriving DecidableEq, Repr

inductive Op where
  /-- read the attributes -/
  | attributes
  | setAttributes (a : Attributes)
  /-- `await reader.read(size)` -/
  | read (size : Nat)
  | write (piece : Piece)
  /-- `await writer.drain()` -/
  | drain
  /-- `await close_writer(writer)`, which raises nothing -/
  | close
  /-- `stat(path)[6]` -/
  | stat (path : Text)
  /-- the chunks of the file, up to the empty one -/
  | openFile (path : Text)
  | readFile
  /-- at the end of the `with` block -/
  | closeFile
  | page (page : Page)
  | startInternetTest
  | memFree
  | collect
  | sleepMs (ms : Nat)
  /-- `machine.reset()` -/
  | reset
  | log (level : Level) (text : String)
deriving DecidableEq, Repr

/-- What an operation is answered by. -/
abbrev Ans : Op → Type
  | .attributes => Attributes
  | .setAttributes _ => Unit
  | .read _ => Except Exc Bytes
  | .write _ => Except Exc Unit
  | .drain => Except Exc Unit
  | .close => Unit
  | .stat _ => Except Exc Nat
  | .openFile _ => Except Exc (List Bytes)
  | .readFile => Except Exc Unit
  | .closeFile => Except Exc Unit
  | .page _ => Except Exc Json
  | .startInternetTest => Bool
  | .memFree => Nat
  | .collect => Unit
  | .sleepMs _ => Unit
  | .reset => Unit
  | .log _ _ => Unit

abbrev call (op : Op) : Prog Op Ans (Ans op) := Prog.ask op

/-- A coroutine of the server. -/
abbrev Handler := ExceptT Exc (Prog Op Ans)

/-! ### Responses -/

/-- `STATUS_REASONS.get(status, "OK")`. -/
def reasonOf : Nat → String
  | 200 => "OK"
  | 202 => "Accepted"
  | 400 => "Bad Request"
  | 404 => "Not Found"
  | 405 => "Method Not Allowed"
  | 500 => "Internal Server Error"
  | 503 => "Service Unavailable"
  | _ => "OK"

/-- `CONTENT_TYPES.get(ext, "application/octet-stream")`. -/
def contentTypeOf (ext : Text) : String :=
  if ext = "html".toList then "text/html; charset=utf-8"
  else if ext = "css".toList then "text/css"
  else if ext = "js".toList then "application/javascript"
  else if ext = "svg".toList then "image/svg+xml"
  else "application/octet-stream"

/-- The bytes of a piece. -/
def Piece.bytes : Piece → Bytes
  | .headers status contentType length => Utf8.encode
      ("HTTP/1.1 " ++ toString status ++ " " ++ reasonOf status ++ "\r\nContent-Type: " ++
        contentType ++ "\r\nContent-Length: " ++ toString length ++
        "\r\nCache-Control: no-cache\r\nConnection: close\r\n\r\n").toList
  | .body data => data

def write (piece : Piece) : Handler Unit := ExceptT.mk (call (.write piece))

def drain : Handler Unit := ExceptT.mk (call .drain)

/-- `_headers`. -/
def headers (status : Nat) (contentType : String) (length : Nat) : Handler Unit := do
  write (.headers status contentType length)
  drain

/-- `_response`. -/
def response (status : Nat) (contentType : String) (body : Bytes) : Handler Unit := do
  headers status contentType body.length
  write (.body body)
  drain

section Routes

variable (cfg : Config) (codec : Mqtt.Codec)

/-- `_json`. -/
def json (status : Nat) (value : Json) : Handler Unit :=
  response status "application/json" (Utf8.encode (codec.dumps value).toList)

/-- `{"error": text}`. -/
def errorValue (text : String) : Json := .dict [("error", .str text)]

/-! ### Files -/

/-- The loop of `_file` over the chunks that are left. -/
def stream : List Bytes → Handler Unit
  | [] => ExceptT.mk (call .readFile)
  | chunk :: chunks => do
      ExceptT.mk (call .readFile)
      if chunk = [] then return
      write (.body chunk)
      drain
      stream chunks

/-- The `with` block of `_file`: the file is closed when the block ends or raises. -/
def sendFile (path : Text) : Handler Unit := do
  let chunks ← ExceptT.mk (call (.openFile path))
  tryCatch (stream chunks) fun exc => do
    ExceptT.mk (call .closeFile)
    throw exc
  ExceptT.mk (call .closeFile)

/-- The `try` block of `_file`. -/
def tryFile (path : Text) : Handler Unit := do
  let size ← ExceptT.mk (call (.stat path))
  headers 200 (contentTypeOf (lastPart '.' path)) size
  sendFile path

/-- `_file`. -/
def file (path : Text) : Handler Unit :=
  tryCatch (tryFile path) fun
    | .osError _ _ => json codec 404 (errorValue "file not found")
    | .other text => throw (.other text)

/-! ### `_route` -/

/-- A route that answers with what a builder returns. -/
def sendPage (page : Page) (value : Json → Json) : Handler Unit := do
  let built ← ExceptT.mk (call (.page page))
  json codec 200 (value built)

def attributes : Handler Attributes := ExceptT.lift (call .attributes)

/-- The route of `/api/health`. -/
def health : Handler Unit := do
  let a ← attributes
  let free : Nat ← ExceptT.lift (call .memFree)
  json codec 200 (.dict [("status", .str "OK"), ("active_requests", .int a.activeRequests),
    ("rejected_requests", .int a.rejectedRequests), ("restart_count", .int a.restartCount),
    ("free_memory_bytes", .int free)])

/-- The route of `/api/restart`. -/
def restartGateway : Handler Unit := do
  ExceptT.lift (call (.log .warning "Restart requested from dashboard"))
  json codec 202 (.dict [("status", .str "restarting")])
  ExceptT.lift (call (.sleepMs 250))
  ExceptT.lift (call .reset)

/-- The route of `/api/lte/test`. -/
def testLte : Handler Unit :=
  if cfg.modem then do
    let started : Bool ← ExceptT.lift (call .startInternetTest)
    json codec 202 (.dict [("status", .str (if started then "testing" else "already_running"))])
  else json codec 503 (errorValue "LTE modem disabled")

/-- `_route`. -/
def route (method path : Text) : Handler Unit :=
  let get := method = "GET".toList
  let post := method = "POST".toList
  if get ∧ path = "/api/health".toList then health codec
  else if get ∧ path = "/api/snapshot".toList then do
    sendPage codec (.snapshot (← attributes).running) id
  else if get ∧ path = "/api/details".toList then sendPage codec .details id
  else if get ∧ path = "/api/status".toList then do
    sendPage codec (.status (← attributes).running) id
  else if get ∧ path = "/api/network".toList then sendPage codec .network id
  else if get ∧ path = "/api/statistics".toList then sendPage codec .statistics id
  else if get ∧ path = "/api/devices".toList then
    sendPage codec .devices fun devices => .dict [("devices", devices)]
  else if get ∧ path = "/api/logs".toList then
    sendPage codec (.logs 50) fun logs => .dict [("logs", logs)]
  else if post ∧ path = "/api/restart".toList then restartGateway codec
  else if post ∧ path = "/api/lte/test".toList then testLte cfg codec
  else if ¬ get then json codec 405 (errorValue "method not allowed")
  else
    let path := if path = "/".toList then "/index.html".toList else path
    if ["/index.html".toList, "/style.css".toList, "/app.js".toList,
        "/logo.svg".toList].contains path
    then file codec (cfg.staticRoot.toList ++ path)
    else json codec 404 (errorValue "not found")

/-! ### `handle` -/

/-- `request.split(b"\r\n", 1)[0]`. -/
def firstLine : Bytes → Bytes
  | [] => []
  | b :: bs => if b = 13 ∧ bs.head? = some 10 then [] else b :: firstLine bs

/-- The `try` block of `handle`. -/
def serve : Handler Unit := do
  let request ← ExceptT.mk (call (.read cfg.readSize))
  if request = [] then return
  match Utf8.decode? (firstLine request) with
  | none => throw (.other "")
  | some first =>
      match first.splitOn ' ' with
      | method :: target :: _ => route cfg codec method (target.takeWhile (· ≠ '?'))
      | _ => json codec 400 (errorValue "bad request")

/-- What the `except` branches answer, if anything: an error of that response is dropped. -/
def recover (outcome : Except Exc Unit) : Prog Op Ans Unit :=
  match outcome with
  | .ok () => pure ()
  | .error exc =>
      if exc.cancelled then pure ()
      else do
        call (.log .error ("HTTP request: " ++ exc.text))
        let _ ← (json codec 500 (errorValue "internal server error")).run
        pure ()

/-- Collect periodically, or immediately if the heap is under pressure. -/
def gcDue (since : Nat) : Prog Op Ans Bool :=
  if cfg.gcIntervalRequests ≤ since then pure true
  else do
    let free : Nat ← call .memFree
    pure (decide (free < cfg.gcLowMemoryBytes))

/-- The `finally` block of `handle`. -/
def release : Prog Op Ans Unit := do
  call .close
  let a : Attributes ← call .attributes
  let since := a.requestsSinceGc + 1
  call (.setAttributes
    { a with activeRequests := a.activeRequests - 1, requestsSinceGc := since })
  let due ← gcDue cfg since
  if due then do
    call .collect
    let a : Attributes ← call .attributes
    call (.setAttributes { a with requestsSinceGc := 0 })

/-- `handle`. -/
def handle : Prog Op Ans Unit := do
  let a : Attributes ← call .attributes
  if cfg.maxActiveRequests ≤ a.activeRequests then
    call (.setAttributes { a with rejectedRequests := a.rejectedRequests + 1 })
    call .close
  else
    call (.setAttributes { a with activeRequests := a.activeRequests + 1 })
    let outcome ← (serve cfg codec).run
    recover codec outcome
    release cfg

end Routes

end EdgeGateway.Web
