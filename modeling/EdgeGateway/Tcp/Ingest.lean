import EdgeGateway.Devices
import EdgeGateway.Lib.Run
import EdgeGateway.Lib.Ticks
import EdgeGateway.Tcp.Frames
import EdgeGateway.Tcp.Link

/-!
All connections of a `TCPServer`, and what their handlers share.

A handler is suspended in `_read_message` or in the drain of an acknowledgement,
and runs alone in between. A step is the end of one such await in one handler; so
a run is one interleaving of any number of connections with their failures.
`calls` lists what the handlers did to their peers, the registry, the queue and
the log, in order.

* `Ingest.message` is the stretch from a message to its acknowledgement, and
  `Ingest.book` the one from the drain to the next read.
* `bookkeeping_exactly_once`: counters, registry and queue follow the drains.
-/

namespace EdgeGateway.Tcp

open EdgeGateway.Lib EdgeGateway.Mqtt EdgeGateway.Devices

/-! ### The server and its handlers -/

/-- The attributes of a `TCPServer` that its handlers write. -/
structure TCPServer where
  packetCount : Nat
  connectedClients : Int
  lastClientIp : String
  lastJson : Text
  lastReceiveTime : String
  rateCount : Nat
  rateStarted : Nat
  /-- the operands of `round(count * 1000.0 / elapsed, 2)`, and `none` for the initial `0.0` -/
  packetsPerSecond : Option (Nat × Int)
deriving DecidableEq, Repr

/-- `__init__`. -/
def TCPServer.init (ticks : Nat) : TCPServer where
  packetCount := 0
  connectedClients := 0
  lastClientIp := "None"
  lastJson := "None".toList
  lastReceiveTime := "Never"
  rateCount := 0
  rateStarted := ticks
  packetsPerSecond := none

/-- What the clock shows. -/
structure Clock where
  ticks : Nat
  isoTime : String
deriving DecidableEq, Repr

/-- `_update_rate`. -/
def TCPServer.updateRate (now : Clock) (s : TCPServer) : TCPServer :=
  let elapsed := ticksDiff now.ticks s.rateStarted
  if 1000 ≤ elapsed then
    { s with
      packetsPerSecond := some (s.rateCount, elapsed)
      rateCount := 0
      rateStarted := now.ticks }
  else s

inductive Level where
  | info | warning | error
deriving DecidableEq, Repr

inductive Call where
  /-- `writer.write(ACK)` on a connection -/
  | ack (conn : Nat)
  /-- `devices.update`, at a time -/
  | update (isoTime ip : String) (payload : Text) (parsed : Json)
  /-- `mqtt.enqueue` -/
  | enqueue (payload : Text) (parsed : Json)
  | log (level : Level) (text : String)
deriving Repr

/-- Where `handle` is suspended. -/
inductive Stage where
  | reading
  | draining (received : Received)
  /-- the `finally` block has run -/
  | finished
deriving Repr

structure Handler where
  ip : String
  stage : Stage
deriving Repr

structure Ingest where
  server : TCPServer
  devices : DeviceManager
  /-- in the order in which they were started -/
  handlers : List Handler
  calls : List Call
deriving Repr

def Ingest.init (capacity ticks : Nat) : Ingest := ⟨.init ticks, .init capacity, [], []⟩

def Ingest.call (call : Call) (w : Ingest) : Ingest := { w with calls := w.calls ++ [call] }

/-- The handler of a connection suspends. -/
def Ingest.suspend (conn : Nat) (handler : Handler) (w : Ingest) : Ingest :=
  { w with handlers := w.handlers.set conn handler }

/-! ### One stretch of a handler -/

/-- `handle` from its first line to its first await. -/
def Ingest.accept (ip : String) (w : Ingest) : Ingest :=
  { w with
    server := { w.server with connectedClients := w.server.connectedClients + 1 }
    handlers := w.handlers ++ [⟨ip, .reading⟩] }

/-- The `finally` block up to `close_writer`, which raises nothing. -/
def Ingest.finish (conn : Nat) (ip : String) (w : Ingest) : Ingest :=
  Ingest.suspend conn ⟨ip, .finished⟩
    { w with server := { w.server with connectedClients := w.server.connectedClients - 1 } }

/-- The outer `except Exception`, and then `finally`. -/
def Ingest.abort (conn : Nat) (ip : String) (exc : PyError) (w : Ingest) : Ingest :=
  (w.call (.log .error ("TCP client " ++ ip ++ ": " ++ exc.text))).finish conn ip

/-- `_read_message` returns `data`, with a warning if that reached the limit. -/
def Ingest.fetch (cfg : Config) (data : Bytes) (w : Ingest) : Ingest :=
  if cfg.maxMessageSize ≤ data.length then w.call (.log .warning (limitText cfg)) else w

/-- From the message up to `await writer.drain()`. `write` is what `writer.write`
raises. -/
def Ingest.answer (codec : Codec) (conn : Nat) (ip : String) (data : Bytes)
    (write : Option PyError) (w : Ingest) : Ingest :=
  if data = [] then w.finish conn ip
  else
    match validate codec data with
    | .error exc => w.abort conn ip exc
    | .ok (received, refused) =>
        let w := if refused then w.call (.log .warning ("Invalid JSON received from " ++ ip)) else w
        match write with
        | some exc => w.abort conn ip exc
        | none => (w.call (.ack conn)).suspend conn ⟨ip, .draining received⟩

/-- From the last read of a message up to the drain of its acknowledgement. -/
def Ingest.message (cfg : Config) (codec : Codec) (conn : Nat) (ip : String) (data : Bytes)
    (write : Option PyError) (w : Ingest) : Ingest :=
  (w.fetch cfg data).answer codec conn ip data write

/-- The counters and the last packet. -/
def TCPServer.count (ip : String) (received : Received) (now : Clock) (s : TCPServer) : TCPServer :=
  let s := TCPServer.updateRate now
    { s with packetCount := s.packetCount + 1, rateCount := s.rateCount + 1 }
  { s with lastClientIp := ip, lastJson := received.payload, lastReceiveTime := now.isoTime }

/-- `self.devices.update(ip, payload, parsed)`. -/
def Ingest.register (ip : String) (received : Received) (now : Clock) (w : Ingest) : Ingest :=
  let (devices, discovered) := w.devices.update now.isoTime ip received.payload received.parsed
  let w := Ingest.call (.update now.isoTime ip received.payload received.parsed)
    { w with devices := devices }
  match discovered with
  | some text => w.call (.log .info text)
  | none => w

/-- `self.mqtt.enqueue(payload, parsed)`, which raises `raised`. An error of the
queue must never suppress an acknowledgement. -/
def Ingest.queue (cfg : Config) (received : Received) (raised : Option PyError) (w : Ingest) :
    Ingest :=
  if cfg.mqtt && present received.parsed then
    let w := w.call (.enqueue received.payload received.parsed)
    match raised with
    | some exc => w.call (.log .warning ("MQTT queue: " ++ exc.text))
    | none => w
  else w

/-- From the drain up to the next `_read_message`. -/
def Ingest.book (cfg : Config) (conn : Nat) (ip : String) (received : Received) (now : Clock)
    (raised : Option PyError) (w : Ingest) : Ingest :=
  let w := { w with server := w.server.count ip received now }
  ((w.register ip received now).queue cfg received raised).suspend conn ⟨ip, .reading⟩

inductive Step where
  /-- a client connects -/
  | accept (ip : String)
  /-- `_read_message` returns, and `writer.write` raises or not -/
  | message (conn : Nat) (data : Bytes) (write : Option PyError)
  /-- the pending read or drain raises -/
  | raise (conn : Nat) (exc : PyError)
  /-- the drain returns, and `mqtt.enqueue` raises or not -/
  | drained (conn : Nat) (now : Clock) (raised : Option PyError)

/-- The connection of a step. -/
def Step.conn : Step → Option Nat
  | .accept _ => none
  | .message conn _ _ | .raise conn _ | .drained conn _ _ => some conn

def Ingest.step (cfg : Config) (codec : Codec) (w : Ingest) : Step → Option Ingest
  | .accept ip => some (w.accept ip)
  | .message conn data write =>
      match w.handlers[conn]? with
      | some ⟨ip, .reading⟩ => some (w.message cfg codec conn ip data write)
      | _ => none
  | .raise conn exc =>
      match w.handlers[conn]? with
      | some ⟨ip, .reading⟩ | some ⟨ip, .draining _⟩ => some (w.abort conn ip exc)
      | _ => none
  | .drained conn now raised =>
      match w.handlers[conn]? with
      | some ⟨ip, .draining received⟩ => some (w.book cfg conn ip received now raised)
      | _ => none

/-- The server with every interleaving of its connections. -/
def ingest (cfg : Config) (codec : Codec) (capacity ticks : Nat) : System Ingest Step :=
  ⟨.init capacity ticks, Ingest.step cfg codec⟩

/-! ### What a step does -/

/-- A call of the bookkeeping: registry or queue. -/
def Call.books : Call → Bool
  | .update _ _ _ _ | .enqueue _ _ => true
  | .ack _ | .log _ _ => false

/-- The handler has started and not run its `finally` block. -/
def Handler.running (handler : Handler) : Bool :=
  match handler.stage with
  | .reading | .draining _ => true
  | .finished => false

/-- A drain that completed: the time, the peer and the message. -/
structure Drain where
  isoTime : String
  ip : String
  received : Received
deriving Repr

/-- The calls of the bookkeeping a drained message is due. -/
def Drain.calls (cfg : Config) (d : Drain) : List Call :=
  .update d.isoTime d.ip d.received.payload d.received.parsed ::
    if cfg.mqtt && present d.received.parsed then [.enqueue d.received.payload d.received.parsed]
    else []

/-- `w'` has the attributes of `w` but for the handlers, and only acknowledged and logged. -/
structure Quiet (w w' : Ingest) : Prop where
  packets : w'.server.packetCount = w.server.packetCount
  devices : w'.devices = w.devices
  calls : w'.calls.filter Call.books = w.calls.filter Call.books

/-- What a step does to the handlers, and what it books. -/
inductive Ingest.Takes (cfg : Config) (w : Ingest) : Step → Ingest → Prop where
  | opens {ip : String} {w' : Ingest} : Quiet w w' → w'.handlers = w.handlers ++ [⟨ip, .reading⟩] →
      w'.server.connectedClients = w.server.connectedClients + 1 →
        Ingest.Takes cfg w (.accept ip) w'
  | acks {conn : Nat} {ip : String} {data : Bytes} {write : Option PyError} {w' : Ingest}
      (received : Received) :
      w.handlers[conn]? = some ⟨ip, .reading⟩ → Quiet w w' →
      w'.handlers = w.handlers.set conn ⟨ip, .draining received⟩ →
      w'.server.connectedClients = w.server.connectedClients →
      Ingest.Takes cfg w (.message conn data write) w'
  | ends {conn : Nat} {handler : Handler} {step : Step} {w' : Ingest} :
      step.conn = some conn → w.handlers[conn]? = some handler → handler.running = true →
      (∀ conn now raised, step ≠ .drained conn now raised) → Quiet w w' →
      w'.handlers = w.handlers.set conn ⟨handler.ip, .finished⟩ →
      w'.server.connectedClients = w.server.connectedClients - 1 → Ingest.Takes cfg w step w'
  | books {conn : Nat} {ip : String} {received : Received} {now : Clock} {raised : Option PyError}
      {w' : Ingest} :
      w.handlers[conn]? = some ⟨ip, .draining received⟩ →
      w'.server.packetCount = w.server.packetCount + 1 →
      w'.devices = (w.devices.update now.isoTime ip received.payload received.parsed).1 →
      w'.calls.filter Call.books =
        w.calls.filter Call.books ++ Drain.calls cfg ⟨now.isoTime, ip, received⟩ →
      w'.handlers = w.handlers.set conn ⟨ip, .reading⟩ →
      w'.server.connectedClients = w.server.connectedClients →
      Ingest.Takes cfg w (.drained conn now raised) w'

theorem Quiet.call (call : Call) (silent : call.books = false) (w : Ingest) :
    Quiet w (w.call call) := by
  refine ⟨rfl, rfl, ?_⟩
  simp [Ingest.call, silent]

theorem Quiet.trans {w w' w'' : Ingest} (first : Quiet w w') (second : Quiet w' w'') :
    Quiet w w'' :=
  ⟨second.packets.trans first.packets, second.devices.trans first.devices,
    second.calls.trans first.calls⟩

theorem Quiet.abort (conn : Nat) (ip : String) (exc : PyError) (w : Ingest) :
    Quiet w (w.abort conn ip exc) :=
  (Quiet.call _ rfl w).trans ⟨rfl, rfl, rfl⟩

theorem Ingest.fetch_spec (cfg : Config) (data : Bytes) (w : Ingest) :
    Quiet w (w.fetch cfg data) ∧ (w.fetch cfg data).handlers = w.handlers ∧
      (w.fetch cfg data).server = w.server := by
  unfold Ingest.fetch
  split
  · exact ⟨Quiet.call _ rfl w, rfl, rfl⟩
  · exact ⟨⟨rfl, rfl, rfl⟩, rfl, rfl⟩

/-- An acknowledgement, or the end of the handler. -/
theorem Ingest.message_takes {cfg : Config} {codec : Codec} {conn : Nat} {ip : String}
    {data : Bytes} {write : Option PyError} {w : Ingest}
    (reading : w.handlers[conn]? = some ⟨ip, .reading⟩) :
    Ingest.Takes cfg w (.message conn data write) (w.message cfg codec conn ip data write) := by
  obtain ⟨read, handlers₀, server₀⟩ := w.fetch_spec cfg data
  unfold Ingest.message Ingest.answer
  set fetched := w.fetch cfg data
  split
  · refine .ends rfl reading rfl (by simp) ⟨read.packets, read.devices, read.calls⟩ ?_ ?_
    · simp [Ingest.finish, Ingest.suspend, handlers₀]
    · simp [Ingest.finish, Ingest.suspend, server₀]
  · split
    · refine .ends rfl reading rfl (by simp) (read.trans (Quiet.abort conn ip _ fetched)) ?_ ?_
      · simp [Ingest.abort, Ingest.finish, Ingest.suspend, Ingest.call, handlers₀]
      · simp [Ingest.abort, Ingest.finish, Ingest.suspend, Ingest.call, server₀]
    · rename_i received refused _
      set warned :=
        if refused then fetched.call (.log .warning ("Invalid JSON received from " ++ ip))
        else fetched with warnedEq
      have same : Quiet fetched warned ∧ warned.handlers = fetched.handlers ∧
          warned.server = fetched.server := by
        rw [warnedEq]
        split
        · exact ⟨Quiet.call _ rfl fetched, rfl, rfl⟩
        · exact ⟨⟨rfl, rfl, rfl⟩, rfl, rfl⟩
      obtain ⟨quiet, handlers, server⟩ := same
      have quiet := read.trans quiet
      dsimp only
      split
      · rename_i exc
        refine .ends rfl reading rfl (by simp) (quiet.trans (Quiet.abort conn ip exc warned)) ?_ ?_
        · simp [Ingest.abort, Ingest.finish, Ingest.suspend, Ingest.call, handlers, handlers₀]
        · simp [Ingest.abort, Ingest.finish, Ingest.suspend, Ingest.call, server, server₀]
      · refine .acks received reading (quiet.trans ?_) ?_ ?_
        · have acked := Quiet.call (.ack conn) rfl warned
          exact ⟨acked.packets, acked.devices, acked.calls⟩
        · simp [Ingest.suspend, Ingest.call, handlers, handlers₀]
        · simp [Ingest.suspend, Ingest.call, server, server₀]

theorem TCPServer.updateRate_counts (now : Clock) (s : TCPServer) :
    (s.updateRate now).packetCount = s.packetCount ∧
      (s.updateRate now).connectedClients = s.connectedClients := by
  unfold TCPServer.updateRate
  dsimp only
  split <;> exact ⟨rfl, rfl⟩

theorem TCPServer.count_counts (ip : String) (received : Received) (now : Clock) (s : TCPServer) :
    (s.count ip received now).packetCount = s.packetCount + 1 ∧
      (s.count ip received now).connectedClients = s.connectedClients :=
  TCPServer.updateRate_counts now _

/-- What `register` calls. -/
def registerCalls (ip : String) (received : Received) (now : Clock) (m : DeviceManager) :
    List Call :=
  .update now.isoTime ip received.payload received.parsed ::
    (((m.update now.isoTime ip received.payload received.parsed).2).map (Call.log .info)).toList

/-- What `queue` calls. -/
def queueCalls (cfg : Config) (received : Received) (raised : Option PyError) : List Call :=
  if cfg.mqtt && present received.parsed then
    .enqueue received.payload received.parsed ::
      (raised.map fun exc => Call.log .warning ("MQTT queue: " ++ exc.text)).toList
  else []

theorem Ingest.register_spec (ip : String) (received : Received) (now : Clock) (w : Ingest) :
    (w.register ip received now).server = w.server ∧
      (w.register ip received now).handlers = w.handlers ∧
      (w.register ip received now).devices =
        (w.devices.update now.isoTime ip received.payload received.parsed).1 ∧
      (w.register ip received now).calls = w.calls ++ registerCalls ip received now w.devices := by
  unfold Ingest.register registerCalls
  dsimp only
  cases (w.devices.update now.isoTime ip received.payload received.parsed).2 with
  | none => exact ⟨rfl, rfl, rfl, rfl⟩
  | some text => exact ⟨rfl, rfl, rfl, List.append_assoc _ _ _⟩

theorem Ingest.queue_spec (cfg : Config) (received : Received) (raised : Option PyError)
    (w : Ingest) :
    (w.queue cfg received raised).server = w.server ∧
      (w.queue cfg received raised).handlers = w.handlers ∧
      (w.queue cfg received raised).devices = w.devices ∧
      (w.queue cfg received raised).calls = w.calls ++ queueCalls cfg received raised := by
  unfold Ingest.queue queueCalls
  by_cases due : (cfg.mqtt && present received.parsed) = true
  · rw [if_pos due, if_pos due]
    cases raised with
    | none => exact ⟨rfl, rfl, rfl, rfl⟩
    | some exc => exact ⟨rfl, rfl, rfl, List.append_assoc _ _ _⟩
  · rw [if_neg due, if_neg due]
    exact ⟨rfl, rfl, rfl, (List.append_nil _).symm⟩

/-- What is called between a drain and the next read. -/
theorem Ingest.book_calls (cfg : Config) (conn : Nat) (ip : String) (received : Received)
    (now : Clock)
    (raised : Option PyError) (w : Ingest) :
    (w.book cfg conn ip received now raised).calls =
      w.calls ++ (registerCalls ip received now w.devices ++ queueCalls cfg received raised) := by
  set counted := { w with server := w.server.count ip received now } with countedEq
  obtain ⟨-, -, -, registered⟩ := counted.register_spec ip received now
  obtain ⟨-, -, -, queued⟩ := (counted.register ip received now).queue_spec cfg received raised
  rw [registered, List.append_assoc] at queued
  exact queued

/-- The registry is called once, and the queue if the message is due to it. -/
theorem filter_books (cfg : Config) (ip : String) (received : Received) (now : Clock)
    (raised : Option PyError) (m : DeviceManager) :
    (registerCalls ip received now m ++ queueCalls cfg received raised).filter Call.books =
      Drain.calls cfg ⟨now.isoTime, ip, received⟩ := by
  have first : (registerCalls ip received now m).filter Call.books =
      [.update now.isoTime ip received.payload received.parsed] := by
    unfold registerCalls
    cases (m.update now.isoTime ip received.payload received.parsed).2 <;> rfl
  have second : (queueCalls cfg received raised).filter Call.books =
      if cfg.mqtt && present received.parsed then [.enqueue received.payload received.parsed]
      else [] := by
    unfold queueCalls
    split
    · cases raised <;> rfl
    · rfl
  rw [List.filter_append, first, second]
  rfl

/-- **What is due to a drained message is done at once.** -/
theorem Ingest.book_takes {cfg : Config} {conn : Nat} {ip : String} {received : Received}
    {now : Clock} {raised : Option PyError} {w : Ingest}
    (draining : w.handlers[conn]? = some ⟨ip, .draining received⟩) :
    Ingest.Takes cfg w (.drained conn now raised) (w.book cfg conn ip received now raised) := by
  set counted := { w with server := w.server.count ip received now } with countedEq
  obtain ⟨packets, clients⟩ := w.server.count_counts ip received now
  obtain ⟨server, handlers, devices, -⟩ := counted.register_spec ip received now
  obtain ⟨server', handlers', devices', -⟩ :=
    (counted.register ip received now).queue_spec cfg received raised
  refine .books draining ?_ ?_ ?_ ?_ ?_
  · refine (congrArg TCPServer.packetCount (server'.trans server)).trans packets
  · exact devices'.trans devices
  · rw [Ingest.book_calls, List.filter_append, filter_books]
  · exact congrArg (fun hs => hs.set conn ⟨ip, .reading⟩) (handlers'.trans handlers)
  · exact (congrArg TCPServer.connectedClients (server'.trans server)).trans clients

/-- **Every step is one of these.** -/
theorem Ingest.step_takes {cfg : Config} {codec : Codec} {w w' : Ingest} {step : Step}
    (stepped : w.step cfg codec step = some w') : Ingest.Takes cfg w step w' := by
  cases step with
  | accept ip =>
      obtain rfl := Option.some.inj stepped
      exact .opens ⟨rfl, rfl, rfl⟩ rfl rfl
  | message conn data write =>
      simp only [Ingest.step] at stepped
      split at stepped
      · obtain rfl := Option.some.inj stepped
        exact Ingest.message_takes (by assumption)
      · cases stepped
  | raise conn exc =>
      simp only [Ingest.step] at stepped
      split at stepped
      · obtain rfl := Option.some.inj stepped
        exact .ends rfl (by assumption) rfl (by simp) (Quiet.abort _ _ exc w) rfl rfl
      · obtain rfl := Option.some.inj stepped
        exact .ends rfl (by assumption) rfl (by simp) (Quiet.abort _ _ exc w) rfl rfl
      · cases stepped
  | drained conn now raised =>
      simp only [Ingest.step] at stepped
      split at stepped
      · obtain rfl := Option.some.inj stepped
        exact Ingest.book_takes (by assumption)
      · cases stepped

/-! ### Bookkeeping over a run -/

/-- The drains that completed so far, in order. -/
def drains (w : Ingest) (step : Step) (_ : Ingest) (done : List Drain) : List Drain :=
  match step with
  | .drained conn now _ =>
      match w.handlers[conn]? with
      | some ⟨ip, .draining received⟩ => done ++ [⟨now.isoTime, ip, received⟩]
      | _ => done
  | .accept _ | .message _ _ _ | .raise _ _ => done

/-- The server with the drains of the run. -/
def booking (cfg : Config) (codec : Codec) (capacity ticks : Nat) :
    System (Ingest × List Drain) Step :=
  (ingest cfg codec capacity ticks).withBooks [] drains

/-- The registry after these drains. -/
def registered (capacity : Nat) (done : List Drain) : DeviceManager :=
  done.foldl (fun m d => (m.update d.isoTime d.ip d.received.payload d.received.parsed).1)
    (.init capacity)

/-- Counters, registry and queue are what the drains make them. -/
structure Booked (cfg : Config) (capacity : Nat) (w : Ingest) (done : List Drain) : Prop where
  /-- every drain is counted once -/
  packets : w.server.packetCount = done.length
  /-- every drained message goes to `devices.update` once and, if it is due, to
  `mqtt.enqueue` once, in the order of the drains, and nothing else does -/
  calls : w.calls.filter Call.books = done.flatMap (Drain.calls cfg)
  devices : w.devices = registered capacity done
  clients : w.server.connectedClients = w.handlers.countP Handler.running

theorem countP_running_set {handlers : List Handler} {conn : Nat} {old new : Handler}
    (here : handlers[conn]? = some old) :
    ((handlers.set conn new).countP Handler.running : Int) =
      handlers.countP Handler.running - (if old.running then 1 else 0) +
        (if new.running then 1 else 0) := by
  obtain ⟨bound, isOld⟩ := List.getElem?_eq_some_iff.mp here
  have atMost : (if old.running = true then 1 else 0) ≤ handlers.countP Handler.running :=
    isOld ▸ List.boole_getElem_le_countP bound
  rw [List.countP_set bound, isOld, Int.natCast_add, Int.natCast_sub atMost]
  split <;> split <;> rfl

theorem Booked.init (cfg : Config) (capacity ticks : Nat) :
    Booked cfg capacity (.init capacity ticks) [] :=
  ⟨rfl, rfl, rfl, rfl⟩

/-- A quiet step books nothing. -/
theorem Booked.quiet {cfg : Config} {capacity : Nat} {w w' : Ingest} {done : List Drain}
    (booked : Booked cfg capacity w done) (quiet : Quiet w w')
    (clients : w'.server.connectedClients = w'.handlers.countP Handler.running) :
    Booked cfg capacity w' done :=
  ⟨quiet.packets.trans booked.packets, quiet.calls.trans booked.calls,
    quiet.devices.trans booked.devices, clients⟩

theorem Booked.step {cfg : Config} {codec : Codec} {capacity : Nat} {w w' : Ingest}
    {done : List Drain} {step : Step} (booked : Booked cfg capacity w done)
    (stepped : w.step cfg codec step = some w') :
      Booked cfg capacity w' (drains w step w' done) := by
  cases Ingest.step_takes stepped with
  | opens quiet handlers clients =>
      apply booked.quiet quiet
      rw [clients, handlers, booked.clients, List.countP_append]
      simp [Handler.running]
  | acks received reading quiet handlers clients =>
      apply booked.quiet quiet
      rw [clients, handlers, countP_running_set reading, booked.clients]
      simp [Handler.running]
  | ends ofConn here running notDrained quiet handlers clients =>
      have same : drains w step w' done = done := by
        cases step with
        | drained conn now raised => exact absurd rfl (notDrained _ _ _)
        | accept ip => rfl
        | message conn data write => rfl
        | raise conn exc => rfl
      rw [same]
      apply booked.quiet quiet
      rw [clients, handlers, countP_running_set here, booked.clients, running]
      simp [Handler.running]
  | @books conn ip received now raised _ draining packets devices calls handlers clients =>
      have next :
          drains w (.drained conn now raised) w' done = done ++ [⟨now.isoTime, ip, received⟩] := by
        simp only [drains, draining]
      rw [next]
      constructor
      · rw [packets, booked.packets, List.length_append, List.length_singleton]
      · rw [calls, booked.calls, List.flatMap_append]
        simp
      · rw [devices, booked.devices, registered, registered, List.foldl_append]
        rfl
      · rw [clients, handlers, countP_running_set draining, booked.clients]
        simp [Handler.running]

/-- **Every message whose acknowledgement was drained is counted, registered and,
if it is due, queued exactly once, in the order of the drains.** -/
theorem bookkeeping_exactly_once {cfg : Config} {codec : Codec} {capacity ticks : Nat}
    {steps : List Step} {w : Ingest} {done : List Drain}
    (run : Run (booking cfg codec capacity ticks) steps (w, done)) : Booked cfg capacity w done :=
  run.invariant (I := fun s => Booked cfg capacity s.1 s.2) (Booked.init cfg capacity ticks)
    fun s step s' booked stepped => by
      obtain ⟨ran, next⟩ := withBooks_step stepped
      rw [next]
      exact booked.step ran

/-- Two clients at once: the message that was read last is drained first and is no
object, the other is, and then its client hangs up. -/
def twoClients : List Step :=
  [.accept "10.0.0.5", .accept "10.0.0.6", .message 0 (frame "\x7b\x7d") none,
    .message 1 (frame "2") none,
    .drained 1 ⟨1500, "2024-01-01T00:00:00Z"⟩ (some (noGet (.int 2))),
    .drained 0 ⟨1600, "2024-01-01T00:00:01Z"⟩ none, .message 0 [] none]

/-- A runtime that reads the messages of both. -/
def bothCodec : Codec := readsOnly [("\x7b\x7d".toList, .dict []), ("2".toList, .int 2)]

theorem bookkeeping_exactly_once_two :
    ∃ w done, Run (booking .shipped bothCodec 50 0) twoClients (w, done) ∧
      done.map Drain.ip = ["10.0.0.6", "10.0.0.5"] ∧
      w.calls.filter Call.books =
        [.update "2024-01-01T00:00:00Z" "10.0.0.6" "2".toList (.int 2),
          .enqueue "2".toList (.int 2),
          .update "2024-01-01T00:00:01Z" "10.0.0.5" "\x7b\x7d".toList (.dict []),
          .enqueue "\x7b\x7d".toList (.dict [])] ∧
      .log .warning "MQTT queue: 'int' object has no attribute 'get'" ∈ w.calls ∧
      Booked .shipped 50 w done := by
  have run : Run (booking .shipped bothCodec 50 0) twoClients (_, _) := run_iff_exec.mpr rfl
  exact ⟨_, _, run, rfl, rfl, List.mem_of_getElem? (i := 5) rfl, bookkeeping_exactly_once run⟩

end EdgeGateway.Tcp
