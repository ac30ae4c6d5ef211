import EdgeGateway.Lib.Run
import EdgeGateway.Tcp.Server

/-!
One `TCPClient.send_with_retry` against the gateway, as a system of steps.

The client makes at most two attempts, each on a connection of its own, and the
handler of a connection may still be at work when the client has gone. A step is
one thing that can happen next: the client sends some bytes, a handler reads some
of those on the wire, a timeout fires, an acknowledgement gets out in part, a
connection fails. So a run is one segmentation of the line together with one
order of delays and losses.

`taken` and `interrupted` only record what happened on a connection.
-/

namespace EdgeGateway.Tcp

open EdgeGateway.Lib EdgeGateway.Mqtt

/-! ### The handler of a connection -/

/-- Where `handle` is suspended. -/
inductive Phase where
  /-- in `_read_message`, with the data so far -/
  | reading (data : Bytes)
  /-- in `writer.drain()`, with the part of the acknowledgement still to write -/
  | acking (received : Received) (unsent : Bytes)
  | closed
deriving Repr

structure Conn where
  /-- sent by the client and not read yet -/
  wire : Bytes
  /-- read by the handler so far -/
  taken : Bytes
  /-- the client closed its end -/
  hungUp : Bool
  phase : Phase
  /-- written to the client -/
  written : Bytes
  /-- the messages processed, each behind its acknowledgement -/
  handled : List Received
  /-- a frame timeout fired when only a part of the text had been read -/
  interrupted : Bool
deriving Repr

def Conn.fresh : Conn := ⟨[], [], false, .reading [], [], [], false⟩

/-- The calls of `devices.update` on the connection: payload and parsed message. -/
def Conn.updates (c : Conn) : List (Text × Json) := c.handled.map fun r => (r.payload, r.parsed)

/-- `parsed is not None`. -/
def present : Json → Bool
  | .null => false
  | _ => true

/-- The calls of `mqtt.enqueue` on the connection. -/
def Conn.enqueues (cfg : Config) (c : Conn) : List (Text × Json) :=
  if cfg.mqtt then c.updates.filter fun call => present call.2 else []

/-- `_read_message` returned `data`: decode, parse, and write the acknowledgement.
What `writer.write` gets out at once is a first `flush`. -/
def Conn.message (codec : Codec) (data : Bytes) (c : Conn) : Conn :=
  if data = [] then { c with phase := .closed }
  else
    match receive codec data with
    | none => { c with phase := .closed }
    | some received => { c with phase := .acking received ack }

inductive HandlerAct where
  /-- `reader.read` returns so many bytes -/
  | read (count : Nat)
  /-- `wait_for_ms` runs out -/
  | timeout
  /-- the client closed and everything it sent was read -/
  | endOfStream
  /-- the size limit ended the loop of `_read_message` -/
  | full
  /-- the socket raises -/
  | reset
  /-- so many bytes of the acknowledgement get out -/
  | flush (count : Nat)
  /-- `drain` returned: process the message and read on -/
  | proceed
deriving DecidableEq, Repr

/-- One step of the handler; `text` is the encoded message, without the newline.
With nothing left to write `drain` only yields, so it cannot fail then. -/
def Conn.step (cfg : Config) (codec : Codec) (text : Bytes) (c : Conn) : HandlerAct → Option Conn
  | .read count =>
      match c.phase with
      | .reading data =>
          if data.length < cfg.maxMessageSize ∧ 0 < count ∧ count ≤ c.wire.length ∧
              count ≤ min cfg.readSize (cfg.maxMessageSize - data.length) then
            let chunk := c.wire.take count
            let c := { c with wire := c.wire.drop count, taken := c.taken ++ chunk }
            some (if newline ∈ chunk then c.message codec (beforeNewline (data ++ chunk))
              else { c with phase := .reading (data ++ chunk) })
          else none
      | _ => none
  | .timeout =>
      match c.phase with
      | .reading data =>
          if data.length < cfg.maxMessageSize then
            some ({ c with
              interrupted := c.interrupted || (data ≠ [] && data.length < text.length) }.message
                codec data)
          else none
      | _ => none
  | .endOfStream =>
      match c.phase with
      | .reading data =>
          if data.length < cfg.maxMessageSize ∧ c.hungUp = true ∧ c.wire = [] then
            some (c.message codec data)
          else none
      | _ => none
  | .full =>
      match c.phase with
      | .reading data =>
          if cfg.maxMessageSize ≤ data.length then some (c.message codec data) else none
      | _ => none
  | .reset =>
      match c.phase with
      | .reading _ => some { c with phase := .closed }
      | .acking _ unsent => if unsent = [] then none else some { c with phase := .closed }
      | .closed => none
  | .flush count =>
      match c.phase with
      | .acking received unsent =>
          if 0 < count ∧ count ≤ unsent.length then
            some { c with
              phase := .acking received (unsent.drop count)
              written := c.written ++ unsent.take count }
          else none
      | _ => none
  | .proceed =>
      match c.phase with
      | .acking received unsent =>
          if unsent = [] then
            some { c with phase := .reading [], handled := c.handled ++ [received] }
          else none
      | _ => none

/-- `Conn.step` as a relation: what each step requires, and what it leaves. -/
inductive Conn.Takes (cfg : Config) (codec : Codec) (text : Bytes) (c : Conn) :
    HandlerAct → Conn → Prop where
  | read {data : Bytes} {count : Nat} (phase : c.phase = .reading data)
      (short : data.length < cfg.maxMessageSize) (positive : 0 < count)
      (sent : count ≤ c.wire.length) :
      Conn.Takes cfg codec text c (.read count)
        (if newline ∈ c.wire.take count then
          ({ c with
            wire := c.wire.drop count, taken := c.taken ++ c.wire.take count } : Conn).message
            codec (beforeNewline (data ++ c.wire.take count))
        else
          { c with
            wire := c.wire.drop count
            taken := c.taken ++ c.wire.take count
            phase := .reading (data ++ c.wire.take count) })
  | timeout {data : Bytes} (phase : c.phase = .reading data)
      (short : data.length < cfg.maxMessageSize) :
      Conn.Takes cfg codec text c .timeout
        (({ c with
          interrupted := c.interrupted || (data ≠ [] && data.length < text.length) } : Conn).message
            codec data)
  | endOfStream {data : Bytes} (phase : c.phase = .reading data)
      (short : data.length < cfg.maxMessageSize) (hungUp : c.hungUp = true) (rest : c.wire = []) :
      Conn.Takes cfg codec text c .endOfStream (c.message codec data)
  | full {data : Bytes} (phase : c.phase = .reading data)
      (limit : cfg.maxMessageSize ≤ data.length) :
      Conn.Takes cfg codec text c .full (c.message codec data)
  | reset (unwritten : ∀ received, c.phase ≠ .acking received []) :
      Conn.Takes cfg codec text c .reset { c with phase := .closed }
  | flush {received : Received} {unsent : Bytes} {count : Nat}
      (phase : c.phase = .acking received unsent) (positive : 0 < count)
      (left : count ≤ unsent.length) :
      Conn.Takes cfg codec text c (.flush count)
        { c with
          phase := .acking received (unsent.drop count)
          written := c.written ++ unsent.take count }
  | proceed {received : Received} (phase : c.phase = .acking received []) :
      Conn.Takes cfg codec text c .proceed
        { c with phase := .reading [], handled := c.handled ++ [received] }

theorem Conn.step_takes {cfg : Config} {codec : Codec} {text : Bytes} {c c' : Conn}
    {act : HandlerAct} (step : c.step cfg codec text act = some c') :
    Conn.Takes cfg codec text c act c' := by
  cases act with
  | read count =>
      simp only [Conn.step] at step
      split at step
      · split at step
        · rename_i phase enabled
          obtain rfl := Option.some.inj step
          exact .read phase enabled.1 enabled.2.1 enabled.2.2.1
        · cases step
      · cases step
  | timeout =>
      simp only [Conn.step] at step
      split at step
      · split at step
        · rename_i phase short
          obtain rfl := Option.some.inj step
          exact .timeout phase short
        · cases step
      · cases step
  | endOfStream =>
      simp only [Conn.step] at step
      split at step
      · split at step
        · rename_i phase enabled
          obtain rfl := Option.some.inj step
          exact .endOfStream phase enabled.1 enabled.2.1 enabled.2.2
        · cases step
      · cases step
  | full =>
      simp only [Conn.step] at step
      split at step
      · split at step
        · rename_i phase limit
          obtain rfl := Option.some.inj step
          exact .full phase limit
        · cases step
      · cases step
  | reset =>
      simp only [Conn.step] at step
      split at step
      · rename_i phase
        obtain rfl := Option.some.inj step
        exact .reset fun received => by simp [phase]
      · split at step
        · cases step
        · rename_i phase more
          obtain rfl := Option.some.inj step
          exact .reset fun received => by simp [phase, more]
      · cases step
  | flush count =>
      simp only [Conn.step] at step
      split at step
      · split at step
        · rename_i phase enabled
          obtain rfl := Option.some.inj step
          exact .flush phase enabled.1 enabled.2
        · cases step
      · cases step
  | proceed =>
      simp only [Conn.step] at step
      split at step
      · split at step
        · rename_i phase done
          obtain rfl := Option.some.inj step
          exact .proceed (by rw [phase, done])
        · cases step
      · cases step

/-- What a handler step does, by what becomes of the data it reads. `stop` is the
end of a read without a newline: a timeout, the end of the stream or the limit. -/
inductive Conn.Move (codec : Codec) (text : Bytes) : Conn → Conn → Prop where
  | more {c : Conn} {data chunk rest : Bytes} (phase : c.phase = .reading data)
      (wire : c.wire = chunk ++ rest) (plain : newline ∉ chunk) :
      Conn.Move codec text c
        { c with wire := rest, taken := c.taken ++ chunk, phase := .reading (data ++ chunk) }
  | line {c : Conn} {data chunk rest : Bytes} (phase : c.phase = .reading data)
      (wire : c.wire = chunk ++ rest) (ends : newline ∈ chunk) :
      Conn.Move codec text c
        (({ c with wire := rest, taken := c.taken ++ chunk } : Conn).message codec
          (beforeNewline (data ++ chunk)))
  | stop {c : Conn} {data : Bytes} {flag : Bool} (phase : c.phase = .reading data)
      (flagged : c.interrupted = true → flag = true)
      (why : flag = false → data = [] ∨ text.length ≤ data.length ∨ c.hungUp = true) :
      Conn.Move codec text c (({ c with interrupted := flag } : Conn).message codec data)
  | reset {c : Conn} (unwritten : ∀ received, c.phase ≠ .acking received []) :
      Conn.Move codec text c { c with phase := .closed }
  | flush {c : Conn} {received : Received} {part unsent : Bytes}
      (phase : c.phase = .acking received (part ++ unsent)) :
      Conn.Move codec text c
        { c with phase := .acking received unsent, written := c.written ++ part }
  | proceed {c : Conn} {received : Received} (phase : c.phase = .acking received []) :
      Conn.Move codec text c
        { c with phase := .reading [], handled := c.handled ++ [received] }

/-- **Every handler step is one of the moves.** -/
theorem Conn.step_moves {cfg : Config} {codec : Codec} {text : Bytes} {c c' : Conn}
    {act : HandlerAct} (fits : text.length < cfg.maxMessageSize)
    (step : c.step cfg codec text act = some c') : Conn.Move codec text c c' := by
  cases Conn.step_takes step with
  | @read data count phase short positive sent =>
      have wire : c.wire = c.wire.take count ++ c.wire.drop count :=
        (List.take_append_drop count c.wire).symm
      split
      · exact .line phase wire (by assumption)
      · exact .more phase wire (by assumption)
  | @timeout data phase short =>
      refine .stop phase (fun before => by simp [before]) fun unflagged => ?_
      by_cases empty : data = []
      · exact .inl empty
      · have long : ¬ data.length < text.length := by
          intro short
          simp [empty, short] at unflagged
        exact .inr (.inl (not_lt.mp long))
  | endOfStream phase short hungUp rest => exact .stop phase id fun _ => .inr (.inr hungUp)
  | full phase limit => exact .stop phase id fun _ => .inr (.inl (fits.le.trans limit))
  | reset unwritten => exact .reset unwritten
  | flush phase positive left => exact .flush (by rw [List.take_append_drop, phase])
  | proceed phase => exact .proceed phase

/-- A message that was read closes the connection or gets its acknowledgement. -/
theorem Conn.message_cases (codec : Codec) (data : Bytes) (c : Conn) :
    c.message codec data = { c with phase := .closed } ∨
      ∃ received, data ≠ [] ∧ receive codec data = some received ∧
        c.message codec data = { c with phase := .acking received ack } := by
  unfold Conn.message
  split
  · exact .inl rfl
  · rename_i nonempty
    cases read : receive codec data with
    | none => exact .inl rfl
    | some received => exact .inr ⟨received, nonempty, rfl, rfl⟩

/-! ### The client -/

/-- Where `send_with_retry` is. -/
inductive Client where
  /-- at the top of an attempt -/
  | attempting (attempt : Nat)
  /-- connected, with this much of the line to send -/
  | talking (attempt : Nat) (unsent : Bytes)
  | finished (result : Bool)
deriving DecidableEq, Repr

/-- After a failed attempt. -/
def Client.next (attempt : Nat) : Client :=
  if attempt = 0 then .attempting 1 else .finished false

/-- `ujson.loads(response.decode("utf-8").strip()).get("status") == "OK"`. An
exception counts as a failed attempt, like any other status. -/
def accepts (codec : Codec) (response : Bytes) : Bool :=
  match Utf8.decode? response with
  | none => false
  | some text =>
      match codec.loads (strip text) with
      | .ok (.dict acknowledgement) =>
          match Dict.get acknowledgement "status" .null with
          | .str status => status = "OK"
          | _ => false
      | _ => false

/-- The client and its connections, the newest first. -/
structure World where
  client : Client
  conns : List Conn
deriving Repr

inductive Action where
  /-- no Wi-Fi, or `connect` raises -/
  | giveUp
  | connect
  /-- `connection.send` takes so many bytes -/
  | send (count : Nat)
  /-- a socket operation of the client raises -/
  | fail
  /-- `connection.recv(512)` returns so many bytes -/
  | recv (count : Nat)
  /-- the handler of a connection makes a step -/
  | handler (conn : Nat) (act : HandlerAct)
deriving DecidableEq, Repr

def Conn.hangUp (c : Conn) : Conn := { c with hungUp := true }

/-- `message`, encoded as `_send_once` puts it on the wire, without the newline. -/
def encoded (codec : Codec) (message : Json) : Bytes := Utf8.encode (codec.dumps message).toList

/-- One step of the world in which the client sends `message`. -/
def World.step (cfg : Config) (codec : Codec) (message : Json) (w : World) : Action → Option World
  | .giveUp =>
      match w.client with
      | .attempting attempt => some { w with client := .next attempt }
      | _ => none
  | .connect =>
      match w.client with
      | .attempting attempt =>
          some ⟨.talking attempt (encoded codec message ++ [newline]), .fresh :: w.conns⟩
      | _ => none
  | .send count =>
      match w.client, w.conns with
      | .talking attempt unsent, c :: older =>
          if 0 < count ∧ count ≤ unsent.length then
            some ⟨.talking attempt (unsent.drop count),
              { c with wire := c.wire ++ unsent.take count } :: older⟩
          else none
      | _, _ => none
  | .fail =>
      match w.client, w.conns with
      | .talking attempt _, c :: older => some ⟨.next attempt, c.hangUp :: older⟩
      | _, _ => none
  | .recv count =>
      match w.client, w.conns with
      | .talking attempt [], c :: older =>
          if 0 < count ∧ count ≤ min 512 c.written.length then
            some ⟨if accepts codec (c.written.take count) then .finished true else .next attempt,
              c.hangUp :: older⟩
          else none
      | _, _ => none
  | .handler i act =>
      match w.conns[i]? with
      | some c => (c.step cfg codec (encoded codec message) act).map fun c' =>
          { w with conns := w.conns.set i c' }
      | none => none

/-- One message on its way from the client to the gateway. -/
def link (cfg : Config) (codec : Codec) (message : Json) : System World Action :=
  ⟨⟨.attempting 0, []⟩, World.step cfg codec message⟩

end EdgeGateway.Tcp
