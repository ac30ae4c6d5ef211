import EdgeGateway.Mqtt.Ledger
import EdgeGateway.Tcp.Delivery
import EdgeGateway.Tcp.Ingest
import EdgeGateway.Tcp.Reading

/-!
The TCP service and the publisher side by side, down to the single read.

A step is what happens at one await of a handler or of the publisher: a client
connects, a read or a drain ends, the awaited operation of the publisher ends. So
a run is one behaviour of all peers and of the modem, in one interleaving.

* `Uplink.Good` says that the parts are in reachable states of their own systems,
  and that no payload on its way to the modem has a newline.
* `reads_bounded`: what holds of every read, and of everything that is queued.
-/

namespace EdgeGateway

open EdgeGateway.Lib

/-! ### The gateway between its peers and its queue -/

structure Uplink where
  tcp : Tcp.Ingest
  /-- the last call of `_read_message` of each handler -/
  readings : List Tcp.Reading
  ledger : Mqtt.Ledger

structure Uplink.Config where
  tcp : Tcp.Config
  mqtt : Mqtt.Config

def Uplink.Config.shipped : Uplink.Config := ⟨.shipped, .shipped⟩

inductive Uplink.Input where
  /-- a client connects -/
  | accept (ip : String)
  /-- the read of a handler ends, and `writer.write` raises or not if it comes to that -/
  | read (conn : Nat) (answer : Tcp.Answer) (write : Option PyError)
  /-- the drain of a handler raises -/
  | fail (conn : Nat) (exc : PyError)
  /-- the drain of a handler returns -/
  | drained (conn : Nat) (now : Tcp.Clock)
  /-- a stretch of the publisher -/
  | publish (lte : Mqtt.Lte) (now : Mqtt.Readings) (outcome : Mqtt.Outcome)

namespace Uplink

variable (cfg : Config) (codec : Mqtt.Codec)

/-- A handler goes on once `_read_message` has returned or raised. -/
def proceed (conn : Nat) (write : Option PyError) (w : Uplink) : Option Uplink :=
  match w.readings[conn]?.bind Tcp.Reading.result with
  | none => some w
  | some (.ok data) =>
      (w.tcp.step cfg.tcp codec (.message conn data write)).map fun tcp => { w with tcp := tcp }
  | some (.error exc) =>
      (w.tcp.step cfg.tcp codec (.raise conn exc)).map fun tcp => { w with tcp := tcp }

/-- What `mqtt.enqueue(payload, parsed)` raises. -/
def raises (received : Tcp.Received) (w : Uplink) : Option PyError :=
  match w.ledger.service.mqtt.enqueue cfg.mqtt (w.ledger.number (String.ofList received.payload))
      received.parsed with
  | .ok _ => none
  | .error exc => some exc

/-- The queue behind a drained message. -/
def offer (received : Tcp.Received) (w : Uplink) : Option Mqtt.Ledger :=
  if cfg.tcp.mqtt && Tcp.present received.parsed then
    w.ledger.step cfg.mqtt codec (.enqueue (String.ofList received.payload) received.parsed)
  else some w.ledger

def step (w : Uplink) : Input → Option Uplink
  | .accept ip => do
      let tcp ← w.tcp.step cfg.tcp codec (.accept ip)
      let w' : Uplink := { w with tcp := tcp, readings := w.readings ++ [.start cfg.tcp] }
      w'.proceed cfg codec w.readings.length none
  | .read conn answer write => do
      let pending ← w.readings[conn]?
      let reading ← pending.step cfg.tcp answer
      let w' : Uplink := { w with readings := w.readings.set conn reading }
      w'.proceed cfg codec conn write
  | .fail conn exc =>
      match w.tcp.handlers[conn]? with
      | some ⟨_, .draining _⟩ =>
          (w.tcp.step cfg.tcp codec (.raise conn exc)).map fun tcp => { w with tcp := tcp }
      | _ => none
  | .drained conn now =>
      match w.tcp.handlers[conn]? with
      | some ⟨_, .draining received⟩ => do
          let tcp ← w.tcp.step cfg.tcp codec (.drained conn now (w.raises cfg received))
          let ledger ← w.offer cfg codec received
          let w' : Uplink := ⟨tcp, w.readings.set conn (.start cfg.tcp), ledger⟩
          w'.proceed cfg codec conn none
      | _ => none
  | .publish lte now outcome =>
      (w.ledger.step cfg.mqtt codec (.resume lte now outcome)).map fun ledger =>
        { w with ledger := ledger }

end Uplink

/-- The gateway with every interleaving of its peers and its publisher. -/
def uplink (cfg : Uplink.Config) (codec : Mqtt.Codec) (capacity ticks : Nat) :
    System Uplink Uplink.Input :=
  ⟨⟨.init capacity ticks, [], .init⟩, Uplink.step cfg codec⟩

/-! ### Payloads without a newline -/

namespace Mqtt

/-- No queued payload has a newline. -/
def PlainQueue (d : Desk) : Prop := ∀ m ∈ d.queue, '\n' ∉ m.payload.text.toList

def PlainOffer (_ : Desk) : Act → Prop
  | .offer m => '\n' ∉ m.payload.text.toList
  | .deliver | .abandon | .pick => True

theorem plainRule (capacity : Nat) : Rule capacity PlainQueue PlainOffer where
  empty := fun m mem => by cases mem
  keeps := by
    intro d act d' _ plain offered move m mem
    cases move with
    | offer _ call =>
        rcases call.mem mem with rfl | old
        · exact offered
        · exact plain m old
    | deliver => exact plain m (List.mem_cons_of_mem _ mem)
    | abandon => exact plain m mem
    | pick => exact plain m mem
  pick := fun _ => trivial

variable {cfg : Config} {codec : Codec} {l : Ledger}

theorem plainOffer_enqueue {payload : String} {parsed : Json} (plain : '\n' ∉ payload.toList) :
    Guarded cfg codec PlainOffer l (.enqueue payload parsed) := by
  intro act isAct
  rw [Ledger.act?_call (by simp)] at isAct
  obtain ⟨message, offered, rfl⟩ := Option.map_eq_some_iff.mp isAct
  cases parsed with
  | dict fields =>
      obtain rfl := Option.some.inj offered
      exact plain
  | _ => cases offered

theorem reply_dumps {m m' : MQTTManager Numbered} {now : Readings} {event : Text} {text : String}
    (hit : m.reply cfg codec now event = some (m', text)) : ∃ value, text = codec.dumps value := by
  unfold MQTTManager.reply at hit
  split at hit
  · split at hit
    · obtain ⟨-, same⟩ := Prod.mk.inj (Option.some.inj hit)
      exact ⟨_, same.symm⟩
    · cases hit
  · cases hit

/-- A reply is what `dumps` makes of it. -/
theorem offers_plain (escapes : ∀ value, '\n' ∉ (codec.dumps value).toList) {lte : Lte}
    {now : Readings} {outcome : Outcome} {message : Message}
    (offered : l.offers cfg codec (.resume lte now outcome) = some message) :
    '\n' ∉ message.payload.text.toList := by
  cases outcome with
  | raised exc => cases offered
  | returned event =>
      cases event with
      | none => cases offered
      | some event =>
          simp only [Ledger.offers] at offered
          split at offered
          · obtain ⟨pair, hit, rfl⟩ := Option.map_eq_some_iff.mp offered
            obtain ⟨value, text⟩ := reply_dumps hit
            rw [show (l.number pair.2).text = pair.2 from rfl, text]
            exact escapes value
          · cases offered

theorem plainOffer_resume (escapes : ∀ value, '\n' ∉ (codec.dumps value).toList) {lte : Lte}
    {now : Readings} {outcome : Outcome} :
    Guarded cfg codec PlainOffer l (.resume lte now outcome) := by
  intro act isAct
  cases flight : l.service.inFlight with
  | none =>
      rw [Ledger.act?_idle flight] at isAct
      obtain ⟨message, offered, rfl⟩ := Option.map_eq_some_iff.mp isAct
      exact offers_plain escapes offered
  | some message =>
      unfold Ledger.act? at isAct
      rw [flight] at isAct
      cases outcome with
      | returned event =>
          obtain rfl := Option.some.inj isAct
          trivial
      | raised exc =>
          obtain rfl := Option.some.inj isAct
          trivial

end Mqtt

namespace Tcp

variable {cfg : Config} {codec : Mqtt.Codec}

/-- No message a handler has read has a newline. -/
def Ingest.Plain (w : Ingest) : Prop :=
  ∀ handler ∈ w.handlers, ∀ received, handler.stage = .draining received →
    '\n' ∉ received.payload

/-- A character of the payload is a character of what was read. -/
theorem validate_plain {data : Bytes} {received : Received} {refused : Bool}
    (plain : newline ∉ data) (valid : validate codec data = .ok (received, refused)) :
    '\n' ∉ received.payload := by
  obtain ⟨-, decoded⟩ := validate_spec valid
  obtain ⟨trailing, -, split⟩ := rstrip_split data
  rw [Utf8.decode?_eq_some_iff.mp decoded] at split
  intro mem
  have byte : newline ∈ Utf8.encode received.payload := Utf8.ascii_mem_encode (by decide) mem
  exact plain (split ▸ List.mem_append_left _ byte)

/-- A message leaves its handler in the drain of what was read, or ends it. -/
theorem Ingest.message_stage (cfg : Config) (codec : Mqtt.Codec) (conn : Nat) (ip : String)
    (data : Bytes) (write : Option PyError) (w : Ingest) :
    ∃ stage, (w.message cfg codec conn ip data write).handlers = w.handlers.set conn ⟨ip, stage⟩ ∧
      ∀ received, stage = .draining received →
        ∃ refused, validate codec data = .ok (received, refused) := by
  rw [← (w.fetch_spec cfg data).2.1]
  unfold Ingest.message Ingest.answer
  split
  · exact ⟨.finished, rfl, fun _ none => by cases none⟩
  · split
    · exact ⟨.finished, rfl, fun _ none => by cases none⟩
    · rename_i received refused valid
      dsimp only
      split
      · refine ⟨.finished, ?_, fun _ none => by cases none⟩
        cases refused <;> rfl
      · refine ⟨.draining received, ?_, ?_⟩
        · cases refused <;> rfl
        · rintro _ ⟨⟩
          exact ⟨refused, valid⟩

theorem Ingest.Plain.set {w w' : Ingest} {conn : Nat} {handler : Handler} (plain : w.Plain)
    (handlers : w'.handlers = w.handlers.set conn handler)
    (calm : ∀ received, handler.stage = .draining received → '\n' ∉ received.payload) :
    w'.Plain := by
  intro other mem
  rw [handlers] at mem
  rcases List.mem_or_eq_of_mem_set mem with old | rfl
  · exact plain other old
  · exact calm

/-- **A handler that reads no newline hands none on.** -/
theorem Ingest.Plain.step {w w' : Ingest} {step : Step} (plain : w.Plain)
    (read : ∀ conn data write, step = .message conn data write → newline ∉ data)
    (stepped : w.step cfg codec step = some w') : w'.Plain := by
  cases step with
  | accept ip =>
      obtain rfl := Option.some.inj stepped
      intro handler mem received draining
      rcases List.mem_append.mp mem with old | new
      · exact plain handler old received draining
      · obtain rfl := List.mem_singleton.mp new
        cases draining
  | message conn data write =>
      simp only [Ingest.step] at stepped
      split at stepped
      · obtain rfl := Option.some.inj stepped
        obtain ⟨stage, handlers, drains⟩ := Ingest.message_stage cfg codec conn _ data write w
        refine plain.set handlers fun received draining => ?_
        obtain ⟨refused, valid⟩ := drains received draining
        exact validate_plain (read conn data write rfl) valid
      · cases stepped
  | raise conn exc =>
      cases Ingest.step_takes stepped with
      | ends _ _ _ _ _ handlers _ => exact plain.set handlers fun _ none => by cases none
  | drained conn now raised =>
      cases Ingest.step_takes stepped with
      | ends _ _ _ _ _ handlers _ => exact plain.set handlers fun _ none => by cases none
      | books _ _ _ _ handlers _ => exact plain.set handlers fun _ none => by cases none

end Tcp

/-! ### All runs -/

section Runs

variable {cfg : Uplink.Config} {codec : Mqtt.Codec} {capacity ticks : Nat} {w w' : Uplink}

/-- The parts are in states of their own systems, and nothing on its way to the
modem has a newline. -/
structure Uplink.Good (cfg : Uplink.Config) (codec : Mqtt.Codec) (capacity ticks : Nat)
    (w : Uplink) : Prop where
  readings : ∀ r ∈ w.readings, Reachable (Tcp.anyPeer cfg.tcp) r
  served : Reachable (Tcp.ingest cfg.tcp codec capacity ticks) w.tcp
  plain : w.tcp.Plain
  published : Reachable (Mqtt.publisher cfg.mqtt codec) w.ledger
  queue : Mqtt.PlainQueue w.ledger.desk

theorem Uplink.Good.init :
    (uplink cfg codec capacity ticks).init.Good cfg codec capacity ticks where
  readings := fun r mem => by cases mem
  served := .init _
  plain := fun handler mem => by cases mem
  published := .init _
  queue := fun m mem => by cases mem

theorem Uplink.Good.tcp_step (good : w.Good cfg codec capacity ticks) {step : Tcp.Step}
    {tcp : Tcp.Ingest}
    (read : ∀ conn data write, step = .message conn data write → Tcp.newline ∉ data)
    (stepped : w.tcp.step cfg.tcp codec step = some tcp) :
    ({ w with tcp := tcp } : Uplink).Good cfg codec capacity ticks :=
  ⟨good.readings, good.served.step stepped, good.plain.step read stepped, good.published,
    good.queue⟩

theorem Uplink.Good.ledger_step (good : w.Good cfg codec capacity ticks) {input : Mqtt.Input}
    {ledger : Mqtt.Ledger}
    (plain : Mqtt.Guarded cfg.mqtt codec Mqtt.PlainOffer w.ledger input)
    (stepped : w.ledger.step cfg.mqtt codec input = some ledger) :
    ({ w with ledger := ledger } : Uplink).Good cfg codec capacity ticks := by
  obtain ⟨inputs, run⟩ := good.published
  have kept := (Mqtt.plainRule _).step (Mqtt.Ledger.sound run) good.queue plain stepped
  exact ⟨good.readings, good.served, good.plain, good.published.step stepped, kept.2⟩

theorem Uplink.Good.reread (good : w.Good cfg codec capacity ticks) {readings : List Tcp.Reading}
    (reach : ∀ r ∈ readings, Reachable (Tcp.anyPeer cfg.tcp) r) :
    ({ w with readings := readings } : Uplink).Good cfg codec capacity ticks :=
  ⟨reach, good.served, good.plain, good.published, good.queue⟩

theorem Uplink.Good.set (good : w.Good cfg codec capacity ticks) {r : Tcp.Reading} (conn : Nat)
    (reach : Reachable (Tcp.anyPeer cfg.tcp) r) :
    ({ w with readings := w.readings.set conn r } : Uplink).Good cfg codec capacity ticks := by
  refine good.reread fun other mem => ?_
  rcases List.mem_or_eq_of_mem_set mem with old | rfl
  · exact good.readings other old
  · exact reach

/-- A handler goes on with what `_read_message` returned, which has no newline. -/
theorem Uplink.Good.proceed (good : w.Good cfg codec capacity ticks) {conn : Nat}
    {write : Option PyError} (step : w.proceed cfg codec conn write = some w') :
    w'.Good cfg codec capacity ticks := by
  unfold Uplink.proceed at step
  split at step
  · obtain rfl := Option.some.inj step
    exact good
  · rename_i data returned
    obtain ⟨r, here, result⟩ := Option.bind_eq_some_iff.mp returned
    obtain ⟨answers, run⟩ := good.readings r (List.mem_of_getElem? here)
    obtain ⟨tcp, stepped, rfl⟩ := Option.map_eq_some_iff.mp step
    refine good.tcp_step ?_ stepped
    rintro _ _ _ ⟨⟩
    exact ((Tcp.Reading.good_of_run run).returned data result).2
  · obtain ⟨tcp, stepped, rfl⟩ := Option.map_eq_some_iff.mp step
    exact good.tcp_step (by simp) stepped

/-- What is offered to the queue has no newline. -/
theorem Uplink.Good.offer (good : w.Good cfg codec capacity ticks) {received : Tcp.Received}
    (plain : '\n' ∉ received.payload) {ledger : Mqtt.Ledger}
    (offered : w.offer cfg codec received = some ledger) :
    ({ w with ledger := ledger } : Uplink).Good cfg codec capacity ticks := by
  unfold Uplink.offer at offered
  split at offered
  · refine good.ledger_step (Mqtt.plainOffer_enqueue ?_) offered
    rwa [String.toList_ofList]
  · obtain rfl := Option.some.inj offered
    exact good

/-- **A step keeps the parts good.** -/
theorem Uplink.Good.step (escapes : ∀ value, '\n' ∉ (codec.dumps value).toList)
    {input : Uplink.Input} (good : w.Good cfg codec capacity ticks)
    (step : w.step cfg codec input = some w') : w'.Good cfg codec capacity ticks := by
  have fresh : Reachable (Tcp.anyPeer cfg.tcp) (.start cfg.tcp) := .init _
  cases input with
  | accept ip =>
      simp only [Uplink.step] at step
      obtain ⟨tcp, stepped, step⟩ := Option.bind_eq_some_iff.mp step
      have accepted := good.tcp_step (by simp) stepped
      refine (accepted.reread fun r mem => ?_).proceed step
      rcases List.mem_append.mp mem with old | new
      · exact good.readings r old
      · exact List.mem_singleton.mp new ▸ fresh
  | read conn answer write =>
      obtain ⟨pending, here, step⟩ := Option.bind_eq_some_iff.mp step
      obtain ⟨reading, answered, step⟩ := Option.bind_eq_some_iff.mp step
      have reach := (good.readings pending (List.mem_of_getElem? here)).step answered
      exact (good.set conn reach).proceed step
  | fail conn exc =>
      simp only [Uplink.step] at step
      split at step
      · obtain ⟨tcp, stepped, rfl⟩ := Option.map_eq_some_iff.mp step
        exact good.tcp_step (by simp) stepped
      · cases step
  | drained conn now =>
      simp only [Uplink.step] at step
      split at step
      · rename_i ip received here
        obtain ⟨tcp, stepped, step⟩ := Option.bind_eq_some_iff.mp step
        obtain ⟨ledger, offered, step⟩ := Option.bind_eq_some_iff.mp step
        have plain := good.plain _ (List.mem_of_getElem? here) received rfl
        have queued := good.offer plain offered
        exact ((queued.tcp_step (by simp) stepped).set conn fresh).proceed step
      · cases step
  | publish lte now outcome =>
      obtain ⟨ledger, stepped, rfl⟩ := Option.map_eq_some_iff.mp step
      exact good.ledger_step (Mqtt.plainOffer_resume escapes) stepped

/-- Neither result code the AT commands wait for is in the text. -/
def Harmless (text : Text) : Prop :=
  contains "\r\nOK\r\n".toList text = false ∧ contains "\r\nERROR\r\n".toList text = false

theorem harmless_of_plain {text : Text} (plain : '\n' ∉ text) : Harmless text := by
  have absent : ∀ code : Text, '\n' ∈ code → contains code text = false := by
    intro code mem
    by_contra found
    have sub := contains_iff.mp (by simpa using found)
    exact plain (sub.subset mem)
  exact ⟨absent _ (by decide), absent _ (by decide)⟩

/-- **Every read of every peer is bounded, ends, and returns one line**, so no payload
that is queued for the modem has a result code in it. `dumps` escapes newlines. -/
theorem reads_bounded (positive : 0 < cfg.tcp.readSize)
    (escapes : ∀ value, '\n' ∉ (codec.dumps value).toList) (timeouts : Tcp.Timeouts) :
    (∀ answers r, Run (Tcp.anyPeer cfg.tcp) answers r →
      Tcp.Bounded cfg.tcp timeouts answers r) ∧
    (∀ peer : Tcp.Peer, peer.Fits cfg.tcp → ∃ answers r, Run (Tcp.anyPeer cfg.tcp) answers r ∧
      peer.Gives answers ∧ answers.length ≤ cfg.tcp.maxMessageSize ∧ r.result.isSome = true) ∧
    ∀ inputs w, Run (uplink cfg codec capacity ticks) inputs w →
      (∀ r ∈ w.readings, ∃ answers, Run (Tcp.anyPeer cfg.tcp) answers r) ∧
        ∀ m ∈ w.ledger.queue, Harmless m.payload.text.toList := by
  refine ⟨fun answers r run => Tcp.bounded_of_run positive timeouts run,
    fun peer fits => Tcp.returns fits, fun inputs w run => ?_⟩
  have good : w.Good cfg codec capacity ticks :=
    run.invariant .init fun _ _ _ good step => good.step escapes step
  exact ⟨good.readings, fun m mem => harmless_of_plain (good.queue m mem)⟩

end Runs

/-- A client sends a result code behind its message, then nothing, and is timed out. -/
def injected : List Uplink.Input :=
  [.accept "10.0.0.5", .read 0 (.chunk (Tcp.frame "\x7b\"n\": 1\x7d\r\nOK\r\n")) none,
    .drained 0 ⟨0, "2024-01-01 00:00:00"⟩, .read 0 .timeout none]

theorem reads_bounded_injected :
    ∃ w, Run (uplink .shipped Tcp.readingCodec 50 0) injected w ∧
      w.ledger.queue.map (fun m => m.payload.text) = ["\x7b\"n\": 1\x7d"] ∧
      ∀ m ∈ w.ledger.queue, Harmless m.payload.text.toList := by
  have escapes : ∀ value, '\n' ∉ (Tcp.readingCodec.dumps value).toList := by
    intro value
    simp only [Tcp.readingCodec]
    split <;> decide
  have exec : ∃ w, Run (uplink .shipped Tcp.readingCodec 50 0) injected w ∧
      w.ledger.queue.map (fun m => m.payload.text) = ["\x7b\"n\": 1\x7d"] :=
    ⟨_, run_iff_exec.mpr rfl, rfl⟩
  obtain ⟨w, run, queue⟩ := exec
  have bounded := @reads_bounded .shipped Tcp.readingCodec 50 0 (by decide) escapes .shipped
  exact ⟨w, run, queue, (bounded.2.2 _ w run).2⟩

end EdgeGateway
