import EdgeGateway.Mqtt.Queue

/-!
Inbound commands: `_event_value`, `_parse_event` and `_handle_event`.

The codec `json` of the runtime and the readings a status reply quotes (clock,
heap, modem) are parameters. A handled command changes two counters and offers
one reply to the queue; `reply` is everything up to that offer.
-/

namespace EdgeGateway.Mqtt

open EdgeGateway.Lib

/-! ### Decoding an event block -/

/-- `_event_value`: the text of the reported length after the marker's line. -/
def eventValue (text marker : Text) : Option Text :=
  match find? marker text with
  | none => none
  | some position =>
      match findFrom? ['\n'] position text with
      | none => none
      | some lineEnd =>
          match (lastField ',' ((text.take lineEnd).drop position)).bind intOf with
          | none => none
          | some length => some (slice (lineEnd + 1) (lineEnd + 1 + length) text)

/-- `_parse_event`: topic and payload of a `+CMQTTRXSTART...RXEND` block. -/
def parseEvent (event : Text) : Option Text × Option Text :=
  let text := dropCR event
  (eventValue text "+CMQTTRXTOPIC:".toList, eventValue text "+CMQTTRXPAYLOAD:".toList)

/-! ### Answering a command -/

/-- `ujson.loads` and `ujson.dumps`. -/
structure Codec where
  loads : Text → Except PyError Json
  dumps : Json → String

/-- A runtime that decodes no text. -/
def idleCodec : Codec := ⟨fun _ => .error (.valueError "syntax error in JSON"), fun _ => "{}"⟩

/-- What a status reply quotes besides the manager's own state. -/
structure Readings where
  isoTime : String
  uptimeSeconds : Int
  memFree : Nat
  registration : String
  signalDbm : Option Int
  mobileIp : Option String
deriving Repr

variable {α : Type}

def rejection (now : Readings) (requestId : Json) (error : String) : Json :=
  .dict [("status", .str "REJECTED"), ("request_id", requestId), ("error", .str error),
    ("timestamp", .str now.isoTime)]

def statusReport (cfg : Config) (now : Readings) (m : MQTTManager α) (requestId : Json) : Json :=
  .dict [("status", .str "OK"), ("command", .str "get_status"), ("request_id", requestId),
    ("gateway_id", .str cfg.clientId), ("timestamp", .str now.isoTime),
    ("uptime_seconds", .int now.uptimeSeconds), ("free_memory_bytes", .int now.memFree),
    ("lte_registration", .str now.registration),
    ("lte_signal_dbm", (now.signalDbm.map Json.int).getD .null),
    ("lte_mobile_ip", (now.mobileIp.map Json.str).getD .null),
    ("mqtt_published", .int m.published), ("mqtt_queue_depth", .int m.queue.length)]

/-- `request.get("command") != "get_status"`, negated. -/
def isGetStatus : Json → Bool
  | .str name => name = "get_status"
  | _ => false

/-- The response to a command payload, and whether it counts as rejected. -/
def respond (cfg : Config) (codec : Codec) (now : Readings) (m : MQTTManager α) (payload : Text) :
    Json × Bool :=
  match codec.loads payload with
  | .ok (.dict request) =>
      let requestId := Dict.get request "request_id" .null
      if isGetStatus (Dict.get request "command" .null) then
        (statusReport cfg now m requestId, false)
      else
        (rejection now requestId "command not allowed", true)
  | .ok _ => (rejection now .null "command must be an object", true)
  | .error exc => (rejection now .null exc.text, true)

/-- `_handle_event` up to its last line: the counters, and the reply to queue. -/
def MQTTManager.reply (cfg : Config) (codec : Codec) (now : Readings) (m : MQTTManager α)
    (event : Text) : Option (MQTTManager α × String) :=
  match parseEvent event with
  | (some topic, some payload) =>
      if topic = cfg.commandTopic.toList then
        let m := { m with commandsReceived := m.commandsReceived + 1 }
        let (response, rejected) := respond cfg codec now m payload
        some ({ m with commandsRejected := m.commandsRejected + if rejected then 1 else 0 },
          codec.dumps response)
      else none
  | _ => none

/-- `_handle_event`. The queued payload is the reply's text as `wrap` stores it. -/
def MQTTManager.handleEvent (cfg : Config) (codec : Codec) (now : Readings) (wrap : String → α)
    (m : MQTTManager α) (event : Text) : MQTTManager α :=
  match m.reply cfg codec now event with
  | none => m
  | some (m, text) => (m.enqueuePriority cfg cfg.responseTopic (wrap text)).1

/-- A reply touches the command counters only. -/
theorem reply_eq {cfg : Config} {codec : Codec} {now : Readings} {m m' : MQTTManager α}
    {event : Text} {text : String} (hit : m.reply cfg codec now event = some (m', text)) :
    ∃ received rejected,
      m' = { m with commandsReceived := received, commandsRejected := rejected } := by
  unfold MQTTManager.reply at hit
  split at hit
  · split at hit
    · obtain ⟨same, -⟩ := Prod.mk.inj (Option.some.inj hit)
      exact ⟨_, _, same.symm⟩
    · cases hit
  · cases hit

end EdgeGateway.Mqtt
