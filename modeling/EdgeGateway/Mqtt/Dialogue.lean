import EdgeGateway.Lib.Prog
import EdgeGateway.Mqtt.Publisher
import EdgeGateway.Mqtt.Result

/-!
The exchanges of the publisher with the modem.

In `EdgeGateway.Mqtt.Publisher`, `_connect`, `_publish` and `_cleanup` are awaits that
return or raise. Here they are programs, whose operations are the calls of the modem's
methods, each of them an await, and the files that are read in between.
`Await.talk` says which program stands behind which await.
-/

namespace EdgeGateway.Mqtt

open EdgeGateway.Lib EdgeGateway.Modem

/-- The settings of `config.py` for the broker and its certificates. -/
structure Broker where
  host : String
  port : Nat
  keepaliveSeconds : Nat
  caFile : String
  certFile : String
  keyFile : String
  commandTimeoutMs : Nat

/-- The values of `config.example.py`. -/
def Broker.shipped : Broker where
  host := "YOUR_AWS_IOT_ENDPOINT-ats.iot.REGION.amazonaws.com"
  port := 8883
  keepaliveSeconds := 60
  caFile := "certs/AmazonRootCA1.pem"
  certFile := "certs/device.pem.crt"
  keyFile := "certs/private.pem.key"
  commandTimeoutMs := 3000

inductive Exchange where
  /-- `await self.modem.command(line, timeout_ms, allow_error)` -/
  | command (line : String) (timeoutMs : Nat) (allowError : Bool)
  /-- `await self.modem.command_until(line, marker, timeout_ms)` -/
  | commandUntil (line marker : String) (timeoutMs : Nat)
  /-- `await self.modem.prompt_upload(line, data, timeout_ms)`; a text is encoded -/
  | promptUpload (line : String) (data : Bytes) (timeoutMs : Nat)
  /-- the contents of a local file -/
  | readFile (path : String)
deriving DecidableEq, Repr

abbrev Exchange.Answer : Exchange → Type
  | .command _ _ _ => Except PyError Text
  | .commandUntil _ _ _ => Except PyError Text
  | .promptUpload _ _ _ => Except PyError Text
  | .readFile _ => Except PyError Bytes

/-- A coroutine of the manager. -/
abbrev Talk := ExceptT PyError (Prog Exchange Exchange.Answer)

def perform (exchange : Exchange) : Prog Exchange Exchange.Answer exchange.Answer :=
  Prog.ask exchange

def command (line : String) (timeoutMs : Nat) (allowError : Bool) : Talk Text :=
  ExceptT.mk (perform (.command line timeoutMs allowError))

/-- `command_until` and then `_require_result`, on one marker. -/
def commandResult (line marker : String) (timeoutMs : Nat) : Talk Unit := do
  let response : Text ← ExceptT.mk (perform (.commandUntil line marker timeoutMs))
  ExceptT.mk (pure (requireResult response marker.toList))

def promptUpload (line : String) (data : Bytes) (timeoutMs : Nat) : Talk Text :=
  ExceptT.mk (perform (.promptUpload line data timeoutMs))

def readFile (path : String) : Talk Bytes := ExceptT.mk (perform (.readFile path))

/-- `text.encode("utf-8")`. -/
def encoded (text : String) : Bytes := Utf8.encode text.toList

/-! ### `_provision_certificates` -/

section Programs

variable (cfg : Config) (broker : Broker)

/-- `files`, the remote names with the local paths. -/
def certificateFiles : List (String × String) :=
  [("aws-root.pem", broker.caFile), ("aws-device.pem", broker.certFile),
    ("aws-key.pem", broker.keyFile)]

/-- The loop over the files. -/
def installMissing (listed : Text) : List (String × String) → Talk Unit
  | [] => pure ()
  | (remoteName, localPath) :: files => do
      if contains remoteName.toList listed then installMissing listed files
      else
        let data : Bytes ← readFile localPath
        if data = [] ∨ 10240 < data.length then
          throw (.osError ("invalid certificate file " ++ localPath))
        else
          let _ ← promptUpload
            ("AT+CCERTDOWN=\"" ++ remoteName ++ "\"," ++ toString data.length) data 120000
          installMissing listed files

def provisionCertificates : Talk Unit := do
  let listed ← command "AT+CCERTLIST" 10000 true
  installMissing listed (certificateFiles broker)

/-! ### `_cleanup` -/

/-- One pass of the loop: what the command raises is dropped. -/
def attempt (line : String) : Talk Unit :=
  tryCatch (do let _ ← command line 5000 true) fun _ => pure ()

def cleanup : Talk Unit := do
  attempt "AT+CMQTTDISC=0,30"
  attempt "AT+CMQTTREL=0"
  attempt "AT+CMQTTSTOP"

/-! ### `_connect` -/

/-- The settings of mutual TLS. -/
def tlsLines : List String :=
  ["AT+CSSLCFG=\"sslversion\",0,3", "AT+CSSLCFG=\"authmode\",0,2",
    "AT+CSSLCFG=\"cacert\",0,\"aws-root.pem\"", "AT+CSSLCFG=\"clientcert\",0,\"aws-device.pem\"",
    "AT+CSSLCFG=\"clientkey\",0,\"aws-key.pem\"", "AT+CSSLCFG=\"enableSNI\",0,1"]

/-- `command`, with its defaults. -/
def plainCommand (line : String) : Talk Unit := do
  let _ ← command line broker.commandTimeoutMs false

def plainCommands : List String → Talk Unit
  | [] => pure ()
  | line :: lines => do
      plainCommand broker line
      plainCommands lines

/-- `_connect` while `state` is `PROVISIONING`. -/
def provision : Talk Unit := do
  provisionCertificates broker
  cleanup
  plainCommands broker tlsLines
  commandResult "AT+CMQTTSTART" "+CMQTTSTART:" 30000
  plainCommand broker ("AT+CMQTTACCQ=0,\"" ++ cfg.clientId ++ "\",1")
  plainCommand broker "AT+CMQTTSSLCFG=0,0"

/-- `_connect` while `state` is `CONNECTING`. -/
def openSession : Talk Unit := do
  commandResult ("AT+CMQTTCONNECT=0,\"tcp://" ++ broker.host ++ ":" ++ toString broker.port ++
    "\"," ++ toString broker.keepaliveSeconds ++ ",1") "+CMQTTCONNECT:" 90000
  let _ ← promptUpload
    ("AT+CMQTTSUBTOPIC=0," ++ toString (encoded cfg.commandTopic).length ++ ",1")
    (encoded cfg.commandTopic) 10000
  commandResult "AT+CMQTTSUB=0" "+CMQTTSUB:" 30000

/-! ### `_publish` -/

def publish (topic payload : String) : Talk Unit := do
  let _ ← promptUpload ("AT+CMQTTTOPIC=0," ++ toString (encoded topic).length) (encoded topic) 10000
  let _ ← promptUpload ("AT+CMQTTPAYLOAD=0," ++ toString (encoded payload).length)
    (encoded payload) 30000
  commandResult "AT+CMQTTPUB=0,1,60" "+CMQTTPUB:" 70000

/-! ### Behind an await -/

/-- What the task performs while it is suspended so. -/
def Await.talk {α : Type} (text : α → String) :
    Await α → Prog Exchange Exchange.Answer (Except PyError Unit)
  | .provisioning => (provision cfg broker).run
  | .connecting => (openSession cfg broker).run
  | .publish entry => (Mqtt.publish entry.topic (text entry.payload)).run
  | .cleanup => Mqtt.cleanup.run
  | .notStarted | .lteSleep | .readEvent | .idleSleep | .backoff => pure (.ok ())

end Programs

end EdgeGateway.Mqtt
