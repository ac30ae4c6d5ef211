import Mathlib.Algebra.Ring.Int.Defs
import EdgeGateway.Json
import EdgeGateway.Lib.Ticks

/-!
What `ModemManager` knows of the modem, and how it reads the answers.

Each field has the parser the source has for it; a text that does not parse
leaves a default and raises nothing.
-/

namespace EdgeGateway.Modem

open EdgeGateway.Lib

/-! ### Parsing -/

/-- `text.replace("\r", "").split("\n")`. -/
def linesOf (text : Text) : List Text := (dropCR text).splitOn '\n'

/-- `_after_colon`. Every prefix it is called with holds a colon. -/
def afterColon (response : Text) (lead : String) : Text :=
  match (linesOf response).find? fun line => lead.toList.isPrefixOf line with
  | some line => strip ((afterFirst ':' line).getD [])
  | none => "UNKNOWN".toList

/-- `_operator`. -/
def operatorOf (response : Text) : Text :=
  match afterFirst '"' response with
  | some rest => rest.takeWhile (· ≠ '"')
  | none => "UNKNOWN".toList

/-- `_identity`. -/
def identityOf (response : Text) : Text :=
  let ignored : List Text := ["ATI".toList, "OK".toList, []]
  match (linesOf response).find? fun line => strip line ∉ ignored with
  | some line => strip line
  | none => "A7670".toList

/-- `_ip_address`. -/
def ipAddress (response : Text) : Option Text :=
  let value := afterColon response "+CGPADDR:"
  match (value.filter (· ≠ '"')).splitOn ',' with
  | _ :: part :: _ => if strip part = [] then none else some (strip part)
  | _ => none

inductive Registration where
  | registered
  | notRegistered
deriving DecidableEq, Repr

/-- The second field of `+CEREG: <n>,<stat>`, or the only one. -/
def registrationOf (response : Text) : Registration :=
  let fields := (afterColon response "+CEREG:").splitOn ','
  let status := intOf (match fields with
    | _ :: stat :: _ => stat
    | [stat] => stat
    | [] => [])
  if status = some 1 ∨ status = some 5 then .registered else .notRegistered

/-- `csq` and `dbm` of `_set_signal`. -/
def signalOf (value : Text) : Option Int × Option Int :=
  match intOf (value.takeWhile (· ≠ ',')) with
  | some csq => (some csq, if csq = 99 then none else some (2 * csq - 113))
  | none => (none, none)

/-- The round trips of `test_internet`. -/
def latencies (response : Text) : List Int :=
  (linesOf response).filterMap fun line =>
    if "+CPING: 1,".toList.isPrefixOf line then
      match line.splitOn ',' with
      | _ :: _ :: _ :: time :: _ => intOf time
      | _ => none
    else none

/-! ### The manager -/

/-- The settings of `config.py` that the monitor reads. -/
structure Config where
  startupTimeoutSeconds : Nat
  internetTestIntervalSeconds : Nat
deriving DecidableEq, Repr

/-- The values of `config.example.py`. -/
def Config.shipped : Config where
  startupTimeoutSeconds := 20
  internetTestIntervalSeconds := 1800

/-- What the clock shows during a stretch. -/
structure Clock where
  ticks : Nat
  /-- `_clock_text` -/
  text : String
deriving DecidableEq, Repr

/-- The attributes of a `ModemManager`, but for the hardware, the lock and what
only decides whether something is logged. -/
structure ModemManager where
  running : Bool
  responding : Bool
  simStatus : Text
  operator : Text
  registration : Registration
  signalCsq : Option Int
  signalDbm : Option Int
  dataAttached : Bool
  dataActive : Bool
  mobileIp : Option Text
  model : Text
  lastCheck : String
  lastError : Option String
  reconnectCount : Nat
  internetOk : Bool
  pingLatencyMs : Option Int
  lastInternetTest : String
  internetTestFailures : Nat
  lastTestTicks : Option Nat
  pdpConfigured : Bool
deriving DecidableEq, Repr

/-- `__init__`. -/
def ModemManager.init : ModemManager where
  running := false
  responding := false
  simStatus := "UNKNOWN".toList
  operator := "UNKNOWN".toList
  registration := .notRegistered
  signalCsq := none
  signalDbm := none
  dataAttached := false
  dataActive := false
  mobileIp := none
  model := "A7670".toList
  lastCheck := "Never"
  lastError := none
  reconnectCount := 0
  internetOk := false
  pingLatencyMs := none
  lastInternetTest := "Never"
  internetTestFailures := 0
  lastTestTicks := none
  pdpConfigured := false

/-- `_record_error`. -/
def ModemManager.recordError (exc : PyError) (m : ModemManager) : ModemManager :=
  { m with lastError := some exc.text }

def ModemManager.setSignal (value : Text) (m : ModemManager) : ModemManager :=
  { m with signalCsq := (signalOf value).1, signalDbm := (signalOf value).2 }

/-- The failed outcome of `test_internet`. -/
def ModemManager.testFailed (m : ModemManager) : ModemManager :=
  { m with
    internetOk := false
    pingLatencyMs := none
    internetTestFailures := m.internetTestFailures + 1 }

/-- `test_internet`, with the text of the exchange. -/
def ModemManager.tested (response : Text) (m : ModemManager) : ModemManager :=
  match latencies response with
  | [] => m.testFailed
  | times => { m with internetOk := true, pingLatencyMs := some (times.sum / times.length) }

end EdgeGateway.Modem
