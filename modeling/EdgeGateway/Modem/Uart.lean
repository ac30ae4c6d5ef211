import EdgeGateway.Json
import EdgeGateway.Lib.Utf8

/-!
The UART and the four reading loops of `ModemManager`.

Each loop polls the UART, appends what it read to its response, and decides on
the whole decoded response: `feedCommand` is one poll of `_command_unlocked`,
`feedUntil` of `_read_until`, `feedEvent` of `read_mqtt_event` and `feedPing` of
`test_internet`. A poll that reads nothing changes nothing.

`commandUntil` runs `_read_until` over the bytes that arrive before each of its
polls; the polls end with the deadline. Its texts are the prefixes of one stream
(`texts_prefix`), and it returns the first that holds the marker
(`readUntil_eq`).
-/

namespace EdgeGateway.Modem

open EdgeGateway.Lib

/-! ### The UART -/

/-- Bytes received and not read yet, and bytes written. -/
structure Uart where
  rx : Bytes
  tx : Bytes
deriving DecidableEq, Repr

def Uart.receive (uart : Uart) (bytes : Bytes) : Uart := { uart with rx := uart.rx ++ bytes }

/-- `uart.write`. -/
def Uart.write (uart : Uart) (bytes : Bytes) : Uart := { uart with tx := uart.tx ++ bytes }

/-- `_drain_uart`. -/
def Uart.drain (uart : Uart) : Uart := { uart with rx := [] }

/-- `uart.read()`, with nothing read when `any()` is false. -/
def Uart.read (uart : Uart) : Bytes × Uart := (uart.rx, { uart with rx := [] })

/-! ### One poll -/

/-- What a loop does after a poll. -/
inductive Progress where
  | more (response : Bytes)
  | returned (text : Text)
  | raised (exc : PyError)
deriving DecidableEq, Repr

/-- `"\r\nERROR\r\n" in text or "+CME ERROR:" in text`. -/
def errorText (text : Text) : Bool :=
  contains "\r\nERROR\r\n".toList text || contains "+CME ERROR:".toList text

theorem errorText_mono {xs ys : Text} (sub : xs <+: ys) (error : errorText xs = true) :
    errorText ys = true := by
  simp only [errorText, Bool.or_eq_true, contains_iff] at error ⊢
  exact error.imp (·.trans sub.isInfix) (·.trans sub.isInfix)

/-- One poll of `_command_unlocked`. -/
def feedCommand (command : String) (allowError : Bool) (response chunk : Bytes) : Progress :=
  if chunk = [] then .more response
  else
    let text := Utf8.decodeIgnore (response ++ chunk)
    if contains "\r\nOK\r\n".toList text then .returned text
    else if errorText text then
      if allowError then .returned text else .raised (.osError (command ++ " returned ERROR"))
    else .more (response ++ chunk)

/-- One poll of `_read_until`. -/
def feedUntil (marker : Text) (response chunk : Bytes) : Progress :=
  if chunk = [] then .more response
  else
    let text := Utf8.decodeIgnore (response ++ chunk)
    if contains marker text then .returned text
    else if errorText text then .raised (.osError "modem returned ERROR")
    else .more (response ++ chunk)

/-- One poll of `read_mqtt_event`. The response only grows, so `started` is
whether it holds the start marker. -/
def feedEvent (response chunk : Bytes) : Progress :=
  if chunk = [] then .more response
  else
    let text := Utf8.decodeIgnore (response ++ chunk)
    if contains "+CMQTTRXSTART:".toList text && contains "+CMQTTRXEND:".toList text then
      .returned text
    else .more (response ++ chunk)

/-- One poll of the ping loop of `test_internet`, which breaks rather than returns. -/
def feedPing (response chunk : Bytes) : Progress :=
  if chunk = [] then .more response
  else
    let text := Utf8.decodeIgnore (response ++ chunk)
    if contains "+CPING: 3,".toList text || contains "\r\nERROR\r\n".toList text then .returned text
    else .more (response ++ chunk)

/-! ### `_read_until` and `command_until` -/

/-- `_read_until`, with the bytes that arrive before each poll. -/
def readUntil (marker : Text) (uart : Uart) (response : Bytes) :
    List Bytes → Except PyError Text × Uart
  | [] => (.error (.osError ("modem response timeout waiting for " ++ String.ofList marker)), uart)
  | arrival :: later =>
      let (chunk, uart) := (uart.receive arrival).read
      match feedUntil marker response chunk with
      | .returned text => (.ok text, uart)
      | .raised exc => (.error exc, uart)
      | .more response => readUntil marker uart response later

/-- `command_until`, with the bytes that arrive before each poll. -/
def commandUntil (uart : Uart) (command : String) (marker : Text) (arrivals : List Bytes) :
    Except PyError Text × Uart :=
  readUntil marker (uart.drain.write (Utf8.encode (command ++ "\r\n").toList)) [] arrivals

/-! ### What `_read_until` returns -/

/-- The decoded response after each poll. -/
def texts : Bytes → List Bytes → List Text
  | _, [] => []
  | response, arrival :: later =>
      Utf8.decodeIgnore (response ++ arrival) :: texts (response ++ arrival) later

theorem texts_prefix {response : Bytes} {arrivals : List Bytes} {text : Text}
    (mem : text ∈ texts response arrivals) :
    text <+: Utf8.decodeIgnore (response ++ arrivals.flatten) := by
  induction arrivals generalizing response with
  | nil => cases mem
  | cons arrival later ih =>
      rw [List.flatten_cons, ← List.append_assoc]
      rcases List.mem_cons.mp mem with rfl | mem
      · exact Utf8.decodeIgnore_prefix (List.prefix_append _ _)
      · exact ih mem

/-- The last of the texts is the whole one. -/
theorem whole_mem_texts {response : Bytes} {arrivals : List Bytes} (nonempty : arrivals ≠ []) :
    Utf8.decodeIgnore (response ++ arrivals.flatten) ∈ texts response arrivals := by
  induction arrivals generalizing response with
  | nil => exact absurd rfl nonempty
  | cons arrival later ih =>
      rw [List.flatten_cons, ← List.append_assoc]
      cases later with
      | nil => simp [texts]
      | cons next later => exact List.mem_cons_of_mem _ (ih (by simp))

/-- **Without an error text, `_read_until` returns the first text with the marker.** -/
theorem readUntil_eq {marker : Text} {uart : Uart} {response : Bytes} {arrivals : List Bytes}
    {text : Text} (empty : uart.rx = [])
    (unmarked : contains marker (Utf8.decodeIgnore response) = false)
    (quiet : errorText (Utf8.decodeIgnore (response ++ arrivals.flatten)) = false)
    (first : (texts response arrivals).find? (contains marker) = some text) :
    (readUntil marker uart response arrivals).1 = .ok text := by
  induction arrivals generalizing uart response with
  | nil => cases first
  | cons arrival later ih =>
      rw [List.flatten_cons, ← List.append_assoc] at quiet
      simp only [readUntil, Uart.receive, Uart.read, empty, List.nil_append]
      cases arrival with
      | nil =>
          rw [List.append_nil] at quiet
          simp only [texts, List.append_nil, List.find?_cons, unmarked] at first
          exact ih rfl unmarked quiet first
      | cons b bs =>
          simp only [feedUntil, reduceCtorEq, if_false]
          cases marked : contains marker (Utf8.decodeIgnore (response ++ b :: bs)) with
          | true =>
              simp only [texts, List.find?_cons, marked] at first
              simpa using first
          | false =>
              have calm : errorText (Utf8.decodeIgnore (response ++ b :: bs)) = false := by
                by_contra error
                have error := errorText_mono
                  (Utf8.decodeIgnore_prefix (List.prefix_append _ later.flatten))
                  (by simpa using error)
                rw [quiet] at error
                cases error
              simp only [texts, List.find?_cons, marked] at first
              simp only [calm, Bool.false_eq_true, if_false]
              exact ih rfl marked quiet first

end EdgeGateway.Modem
