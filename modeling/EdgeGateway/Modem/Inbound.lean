import EdgeGateway.Modem.Port
import EdgeGateway.Mqtt.Event

/-!
What becomes of the commands the cloud sends.

A block that one call of `read_mqtt_event` reads from end to end, before any
other, is passed to `_handle_event` once and decoded exactly
(`block_passed_once`). A block that an AT exchange drains or swallows is lost,
and so is one behind the first of a call (`blocks_lost`).
-/

namespace EdgeGateway.Modem

open EdgeGateway.Lib EdgeGateway.Mqtt

def blockBytes (b : Block) : Bytes := Utf8.encode b.text

/-- A block is found in any stream. -/
theorem decodeIgnore_block (before : Bytes) (b : Block) (after : Bytes) :
    Utf8.decodeIgnore (before ++ blockBytes b ++ after) =
      Utf8.decodeIgnore before ++ b.text ++ Utf8.decodeIgnore after := by
  obtain ⟨rest, shape⟩ : ∃ rest, b.text = '\r' :: rest := ⟨_, rfl⟩
  rw [blockBytes, shape]
  exact Utf8.decodeIgnore_middle (by decide) before rest after

/-- A block ends the loop of `read_mqtt_event`. -/
theorem endsEvent_block (before : Text) (b : Block) (after : Text) :
    endsEvent (before ++ b.text ++ after) = true := by
  have inside : ∀ marker, marker <:+: b.text → contains marker (before ++ b.text ++ after) = true :=
    fun marker occurs => contains_iff.mpr (occurs.trans ⟨before, after, rfl⟩)
  have start : "+CMQTTRXSTART:".toList <:+: b.text := by
    have split : b.text = crlf ++ "+CMQTTRXSTART:".toList ++ (b.text.drop 16) := by
      simp only [Block.text, markerLine, List.append_assoc]
      rfl
    exact ⟨_, _, split.symm⟩
  have last : "+CMQTTRXEND:".toList <:+: b.text := by
    have head : "+CMQTTRXEND:".toList <:+: "+CMQTTRXEND: 0".toList := by decide
    exact head.trans ⟨_, crlf, rfl⟩
  rw [endsEvent, inside _ start, inside _ last]
  rfl

/-- **A block that one call of `read_mqtt_event` reads from end to end, with no
other begun before it, is passed on exactly once: its bytes went to that call
alone, and the call passed on one event, which decodes to the block.** -/
theorem block_passed_once {is : List Input} {p : Port} (run : Run port is p)
    {before after : List Exchange} {call : Exchange} (log : p.log = before ++ call :: after)
    (polls : call.op = .readEvent) {noise tail : Bytes} {block : Block}
    (read : call.taken = noise ++ blockBytes block ++ tail)
    (quiet : Quiet (Utf8.decodeIgnore noise)) :
    ∃ event, parseEvent event = (some block.topic, some block.payload) ∧
      p.handled = before.filterMap Exchange.passed ++ event :: after.filterMap Exchange.passed ∧
      is.flatMap Input.bytes = before.flatMap Exchange.bytes ++ noise ++ blockBytes block ++
        (tail ++ after.flatMap Exchange.bytes ++ p.pending) := by
  have sound := sound_of_run run
  obtain ⟨undrained, passed⟩ := sound.calls call (by simp [log]) polls
  rw [eventIn, read, decodeIgnore_block] at passed
  rw [if_pos (endsEvent_block _ block _)] at passed
  refine ⟨_, parseEvent_block quiet block (Utf8.decodeIgnore tail), ?_, ?_⟩
  · rw [sound.handled, log, List.filterMap_append, List.filterMap_cons, passed]
  · rw [bytes_conserved run, log, List.flatMap_append, List.flatMap_cons, Exchange.bytes, undrained,
      read]
    simp only [List.append_assoc, List.nil_append]

/-! ### Runs -/

def getStatus : Block where
  topic := "cmd/gw-01/request".toList
  payload := "\x7b\"command\":\"get_status\"\x7d".toList
  topicPlain := by decide
  payloadPlain := by decide

def restart : Block where
  topic := "cmd/gw-01/request".toList
  payload := "\x7b\"command\":\"restart\"\x7d".toList
  topicPlain := by decide
  payloadPlain := by decide

/-- The block arrives in two parts during one call. -/
def polled : List Input :=
  [.connected true, .start .readEvent, .arrive ((blockBytes getStatus).take 40), .poll,
    .arrive ((blockBytes getStatus).drop 40), .poll]

set_option maxRecDepth 4000 in
theorem block_passed_once_polled :
    ∃ p, Run port polled p ∧ ∃ event,
      parseEvent event = (some getStatus.topic, some getStatus.payload) ∧ p.handled = [event] := by
  have exec : ∃ p call, Run port polled p ∧ p.log = [] ++ call :: [] ∧ call.op = .readEvent ∧
      call.taken = [] ++ blockBytes getStatus ++ [] := by
    refine ⟨_, _, run_iff_exec.mpr rfl, rfl, rfl, rfl⟩
  obtain ⟨p, call, run, log, polls, read⟩ := exec
  obtain ⟨event, parsed, handled, -⟩ := block_passed_once run log polls read Quiet.nil
  exact ⟨p, run, event, parsed, handled⟩

/-- The block arrives while no operation has the lock, and the next one is a health poll. -/
def drained : List Input :=
  [.connected true, .arrive (blockBytes getStatus), .start (.command "ATI" false),
    .arrive (Utf8.encode "ATI\r\nA7670\r\nOK\r\n".toList), .poll]

/-- Two blocks arrive before the first poll of a call. -/
def doubled : List Input :=
  [.connected true, .start .readEvent, .arrive (blockBytes getStatus ++ blockBytes restart), .poll]

set_option maxRecDepth 4000 in
/-- Blocks delivered while the MQTT loop is connected, of which nothing is left:
the first was never passed on, the second is behind the one that was decoded. -/
theorem blocks_lost :
    (∃ p, Run port drained p ∧ p.connected = true ∧ p.uart.rx = [] ∧ p.busy.isNone = true ∧
        p.handled = []) ∧
      ∃ p event, Run port doubled p ∧ p.connected = true ∧ p.uart.rx = [] ∧ p.busy.isNone = true ∧
        p.handled = [event] ∧ parseEvent event =
          (some getStatus.topic, some getStatus.payload) := by
  refine ⟨⟨_, run_iff_exec.mpr rfl, rfl, rfl, rfl, rfl⟩, ?_⟩
  refine ⟨_, _, run_iff_exec.mpr rfl, rfl, rfl, rfl, rfl, ?_⟩
  decide

end EdgeGateway.Modem
