import EdgeGateway.Lib.Utf8
import EdgeGateway.Mqtt.Command

/-!
The event blocks of the modem, and what `_parse_event` finds in them.

A block announces the sizes of its topic and its payload, and `_event_value`
slices by them. The first block of a text is decoded exactly, whatever the
payload's lines look like and whatever follows the block (`parseEvent_block`).

The sizes count bytes, and the slices count the characters that are left without
carriage returns. So a message comes through exactly when all of its characters
are single bytes other than the carriage return (`event_decoded_iff`); of any
other the value runs on into the block (`multi_line_command_garbled`).
-/

namespace EdgeGateway.Mqtt

open EdgeGateway.Lib

/-- `+CMQTTRX`, with which the markers of a block begin. -/
def rxMarker : Text := "+CMQTTRX".toList

/-- ASCII text without carriage returns and without a marker. -/
structure Plain (text : Text) : Prop where
  ascii : ∀ c ∈ text, c.toNat < 0x80
  noReturn : '\r' ∉ text
  unmarked : ¬ rxMarker <:+: text

instance (text : Text) : Decidable (Plain text) :=
  decidable_of_iff (text.all (fun c => decide (c.toNat < 0x80)) = true ∧ '\r' ∉ text ∧
      ¬ rxMarker <:+: text)
    ⟨fun ⟨ascii, noReturn, unmarked⟩ =>
        ⟨fun c mem => of_decide_eq_true (List.all_eq_true.mp ascii c mem), noReturn, unmarked⟩,
      fun plain => ⟨List.all_eq_true.mpr fun c mem => decide_eq_true (plain.ascii c mem),
        plain.noReturn, plain.unmarked⟩⟩

/-- A received message, as the modem reports it. -/
structure Block where
  topic : Text
  payload : Text
  topicPlain : Plain topic
  payloadPlain : Plain payload

/-- The size the modem reports, in bytes. -/
def sizeText (value : Text) : Text := Nat.toDigits 10 (Utf8.encode value).length

def crlf : Text := ['\r', '\n']

/-- A line of a block: the marker, the client index and sizes. -/
def markerLine (marker : Text) (sizes : Text) : Text := marker ++ " 0,".toList ++ sizes

/-- The block on the UART. -/
def Block.text (b : Block) : Text :=
  crlf ++ markerLine "+CMQTTRXSTART:".toList (sizeText b.topic ++ ',' :: sizeText b.payload) ++
    crlf ++ markerLine "+CMQTTRXTOPIC:".toList (sizeText b.topic) ++
    crlf ++ b.topic ++
    crlf ++ markerLine "+CMQTTRXPAYLOAD:".toList (sizeText b.payload) ++
    crlf ++ b.payload ++
    crlf ++ "+CMQTTRXEND: 0".toList ++ crlf

/-! ### A value behind its size -/

theorem sizeText_digits {value : Text} : ∀ c ∈ sizeText value, c.isDigit = true := fun _ mem =>
  Nat.isDigit_of_mem_toDigits (by decide) (by decide) mem

/-- A size has no character that is not a digit. -/
theorem not_mem_sizeText {value : Text} {c : Char} (other : c.isDigit = false) :
    c ∉ sizeText value := fun mem => by
  rw [sizeText_digits c mem] at other
  cases other

/-- `_event_value` takes the line at the marker, and slices by its last field. -/
theorem eventValue_at {marker front line rest : Text} {size : Nat}
    (found : find? marker (front ++ (line ++ '\n' :: rest)) = some front.length)
    (noBreak : '\n' ∉ line) (sized : (lastField ',' line).bind intOf = some (size : Int)) :
    eventValue (front ++ (line ++ '\n' :: rest)) marker = some (rest.take size) := by
  have lineEnd : findFrom? ['\n'] front.length (front ++ (line ++ '\n' :: rest)) =
      some (line.length + front.length) := by
    rw [findFrom?, List.drop_left, find?_char noBreak]
    rfl
  have cut : ((front ++ (line ++ '\n' :: rest)).take (line.length + front.length)).drop
      front.length = line := by
    rw [Nat.add_comm, ← List.length_append, ← List.append_assoc, List.take_left, List.drop_left]
  have start : (front ++ (line ++ ['\n'])).length = line.length + front.length + 1 := by
    simp only [List.length_append, List.length_singleton]
    omega
  have sliced := slice_take (front ++ (line ++ ['\n'])) rest size
  rw [start, List.append_assoc, List.append_assoc, List.singleton_append] at sliced
  unfold eventValue
  rw [found]
  dsimp only
  rw [lineEnd]
  dsimp only
  rw [cut, sized]
  dsimp only
  push_cast at sliced ⊢
  rw [sliced]

/-- The first line with the marker announces how much of what follows is taken. -/
theorem eventValue_line {marker ahead : Text} (oneLine : '\n' ∉ marker) (ne : marker ≠ [])
    (absent : ¬ marker <:+: ahead) (value rest : Text) :
    eventValue (ahead ++ '\n' :: (markerLine marker (sizeText value) ++ '\n' :: rest)) marker =
      some (rest.take (Utf8.encode value).length) := by
  have found := find?_line oneLine ne absent (" 0,".toList ++ sizeText value ++ '\n' :: rest)
  have shape : ahead ++ '\n' :: (markerLine marker (sizeText value) ++ '\n' :: rest) =
      (ahead ++ ['\n']) ++ (markerLine marker (sizeText value) ++ '\n' :: rest) := by simp
  have line :
      markerLine marker (sizeText value) = (marker ++ " 0".toList) ++ ',' :: sizeText value := by
    simp [markerLine]
  rw [shape]
  apply eventValue_at
  · simpa [markerLine] using found
  · have other : '\n' ∉ sizeText value := not_mem_sizeText (by decide)
    simp [markerLine, oneLine, other]
  · rw [line, lastField_append (not_mem_sizeText (by decide)), Option.bind_some, sizeText,
      intOf_toDigits]

/-! ### The lines of a block -/

/-- A received message as the modem writes it. -/
def eventText (topic payload : Text) : Text :=
  markerLine "+CMQTTRXSTART:".toList (sizeText topic ++ ',' :: sizeText payload) ++
    crlf ++ markerLine "+CMQTTRXTOPIC:".toList (sizeText topic) ++
    crlf ++ topic ++
    crlf ++ markerLine "+CMQTTRXPAYLOAD:".toList (sizeText payload) ++
    crlf ++ payload ++
    crlf ++ "+CMQTTRXEND: 0".toList ++ crlf

theorem Block.text_eq (b : Block) : b.text = crlf ++ eventText b.topic b.payload := by
  simp only [Block.text, eventText, List.append_assoc]

theorem dropCR_sizeText (value : Text) : dropCR (sizeText value) = sizeText value :=
  dropCR_eq_self (not_mem_sizeText (by decide))

/-- What follows the payload, in the text that `_parse_event` searches. -/
def afterPayload : Text := "\n+CMQTTRXEND: 0\n".toList

/-- The lines of a block in the text that `_parse_event` searches. -/
theorem dropCR_eventText (topic payload : Text) :
    dropCR (eventText topic payload) =
      markerLine "+CMQTTRXSTART:".toList (sizeText topic ++ ',' :: sizeText payload) ++
      '\n' :: (markerLine "+CMQTTRXTOPIC:".toList (sizeText topic) ++
      '\n' :: (dropCR topic ++
      '\n' :: (markerLine "+CMQTTRXPAYLOAD:".toList (sizeText payload) ++
      '\n' :: (dropCR payload ++ afterPayload)))) := by
  have ends : dropCR crlf = ['\n'] := rfl
  have comma : ∀ text, dropCR (',' :: text) = ',' :: dropCR text := fun _ => rfl
  have start : dropCR "+CMQTTRXSTART:".toList = "+CMQTTRXSTART:".toList := rfl
  have topicMark : dropCR "+CMQTTRXTOPIC:".toList = "+CMQTTRXTOPIC:".toList := rfl
  have payloadMark : dropCR "+CMQTTRXPAYLOAD:".toList = "+CMQTTRXPAYLOAD:".toList := rfl
  have index : dropCR " 0,".toList = " 0,".toList := rfl
  have last : dropCR crlf ++ (dropCR "+CMQTTRXEND: 0".toList ++ dropCR crlf) = afterPayload := rfl
  simp only [eventText, markerLine, List.append_assoc, dropCR_append, last]
  simp only [ends, comma, start, topicMark, payloadMark, index, dropCR_sizeText, List.cons_append,
    List.nil_append]

/-- A marker occurs in no line that begins with another one. -/
theorem markerLine_absent {marker other sizes : Text} (plus : '+' ∉ " 0,".toList ++ sizes)
    (once : '+' ∉ other) (apart : ¬ '+' :: marker <+: '+' :: other ∧
      ¬ '+' :: other <+: '+' :: marker) :
    ¬ '+' :: marker <:+: markerLine ('+' :: other) sizes := by
  intro occurs
  have shape : markerLine ('+' :: other) sizes = '+' :: (other ++ (" 0,".toList ++ sizes)) := by
    simp [markerLine]
  rw [shape] at occurs
  have absent : '+' ∉ other ++ (" 0,".toList ++ sizes) := fun mem =>
    (List.mem_append.mp mem).elim once plus
  have front := prefix_of_infix absent occurs
  have whole : '+' :: other <+: '+' :: (other ++ (" 0,".toList ++ sizes)) :=
    List.prefix_append ('+' :: other) _
  exact (List.prefix_or_prefix_of_prefix front whole).elim apart.1 apart.2

/-- The first line of a block. -/
def startLine (topic payload : Text) : Text :=
  markerLine "+CMQTTRXSTART:".toList (sizeText topic ++ ',' :: sizeText payload)

theorem startLine_absent {marker : Text} (topic payload : Text)
    (apart : ¬ '+' :: marker <+: "+CMQTTRXSTART:".toList ∧
      ¬ "+CMQTTRXSTART:".toList <+: '+' :: marker) :
    ¬ '+' :: marker <:+: startLine topic payload := by
  refine markerLine_absent ?_ (by decide) apart
  intro mem
  rcases List.mem_append.mp mem with index | sizes
  · exact absurd index (by decide)
  · rcases List.mem_append.mp sizes with first | second
    · exact not_mem_sizeText (by decide) first
    · rcases List.mem_cons.mp second with comma | second
      · cases comma
      · exact not_mem_sizeText (by decide) second

/-- **What `_parse_event` finds in the first block of a text**: for each value, as
many characters as the modem reported bytes, from its first one on. -/
theorem parseEvent_lines {event front topic payload rest : Text}
    (searched : dropCR event = front ++ (dropCR (eventText topic payload) ++ rest))
    (noTopic : ¬ "+CMQTTRXTOPIC:".toList <:+: front ++ startLine topic payload)
    (noPayload : ¬ "+CMQTTRXPAYLOAD:".toList <:+: front ++ startLine topic payload)
    (unmarked : ¬ rxMarker <:+: dropCR topic) :
    ∃ afterTopic, afterTopic ≠ [] ∧
      parseEvent event =
        (some ((dropCR topic ++ afterTopic).take (Utf8.encode topic).length),
          some ((dropCR payload ++ (afterPayload ++ rest)).take (Utf8.encode payload).length)) := by
  have topicLine : '+' ∉ " 0,".toList ++ sizeText topic := fun mem =>
    (List.mem_append.mp mem).elim (by decide) (not_mem_sizeText (by decide))
  have noPayloadYet : ¬ "+CMQTTRXPAYLOAD:".toList <:+: (front ++ startLine topic payload) ++ '\n' ::
      (markerLine "+CMQTTRXTOPIC:".toList (sizeText topic) ++ '\n' :: dropCR topic) := by
    intro occurs
    rcases infix_line (by decide) occurs with early | occurs
    · exact noPayload early
    rcases infix_line (by decide) occurs with inTopicLine | inTopic
    · exact markerLine_absent topicLine (by decide) (by decide) inTopicLine
    · have marker : rxMarker <:+: "+CMQTTRXPAYLOAD:".toList := by decide
      exact unmarked (marker.trans inTopic)
  have topicFound := fun more => eventValue_line (by decide) (by decide) noTopic topic more
  have payloadFound := fun more => eventValue_line (by decide) (by decide) noPayloadYet payload more
  refine ⟨'\n' :: (markerLine "+CMQTTRXPAYLOAD:".toList (sizeText payload) ++
    '\n' :: (dropCR payload ++ (afterPayload ++ rest))), List.cons_ne_nil _ _, ?_⟩
  unfold parseEvent
  dsimp only
  rw [searched, dropCR_eventText]
  unfold startLine at topicFound payloadFound
  simp only [List.append_assoc, List.cons_append] at topicFound payloadFound ⊢
  rw [topicFound, payloadFound]

/-! ### The first block of a text -/

/-- No topic and no payload is announced in the text, as `_parse_event` searches it. -/
structure Quiet (text : Text) : Prop where
  topic : ¬ "+CMQTTRXTOPIC:".toList <:+: dropCR text
  payload : ¬ "+CMQTTRXPAYLOAD:".toList <:+: dropCR text

theorem Quiet.nil : Quiet [] := ⟨by decide, by decide⟩

/-- A value of single bytes is sliced exactly. -/
theorem sliced_self {text : Text} (ascii : ∀ c ∈ text, c.toNat < 0x80) (noReturn : '\r' ∉ text)
    (rest : Text) : (dropCR text ++ rest).take (Utf8.encode text).length = text := by
  rw [dropCR_eq_self noReturn, Utf8.length_encode_eq_iff.mpr ascii, List.take_left]

/-- **The first block of a text is decoded exactly.** -/
theorem parseEvent_block {before : Text} (quiet : Quiet before) (b : Block) (after : Text) :
    parseEvent (before ++ b.text ++ after) = (some b.topic, some b.payload) := by
  have searched : dropCR (before ++ b.text ++ after) =
      (dropCR before ++ ['\n']) ++ (dropCR (eventText b.topic b.payload) ++ dropCR after) := by
    rw [b.text_eq]
    simp only [dropCR_append, List.append_assoc]
    rfl
  have absent : ∀ marker : Text, '\n' ∉ marker → ¬ marker <:+: dropCR before →
      ¬ marker <:+: startLine b.topic b.payload →
      ¬ marker <:+: (dropCR before ++ ['\n']) ++ startLine b.topic b.payload := by
    intro marker oneLine early inStart occurs
    rw [List.append_assoc, List.singleton_append] at occurs
    exact (infix_line oneLine occurs).elim early inStart
  obtain ⟨afterTopic, -, parsed⟩ := parseEvent_lines searched
    (absent _ (by decide) quiet.topic (startLine_absent _ _ (by decide)))
    (absent _ (by decide) quiet.payload (startLine_absent _ _ (by decide)))
    (by rw [dropCR_eq_self b.topicPlain.noReturn]; exact b.topicPlain.unmarked)
  rw [parsed, sliced_self b.topicPlain.ascii b.topicPlain.noReturn,
    sliced_self b.payloadPlain.ascii b.payloadPlain.noReturn]

/-! ### Any message -/

/-- Every character is one byte, and none is dropped. -/
structure OneByte (text : Text) : Prop where
  ascii : ∀ c ∈ text, c.toNat < 0x80
  noReturn : '\r' ∉ text

/-- A value is sliced exactly when its characters are one byte each. -/
theorem sliced_iff {text rest : Text} (more : rest ≠ []) :
    (dropCR text ++ rest).take (Utf8.encode text).length = dropCR text ↔ OneByte text := by
  have fewer : (dropCR text).length ≤ text.length := List.length_filter_le _ _
  have atLeast := Utf8.length_le_length_encode text
  constructor
  · intro exact
    have lengths := congrArg List.length exact
    rw [List.length_take, List.length_append] at lengths
    have someMore := List.length_pos_of_ne_nil more
    refine ⟨Utf8.length_encode_eq_iff.mp (by omega), fun mem => ?_⟩
    have all : (dropCR text).length = text.length := by omega
    have kept := List.length_filter_eq_length_iff.mp all '\r' mem
    simp at kept
  · intro oneByte
    rw [sliced_self oneByte.ascii oneByte.noReturn, dropCR_eq_self oneByte.noReturn]

/-- **A message on the command topic is decoded exactly when every character of
its topic and its payload is one byte and not a carriage return.** -/
theorem event_decoded_iff {cfg : Config} {payload : Text}
    (unmarked : ¬ rxMarker <:+: dropCR cfg.commandTopic.toList) :
    parseEvent (Utf8.decodeIgnore (Utf8.encode (eventText cfg.commandTopic.toList payload))) =
        (some (dropCR cfg.commandTopic.toList), some (dropCR payload)) ↔
      OneByte cfg.commandTopic.toList ∧ OneByte payload := by
  rw [Utf8.decodeIgnore_encode]
  have searched : dropCR (eventText cfg.commandTopic.toList payload) =
      [] ++ (dropCR (eventText cfg.commandTopic.toList payload) ++ []) := by simp
  obtain ⟨afterTopic, more, parsed⟩ := parseEvent_lines searched
    (startLine_absent _ _ (by decide)) (startLine_absent _ _ (by decide)) unmarked
  rw [parsed, Prod.mk.injEq, Option.some.injEq, Option.some.injEq, sliced_iff more,
    sliced_iff (by decide)]

set_option maxRecDepth 4000 in
theorem event_decoded_iff_shipped :
    parseEvent (Utf8.decodeIgnore (Utf8.encode (eventText Config.shipped.commandTopic.toList
        "\x7b\"command\":\"get_status\"\x7d".toList))) =
      (some (dropCR Config.shipped.commandTopic.toList),
        some (dropCR "\x7b\"command\":\"get_status\"\x7d".toList)) ↔
      OneByte Config.shipped.commandTopic.toList ∧
        OneByte "\x7b\"command\":\"get_status\"\x7d".toList :=
  event_decoded_iff (by decide)

/-- A status request as a console formats it, over three lines. -/
def multiLine : Text := "\x7b\r\n\"command\":\"get_status\"\r\n\x7d".toList

set_option maxRecDepth 4000 in
/-- The two carriage returns count in the size and not in the slice, which takes
the beginning of the end marker in. -/
theorem multi_line_command_garbled :
    ¬ rxMarker <:+: multiLine ∧
      parseEvent (Utf8.decodeIgnore (Utf8.encode
          (eventText Config.shipped.commandTopic.toList multiLine))) =
        (some Config.shipped.commandTopic.toList, some (dropCR multiLine ++ "\n+".toList)) ∧
      parseEvent (Utf8.decodeIgnore (Utf8.encode
          (eventText Config.shipped.commandTopic.toList multiLine))) ≠
        (some (dropCR Config.shipped.commandTopic.toList), some (dropCR multiLine)) := by
  rw [Utf8.decodeIgnore_encode]
  decide

end EdgeGateway.Mqtt
