import EdgeGateway.Modem.Uart

/-!
Publish results: `_require_result` over what `command_until` returned.

`_read_until` returns as soon as the marker is in the response, so the line it
belongs to may be cut anywhere behind the marker. `says_take` computes what
`_require_result` makes of any prefix of a reply, and `reported_iff` what the two
functions make of a reply that arrives in pieces: the outcome is that of the
fields that have arrived with the marker. `result_faithful_iff` compares that
with the last field of the complete line.
-/

namespace EdgeGateway.Mqtt

open EdgeGateway.Lib EdgeGateway.Modem

/-! ### `_require_result` -/

/-- `response.replace("\r", "").split("\n")`. -/
def lines (response : Text) : List Text := (dropCR response).splitOn '\n'

/-- `int(fields[-1].strip()) == 0`; a field that is no number is not zero. -/
def readsZero (value : Text) : Bool := decide (intOf (strip (lastPart ',' value)) = some 0)

/-- The loop of `_require_result`. -/
def requireLines (marker : Text) : List Text → Except PyError Unit
  | [] => .error (.osError (String.ofList marker ++ " operation failed"))
  | line :: rest =>
      if marker.isPrefixOf line then
        match afterFirst ':' line with
        | none => .error (.indexError "list index out of range")
        | some value => if readsZero value then .ok () else requireLines marker rest
      else requireLines marker rest

/-- `_require_result`. -/
def requireResult (response marker : Text) : Except PyError Unit :=
  requireLines marker (lines response)

/-- The commands whose result is awaited with `command_until`. -/
inductive ResultCommand where
  | start | connect | subscribe | publish
deriving DecidableEq, Repr

def ResultCommand.marker : ResultCommand → Text
  | .start => "+CMQTTSTART:".toList
  | .connect => "+CMQTTCONNECT:".toList
  | .subscribe => "+CMQTTSUB:".toList
  | .publish => "+CMQTTPUB:".toList

/-- A marker is a name and a colon, on one line. -/
structure Marker (marker : Text) : Prop where
  colon : ∃ name, marker = name ++ [':'] ∧ ':' ∉ name
  noCR : '\r' ∉ marker
  noLF : '\n' ∉ marker

theorem ResultCommand.isMarker (command : ResultCommand) : Marker command.marker := by
  cases command with
  | start => exact ⟨⟨"+CMQTTSTART".toList, by decide, by decide⟩, by decide, by decide⟩
  | connect => exact ⟨⟨"+CMQTTCONNECT".toList, by decide, by decide⟩, by decide, by decide⟩
  | subscribe => exact ⟨⟨"+CMQTTSUB".toList, by decide, by decide⟩, by decide, by decide⟩
  | publish => exact ⟨⟨"+CMQTTPUB".toList, by decide, by decide⟩, by decide, by decide⟩

/-- `command_until` and then `_require_result`, over the bytes that arrive before
each poll. -/
def awaitResult (uart : Uart) (command : String) (marker : Text) (arrivals : List Bytes) :
    Except PyError Unit :=
  match (commandUntil uart command marker arrivals).1 with
  | .ok response => requireResult response marker
  | .error exc => .error exc

/-! ### What `_require_result` accepts -/

/-- Some line with the marker ends in a zero. -/
def Says (marker text : Text) : Prop :=
  ∃ value, marker ++ value ∈ lines text ∧ readsZero value = true

section Lines

variable {marker : Text}

theorem requireLines_iff (isMarker : Marker marker) (ls : List Text) :
    requireLines marker ls = .ok () ↔ ∃ value, marker ++ value ∈ ls ∧ readsZero value = true := by
  obtain ⟨name, rfl, first⟩ := isMarker.colon
  induction ls with
  | nil => simp [requireLines]
  | cons line rest ih =>
      unfold requireLines
      by_cases marked : name ++ [':'] <+: line
      · obtain ⟨value, rfl⟩ := marked
        have after : afterFirst ':' (name ++ [':'] ++ value) = some value := by
          rw [List.append_assoc]
          exact afterFirst_append first value
        rw [if_pos (List.isPrefixOf_iff_prefix.mpr (List.prefix_append _ _)), after]
        dsimp only
        cases zero : readsZero value with
        | true => exact ⟨fun _ => ⟨value, List.mem_cons_self, zero⟩, fun _ => by simp⟩
        | false =>
            rw [if_neg (by simp), ih]
            constructor
            · rintro ⟨other, mem, isZero⟩
              exact ⟨other, List.mem_cons_of_mem _ mem, isZero⟩
            · rintro ⟨other, mem, isZero⟩
              rcases List.mem_cons.mp mem with same | mem
              · rw [List.append_cancel_left same, zero] at isZero
                cases isZero
              · exact ⟨other, mem, isZero⟩
      · rw [if_neg fun hit => marked (List.isPrefixOf_iff_prefix.mp hit), ih]
        constructor
        · rintro ⟨value, mem, zero⟩
          exact ⟨value, List.mem_cons_of_mem _ mem, zero⟩
        · rintro ⟨value, mem, zero⟩
          rcases List.mem_cons.mp mem with rfl | mem
          · exact absurd (List.prefix_append _ _) marked
          · exact ⟨value, mem, zero⟩

theorem requireResult_iff (isMarker : Marker marker) (text : Text) :
    requireResult text marker = .ok () ↔ Says marker text :=
  requireLines_iff isMarker _

/-- A text whose lines do not start with the marker says nothing, nor does any prefix. -/
theorem not_says_prefix {xs ys : Text} (sub : xs <+: ys)
    (unmarked : ∀ line ∈ lines ys, ¬ marker <+: line) : ¬ Says marker xs := by
  rintro ⟨value, mem, -⟩
  have shorter : dropCR xs <+: dropCR ys := sub.filter _
  obtain ⟨line, mem', longer⟩ := prefix_line shorter _ mem
  exact unmarked line mem' ((List.prefix_append _ _).trans longer)

/-- A text on one line says what follows its marker. -/
theorem says_line {value : Text} (isMarker : Marker marker) (plain : ∀ c ∈ value, c ≠ '\n')
    (noCR : ∀ c ∈ value, c ≠ '\r') : Says marker (marker ++ value) ↔ readsZero value = true := by
  have kept : dropCR (marker ++ value) = marker ++ value := by
    apply dropCR_eq_self
    intro mem
    rcases List.mem_append.mp mem with inMarker | inValue
    · exact isMarker.noCR inMarker
    · exact noCR _ inValue rfl
  have single : lines (marker ++ value) = [marker ++ value] := by
    unfold lines
    rw [kept, List.splitOn_eq_singleton]
    intro mem
    rcases List.mem_append.mp mem with inMarker | inValue
    · exact isMarker.noLF inMarker
    · exact plain _ inValue rfl
  unfold Says
  rw [single]
  constructor
  · rintro ⟨other, mem, zero⟩
    rwa [← List.append_cancel_left (List.mem_singleton.mp mem)]
  · exact fun zero => ⟨value, List.mem_singleton_self _, zero⟩

/-- A line end separates what is said. -/
theorem says_append_line (xs ys : Text) :
    Says marker (xs ++ '\n' :: ys) ↔ Says marker xs ∨ Says marker ys := by
  have split : lines (xs ++ '\n' :: ys) = lines xs ++ lines ys := by
    have kept : dropCR (xs ++ '\n' :: ys) = dropCR xs ++ '\n' :: dropCR ys := by
      simp [dropCR]
    unfold lines
    rw [kept, List.splitOn_append_cons_self]
  unfold Says
  rw [split]
  constructor
  · rintro ⟨value, mem, zero⟩
    exact (List.mem_append.mp mem).imp (⟨value, ·, zero⟩) (⟨value, ·, zero⟩)
  · rintro (⟨value, mem, zero⟩ | ⟨value, mem, zero⟩)
    · exact ⟨value, List.mem_append_left _ mem, zero⟩
    · exact ⟨value, List.mem_append_right _ mem, zero⟩

/-- A carriage return says nothing. -/
theorem says_append_cr (xs : Text) : Says marker (xs ++ ['\r']) ↔ Says marker xs := by
  unfold Says lines
  simp [dropCR]

end Lines

/-! ### Replies with one result line -/

/-- A reply with one complete result line `<marker> <fields>\r\n` and no error text. -/
structure Reply (marker : Text) where
  before : Text
  fields : Text
  behind : Text
  lineStart : before = [] ∨ ∃ lead, before = lead ++ ['\n']
  oneLine : ∀ c ∈ fields, c ≠ '\n' ∧ c ≠ '\r'
  onlyBefore : ∀ line ∈ lines before, ¬ marker <+: line
  onlyBehind : ∀ line ∈ lines behind, ¬ marker <+: line
  noError : errorText (before ++ (marker ++ ' ' :: fields) ++ ('\r' :: '\n' :: behind)) = false

namespace Reply

variable {marker : Text} (reply : Reply marker)

/-- What stands behind the marker on the result line. -/
def value : Text := ' ' :: reply.fields

/-- The last field of the complete line is 0. -/
def LastZero : Prop :=
  ∃ field, (reply.fields.splitOn ',').getLast? = some field ∧ intOf field = some 0

/-- `_require_result` accepts a complete line whose last field is 0, and no other. -/
theorem readsZero_value : readsZero reply.value = true ↔ reply.LastZero := by
  have blank (field : Text) : strip (' ' :: field) = strip field := rfl
  have last : intOf (strip (lastPart ',' reply.value)) = intOf (lastPart ',' reply.fields) := by
    rcases lastPart_cons (show ' ' ≠ ',' by decide) reply.fields with same | longer
    · rw [value, same, intOf_strip]
    · rw [value, longer, blank, intOf_strip]
  simp only [readsZero, LastZero, getLast?_splitOn, decide_eq_true_eq, last]
  simp

instance : Decidable reply.LastZero := decidable_of_iff _ reply.readsZero_value

def text : Text := reply.before ++ (marker ++ reply.value) ++ ('\r' :: '\n' :: reply.behind)

/-- Where the marker ends. -/
def markerEnd : Nat := reply.before.length + marker.length

/-- What has arrived of the value in the first `n` characters. -/
def arrived (n : Nat) : Text := reply.value.take (n - reply.markerEnd)

theorem not_says_before {xs : Text} (sub : xs <+: reply.before) : ¬ Says marker xs :=
  not_says_prefix sub reply.onlyBefore

/-- What precedes the result line says nothing. -/
theorem says_before_append (ys : Text) : Says marker (reply.before ++ ys) ↔ Says marker ys := by
  rcases reply.lineStart with nil | ⟨lead, split⟩
  · rw [nil, List.nil_append]
  · have silent : ¬ Says marker lead :=
      reply.not_says_before (split ▸ List.prefix_append _ _)
    rw [split, List.append_assoc, List.singleton_append, says_append_line]
    exact or_iff_right silent

/-- A part of the marker says nothing. -/
theorem not_says_part (isMarker : Marker marker) {k : Nat} (short : k < marker.length) :
    ¬ Says marker (marker.take k) := by
  rintro ⟨value, mem, -⟩
  have lengths : ∀ line ∈ lines (marker.take k), line.length < marker.length := by
    have kept : dropCR (marker.take k) = marker.take k :=
      dropCR_eq_self fun mem => isMarker.noCR (List.mem_of_mem_take mem)
    unfold lines
    rw [kept, List.splitOn_eq_singleton fun mem => isMarker.noLF (List.mem_of_mem_take mem)]
    intro line mem
    obtain rfl := List.mem_singleton.mp mem
    rw [List.length_take]
    omega
  have := lengths _ mem
  rw [List.length_append] at this
  omega

/-- What the marker and the first `k` characters behind it say. -/
theorem says_marker_take (isMarker : Marker marker) (k : Nat) :
    Says marker (marker ++ (reply.value ++ '\r' :: '\n' :: reply.behind).take k) ↔
      readsZero (reply.value.take k) = true := by
  have plain : ∀ c ∈ reply.value, c ≠ '\n' ∧ c ≠ '\r' := by
    intro c mem
    rcases List.mem_cons.mp mem with rfl | mem
    · decide
    · exact reply.oneLine c mem
  have onLine : Says marker (marker ++ reply.value.take k) ↔
      readsZero (reply.value.take k) = true :=
    says_line isMarker (fun c mem => (plain c (List.mem_of_mem_take mem)).1)
      fun c mem => (plain c (List.mem_of_mem_take mem)).2
  rw [List.take_append, ← List.append_assoc]
  rcases Nat.lt_or_ge reply.value.length k with past | within
  · obtain ⟨j, rfl⟩ := Nat.exists_eq_add_of_lt past
    have rest : reply.value.length + j + 1 - reply.value.length = j + 1 := by omega
    rw [rest]
    cases j with
    | zero =>
        rw [List.take_succ_cons, List.take_zero, says_append_cr]
        exact onLine
    | succ j =>
        have silent : ¬ Says marker (reply.behind.take j) :=
          not_says_prefix (List.take_prefix j _) reply.onlyBehind
        rw [List.take_succ_cons, List.take_succ_cons, List.append_cons, says_append_line,
          says_append_cr, or_iff_left silent]
        exact onLine
  · rw [Nat.sub_eq_zero_of_le within, List.take_zero, List.append_nil]
    exact onLine

/-- **What the first `n` characters of a reply say**: what has arrived of its fields. -/
theorem says_take (isMarker : Marker marker) (n : Nat) :
    Says marker (reply.text.take n) ↔ readsZero (reply.arrived n) = true := by
  have shape : reply.text =
      reply.before ++ (marker ++ (reply.value ++ '\r' :: '\n' :: reply.behind)) := by
    simp [text]
  rw [shape, List.take_append]
  rcases Nat.lt_or_ge n reply.markerEnd with early | late
  · -- The marker is not complete.
    unfold markerEnd at early
    have silent : ¬ Says marker (reply.before.take n ++
        (marker ++ (reply.value ++ '\r' :: '\n' :: reply.behind)).take
          (n - reply.before.length)) := by
      rcases Nat.lt_or_ge reply.before.length n with past | within
      · rw [List.take_of_length_le (Nat.le_of_lt past), says_before_append,
          List.take_append_of_le_length (by omega)]
        exact not_says_part isMarker (by omega)
      · rw [Nat.sub_eq_zero_of_le within, List.take_zero, List.append_nil]
        exact reply.not_says_before (List.take_prefix n _)
    have nothing : reply.arrived n = [] := by
      unfold arrived markerEnd
      rw [Nat.sub_eq_zero_of_le (by omega), List.take_zero]
    rw [nothing]
    exact iff_of_false silent (by decide)
  · have passed : reply.before.length ≤ n := le_trans (Nat.le_add_right _ _) late
    have behind : marker.length ≤ n - reply.before.length := by
      unfold markerEnd at late
      omega
    rw [List.take_of_length_le passed, says_before_append, List.take_append,
      List.take_of_length_le behind, says_marker_take reply isMarker, Nat.sub_sub]
    rfl

end Reply

/-! ### Replies that arrive in pieces -/

/-- How much text has arrived with the read that completes the marker. -/
def delivered (marker : Text) (arrivals : List Bytes) : Nat :=
  (((texts [] arrivals).find? (contains marker)).map List.length).getD 0

/-- What that read delivers of the fields reads as zero exactly if the last field of
the complete line is 0. -/
def Reply.Faithful {marker : Text} (reply : Reply marker) (n : Nat) : Prop :=
  readsZero (reply.arrived n) = true ↔ reply.LastZero

/-- A read that delivers all the fields is faithful. -/
theorem Reply.faithful_of_whole {marker : Text} (reply : Reply marker) {n : Nat}
    (whole : reply.markerEnd + reply.value.length ≤ n) : reply.Faithful n := by
  have all : reply.arrived n = reply.value := List.take_of_length_le (by omega)
  rw [Reply.Faithful, all]
  exact reply.readsZero_value

/-- **The outcome is that of the fields that have arrived with the marker.** -/
theorem reported_iff {marker : Text} (isMarker : Marker marker) (reply : Reply marker) (uart : Uart)
    (command : String) {arrivals : List Bytes}
    (arrives : Utf8.decodeIgnore arrivals.flatten = reply.text) :
    awaitResult uart command marker arrivals = .ok () ↔
      readsZero (reply.arrived (delivered marker arrivals)) = true := by
  have marked : contains marker reply.text = true := by
    refine contains_iff.mpr ⟨reply.before, reply.value ++ '\r' :: '\n' :: reply.behind, ?_⟩
    simp [Reply.text]
  have unmarked : contains marker (Utf8.decodeIgnore []) = false := by
    obtain ⟨name, rfl, -⟩ := isMarker.colon
    cases name <;> rfl
  have nonempty : arrivals ≠ [] := by
    rintro rfl
    have : Utf8.decodeIgnore [] = reply.text := arrives
    rw [← this, unmarked] at marked
    cases marked
  cases first : (texts [] arrivals).find? (contains marker) with
  | none =>
      have absent := List.find?_eq_none.mp first _ (whole_mem_texts nonempty)
      rw [List.nil_append, arrives] at absent
      exact absurd marked absent
  | some text =>
      have sub : text <+: reply.text := by
        have := texts_prefix (List.mem_of_find?_eq_some first)
        rwa [List.nil_append, arrives] at this
      have quiet : errorText (Utf8.decodeIgnore ([] ++ arrivals.flatten)) = false := by
        rw [List.nil_append, arrives]
        exact reply.noError
      have ran : (commandUntil uart command marker arrivals).1 = .ok text :=
        readUntil_eq rfl unmarked quiet first
      have taken : text = reply.text.take text.length := List.prefix_iff_eq_take.mp sub
      unfold awaitResult delivered
      rw [ran, first]
      dsimp only [Option.map_some, Option.getD_some]
      rw [requireResult_iff isMarker]
      nth_rewrite 1 [taken]
      exact reply.says_take isMarker text.length

/-- **A result is reported as the last field of the complete line has it, exactly when
the read that completes the marker is faithful.** -/
theorem result_faithful_iff (command : ResultCommand) (reply : Reply command.marker) (uart : Uart)
    (line : String) {arrivals : List Bytes}
    (arrives : Utf8.decodeIgnore arrivals.flatten = reply.text) :
    (awaitResult uart line command.marker arrivals = .ok () ↔ reply.LastZero) ↔
      reply.Faithful (delivered command.marker arrivals) := by
  rw [reported_iff command.isMarker reply uart line arrives]
  rfl

/-- A publish that fails with error 4. -/
def failedPublish : Reply ResultCommand.publish.marker where
  before := "\r\nOK\r\n\r\n".toList
  fields := "0,4".toList
  behind := []
  lineStart := .inr ⟨"\r\nOK\r\n\r".toList, by decide⟩
  oneLine := by
    intro c mem
    have cases : c = '0' ∨ c = ',' ∨ c = '4' := by simpa using mem
    rcases cases with rfl | rfl | rfl <;> decide
  onlyBefore := by decide
  onlyBehind := by decide
  noError := by decide

/-- The failure is cut within its last field, which is no number yet. -/
theorem result_faithful_iff_split :
    (awaitResult ⟨[], []⟩ "AT+CMQTTPUB=0,1,60" ResultCommand.publish.marker
        [Utf8.encode "\r\nOK\r\n\r\n+CMQTTPUB: 0,".toList, Utf8.encode "4\r\n".toList] = .ok () ↔
        failedPublish.LastZero) ↔
      failedPublish.Faithful (delivered ResultCommand.publish.marker
        [Utf8.encode "\r\nOK\r\n\r\n+CMQTTPUB: 0,".toList, Utf8.encode "4\r\n".toList]) :=
  result_faithful_iff .publish failedPublish _ _ (by decide)

/-- The failure is cut between its two fields, and reported as a success. -/
theorem failure_reported_as_success :
    let arrivals := [Utf8.encode "\r\nOK\r\n\r\n+CMQTTPUB: 0".toList, Utf8.encode ",4\r\n".toList]
    Utf8.decodeIgnore arrivals.flatten = failedPublish.text ∧
      ¬ (awaitResult ⟨[], []⟩ "AT+CMQTTPUB=0,1,60" ResultCommand.publish.marker arrivals = .ok () ↔
        failedPublish.LastZero) := by
  decide

end EdgeGateway.Mqtt
