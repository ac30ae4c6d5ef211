import EdgeGateway.Tcp.Link
import EdgeGateway.Tcp.Frames

/-!
One connection over which a message is sent.

The first acknowledgement on the connection answers the first message read there,
and that is the complete one unless a frame timeout fired on a part of its text.
The characters of all messages read are characters of the line, and a complete
message needs all of them, so it is processed at most once
(`Conn.Good.updates_once`). `Conn.Good` says both, `Conn.Good.step` that every
handler step keeps it, and `Conn.Good.holds_of_accepts` what the client may
conclude from an acknowledgement.
-/

namespace EdgeGateway.Tcp

open EdgeGateway.Lib EdgeGateway.Mqtt

variable {cfg : Config} {codec : Codec} {message : Json} {text : Text}

def ackText : Text := "\x7b\"status\":\"OK\"\x7d".toList

/-- A message the client can send, and what the codec makes of it and of a part
of the acknowledgement. -/
structure Sendable (cfg : Config) (codec : Codec) (message : Json) (text : Text) : Prop where
  dumps : (codec.dumps message).toList = text
  loads : codec.loads text = .ok message
  nonempty : text ≠ []
  oneLine : '\n' ∉ text ∧ '\r' ∉ text
  fits : (encoded codec message ++ [newline]).length ≤ cfg.maxMessageSize
  truncated : ∀ part, part <+: ackText → part ≠ ackText →
    ∀ fields, codec.loads (strip part) ≠ .ok (.dict fields)

/-! ### The acknowledgement -/

/-- The client accepts no part of the acknowledgement. -/
theorem Sendable.accepts_part (sendable : Sendable cfg codec message text) {part : Bytes}
    (sub : part <+: ack) (proper : part ≠ ack) : accepts codec part = false := by
  unfold accepts
  cases decoded : Utf8.decode? part with
  | none => rfl
  | some chars =>
      have fewer : chars.length < ackText.length := by
        calc chars.length = part.countP Utf8.isLead := Utf8.length_of_decode? decoded
          _ ≤ part.length := List.countP_le_length
          _ < ack.length := lt_of_le_of_ne sub.length_le fun same => proper (sub.eq_of_length same)
          _ = ackText.length := rfl
      have within : chars <+: ackText := by
        have sub := Utf8.decodeIgnore_prefix sub
        rwa [(Utf8.of_decode? decoded).2, ack, Utf8.decodeIgnore_encode] at sub
      have reject := sendable.truncated chars within fun same => by simp [same] at fewer
      dsimp only
      split
      · rename_i fields loaded
        exact absurd loaded (reject fields)
      · rfl

/-! ### The characters of the messages -/

/-- The bytes that start a character, newlines apart. -/
def leads (bytes : Bytes) : Nat := bytes.countP fun b => Utf8.isLead b && b ≠ newline

@[simp] theorem leads_nil : leads [] = 0 := rfl

@[simp] theorem leads_append (xs ys : Bytes) : leads (xs ++ ys) = leads xs + leads ys :=
  List.countP_append

theorem leads_plain {bytes : Bytes} (plain : newline ∉ bytes) :
    leads bytes = bytes.countP Utf8.isLead := by
  apply List.countP_congr
  intro b mem
  have other : b ≠ newline := fun same => plain (same ▸ mem)
  simp [other]

/-- A message has no more characters than the bytes it was read from. -/
theorem receive_length {data : Bytes} {received : Received} (plain : newline ∉ data)
    (read : receive codec data = some received) : received.payload.length ≤ leads data := by
  obtain ⟨-, decoded⟩ := receive_spec read
  obtain ⟨trailing, -, split⟩ := rstrip_split data
  calc received.payload.length = (rstrip data).countP Utf8.isLead := Utf8.length_of_decode? decoded
    _ ≤ (rstrip data).countP Utf8.isLead + trailing.countP Utf8.isLead := Nat.le_add_right _ _
    _ = data.countP Utf8.isLead := by rw [← List.countP_append, ← split]
    _ = leads data := (leads_plain plain).symm

theorem Sendable.encoded_eq (sendable : Sendable cfg codec message text) :
    encoded codec message = Utf8.encode text := by rw [encoded, sendable.dumps]

theorem Sendable.plain (sendable : Sendable cfg codec message text) :
    newline ∉ encoded codec message := by
  rw [sendable.encoded_eq]
  intro mem
  exact sendable.oneLine.1 (Utf8.mem_of_ascii_mem_encode (by decide) mem)

theorem Sendable.leads_eq (sendable : Sendable cfg codec message text) :
    leads (encoded codec message ++ [newline]) = text.length := by
  rw [leads_append, leads_plain sendable.plain, sendable.encoded_eq, Utf8.countP_isLead_encode]
  rfl

/-- The message is what the line holds. -/
def Complete (text : Text) (message : Json) (received : Received) : Prop :=
  received.payload = text ∧ received.parsed = message

theorem rstrip_eq {data : Bytes} (kept : ∀ b ∈ data, b ≠ 13 ∧ b ≠ newline) :
    rstrip data = data := by
  have none : data.reverse.dropWhile (fun b => b = 13 || b = newline) = data.reverse := by
    cases shape : data.reverse with
    | nil => rfl
    | cons b bs =>
        have mem : b ∈ data := List.mem_reverse.mp (shape ▸ List.mem_cons_self)
        simp [(kept b mem).1, (kept b mem).2]
  rw [rstrip, none, List.reverse_reverse]

/-- The whole line is read as the complete message. -/
theorem Sendable.receive_whole (sendable : Sendable cfg codec message text) :
    ∃ received, receive codec (encoded codec message) = some received ∧
      Complete text message received := by
  have kept : rstrip (encoded codec message) = Utf8.encode text := by
    rw [sendable.encoded_eq]
    refine rstrip_eq fun b mem => ⟨?_, ?_⟩
    · rintro rfl
      exact sendable.oneLine.2 (Utf8.mem_of_ascii_mem_encode (by decide) mem)
    · rintro rfl
      exact sendable.oneLine.1 (Utf8.mem_of_ascii_mem_encode (by decide) mem)
  refine ⟨⟨encoded codec message, text, message⟩, ?_, rfl, rfl⟩
  simp only [receive, validate, kept, Utf8.decode?_encode, sendable.loads]

/-! ### One connection -/

/-- The message being acknowledged. -/
def Phase.received? : Phase → Option Received
  | .acking received _ => some received
  | _ => none

/-- The data of the message being read. -/
def Phase.data : Phase → Bytes
  | .reading data => data
  | _ => []

/-- The messages read on the connection so far. -/
def Conn.messages (c : Conn) : List Received := c.handled ++ c.phase.received?.toList

def characters (messages : List Received) : Nat := (messages.map fun r => r.payload.length).sum

@[simp] theorem characters_append (xs ys : List Received) :
    characters (xs ++ ys) = characters xs + characters ys := by simp [characters]

/-- Up to the end of the first message, all that was read is its data, and all
that was written is its acknowledgement. -/
def Conn.Opening (c : Conn) : Prop :=
  match c.phase with
  | .reading data => data = c.taken ∧ c.written = []
  | .acking _ unsent => c.written ++ unsent = ack
  | .closed => c.written <+: ack ∧ c.written ≠ ack

/-- The invariant of a connection over which `line` is sent. -/
structure Conn.Good (codec : Codec) (message : Json) (text : Text) (c : Conn) : Prop where
  onLine : c.taken ++ c.wire <+: encoded codec message ++ [newline]
  plain : newline ∉ c.phase.data
  weight : characters c.messages + leads c.phase.data ≤ leads c.taken
  opening : c.handled = [] → c.Opening
  first : c.hungUp = false → c.interrupted = false →
    ∀ received ∈ c.messages.head?, Complete text message received

theorem Conn.Good.fresh : Conn.fresh.Good codec message text where
  onLine := List.nil_prefix
  plain := List.not_mem_nil
  weight := le_refl _
  opening := fun _ => ⟨rfl, rfl⟩
  first := fun _ _ _ mem => by cases mem

/-- A handler that has read `data` and now makes a message of it. -/
theorem Conn.Good.of_message (sendable : Sendable cfg codec message text) {c : Conn} {data : Bytes}
    (onLine : c.taken ++ c.wire <+: encoded codec message ++ [newline]) (plain : newline ∉ data)
    (weight : characters c.handled + leads data ≤ leads c.taken)
    (opening : c.handled = [] → c.written = [])
    (first : c.hungUp = false → c.interrupted = false →
      (c.handled = [] → data = [] ∨ data = encoded codec message) ∧
        ∀ received ∈ c.handled.head?, Complete text message received) :
    (c.message codec data).Good codec message text := by
  rcases c.message_cases codec data with same | ⟨received, nonempty, read, same⟩
  · rw [same]
    refine ⟨onLine, List.not_mem_nil, ?_, ?_, ?_⟩
    · simpa [Conn.messages, Phase.received?, Phase.data] using (Nat.le_add_right _ _).trans weight
    · intro start
      have silent : c.written = [] := opening start
      simp only [Conn.Opening, silent]
      exact ⟨List.nil_prefix, by decide⟩
    · intro up calm received mem
      simp only [Conn.messages, Phase.received?, Option.toList_none, List.append_nil] at mem
      exact (first up calm).2 received mem
  · rw [same]
    refine ⟨onLine, List.not_mem_nil, ?_, ?_, ?_⟩
    · have length := receive_length plain read
      simp only [Conn.messages, Phase.received?, Phase.data, Option.toList_some, characters_append,
        leads_nil]
      simp only [characters, List.map_cons, List.map_nil, List.sum_cons, List.sum_nil] at weight ⊢
      omega
    · intro start
      simp only [Conn.Opening, opening start, List.nil_append]
    · intro up calm other mem
      simp only [Conn.messages, Phase.received?, Option.toList_some] at mem
      cases handled : c.handled with
      | nil =>
          rw [handled] at mem
          obtain rfl : received = other := by simpa using mem
          have whole := ((first up calm).1 handled).resolve_left nonempty
          obtain ⟨expected, wholeRead, complete⟩ := sendable.receive_whole
          rw [whole, wholeRead] at read
          exact Option.some.inj read ▸ complete
      | cons head tail =>
          rw [handled] at mem
          exact (first up calm).2 other (by rw [handled]; exact mem)

/-- A part of the line with its newline is the whole line. -/
theorem beforeNewline_line {bytes taken : Bytes} (plain : newline ∉ bytes)
    (sub : taken <+: bytes ++ [newline]) (ends : newline ∈ taken) :
      beforeNewline taken = bytes := by
  rcases List.prefix_concat_iff.mp sub with rfl | short
  · rw [beforeNewline_append plain, beforeNewline_newline, List.append_nil]
  · exact absurd (short.subset ends) plain

/-- A part of the line without its newline, not shorter than the text, is the text. -/
theorem eq_of_plain_line {bytes taken : Bytes} (sub : taken <+: bytes ++ [newline])
    (plain : newline ∉ taken) (long : bytes.length ≤ taken.length) : taken = bytes := by
  rcases List.prefix_concat_iff.mp sub with rfl | short
  · simp at plain
  · exact short.eq_of_length_le long

/-- What the invariant says while the handler reads. -/
theorem Conn.Good.reading {c : Conn} {data : Bytes} (good : c.Good codec message text)
    (phase : c.phase = .reading data) :
    newline ∉ data ∧ characters c.handled + leads data ≤ leads c.taken ∧
      (c.handled = [] → data = c.taken ∧ c.written = []) ∧
      (c.hungUp = false → c.interrupted = false →
        ∀ received ∈ c.handled.head?, Complete text message received) := by
  obtain ⟨-, plain, weight, opening, first⟩ := good
  simp only [Conn.messages, Conn.Opening, phase, Phase.data, Phase.received?, Option.toList_none,
    List.append_nil] at plain weight opening first
  exact ⟨plain, weight, opening, first⟩

/-- **A handler step keeps the invariant of its connection.** -/
theorem Conn.Good.step (sendable : Sendable cfg codec message text) {c c' : Conn}
    (good : c.Good codec message text) (move : Conn.Move codec (encoded codec message) c c') :
    c'.Good codec message text := by
  have onLine := good.onLine
  cases move with
  | @more data chunk rest phase wire plain =>
      obtain ⟨dataPlain, weight, opening, first⟩ := good.reading phase
      refine ⟨?_, ?_, ?_, ?_, ?_⟩
      · rwa [wire, ← List.append_assoc] at onLine
      · simp only [Phase.data, List.mem_append]
        exact fun either => either.elim dataPlain plain
      · simp only [Conn.messages, Phase.received?, Phase.data, Option.toList_none, List.append_nil,
          leads_append]
        omega
      · intro start
        obtain ⟨same, silent⟩ := opening start
        exact ⟨by rw [same], silent⟩
      · simpa [Conn.messages, Phase.received?] using first
  | @line data chunk rest phase wire ends =>
      obtain ⟨dataPlain, weight, opening, first⟩ := good.reading phase
      rw [wire, ← List.append_assoc] at onLine
      obtain ⟨after, split, plain, -⟩ := beforeNewline_split chunk
      refine .of_message sendable onLine ?_ ?_ (fun start => (opening start).2) ?_
      · rw [beforeNewline_append dataPlain, List.mem_append]
        exact fun either => either.elim dataPlain plain
      · have part : leads (beforeNewline chunk) ≤ leads chunk := by
          nth_rewrite 2 [split]
          rw [leads_append]
          exact Nat.le_add_right _ _
        rw [beforeNewline_append dataPlain]
        simp only [leads_append]
        omega
      · intro up calm
        refine ⟨fun start => .inr ?_, first up calm⟩
        rw [(opening start).1]
        apply beforeNewline_line sendable.plain ((List.prefix_append _ _).trans onLine)
        exact List.mem_append_right _ ends
  | @stop data flag phase flagged why =>
      obtain ⟨dataPlain, weight, opening, first⟩ := good.reading phase
      refine .of_message sendable onLine dataPlain weight (fun start => (opening start).2) ?_
      intro up calm
      have before : c.interrupted = false := by
        by_contra was
        exact Bool.false_ne_true (calm.symm.trans (flagged (by simpa using was)))
      refine ⟨fun start => ?_, first up before⟩
      have same : data = c.taken := (opening start).1
      rcases why calm with empty | long | closed
      · exact .inl empty
      · right
        subst same
        exact eq_of_plain_line ((List.prefix_append _ _).trans onLine) dataPlain long
      · exact absurd (up.symm.trans closed) Bool.false_ne_true
  | reset unwritten =>
      refine ⟨onLine, List.not_mem_nil, ?_, ?_, ?_⟩
      · have weight := good.weight
        simp only [Conn.messages, characters_append] at weight
        simp only [Conn.messages, Phase.received?, Phase.data, Option.toList_none, List.append_nil,
          leads_nil]
        omega
      · intro start
        have opening := good.opening start
        cases phase : c.phase with
        | reading data =>
            simp only [Conn.Opening, phase] at opening ⊢
            rw [opening.2]
            exact ⟨List.nil_prefix, by decide⟩
        | acking received unsent =>
            simp only [Conn.Opening, phase] at opening ⊢
            refine ⟨opening ▸ List.prefix_append _ _, fun whole => unwritten received ?_⟩
            rw [whole] at opening
            rw [phase, List.append_right_eq_self.mp opening]
        | closed =>
            simpa only [Conn.Opening, phase] using opening
      · intro up calm received mem
        apply good.first up calm received
        simp only [Conn.messages, Phase.received?, Option.toList_none, List.append_nil] at mem
        rw [Conn.messages, List.head?_append, mem]
        rfl
  | @flush received part unsent phase =>
      have weight := good.weight
      have first := good.first
      simp only [Conn.messages, phase, Phase.received?, Phase.data] at weight first
      refine ⟨onLine, List.not_mem_nil, weight, ?_, first⟩
      intro start
      have opening := good.opening start
      simp only [Conn.Opening, phase] at opening ⊢
      rw [List.append_assoc, opening]
  | @proceed received phase =>
      have weight := good.weight
      have first := good.first
      simp only [Conn.messages, phase, Phase.received?, Phase.data,
        Option.toList_some] at weight first
      refine ⟨onLine, List.not_mem_nil, ?_, ?_, ?_⟩
      · simpa [Conn.messages, Phase.received?, Phase.data] using weight
      · intro start
        simp at start
      · simpa [Conn.messages, Phase.received?] using first

/-- The line has the characters of one complete message only. -/
theorem Conn.Good.updates_once (sendable : Sendable cfg codec message text) {c : Conn}
    (good : c.Good codec message text) : c.updates.countP (fun call => call.1 = text) ≤ 1 := by
  have each : ∀ messages : List Received,
      (messages.map fun r => (r.payload, r.parsed)).countP
        (fun call => call.1 = text) * text.length ≤
        characters messages := by
    intro messages
    induction messages with
    | nil => simp
    | cons received messages ih =>
        simp only [List.map_cons, List.countP_cons, characters, List.sum_cons, add_mul] at ih ⊢
        by_cases complete : received.payload = text
        · simp only [complete, decide_true, if_true, one_mul]
          omega
        · simp only [complete, decide_false, Bool.false_eq_true, if_false, Nat.zero_mul]
          omega
  have positive : 0 < text.length := List.length_pos_iff.mpr sendable.nonempty
  have total : leads c.taken ≤ text.length := by
    obtain ⟨ahead, line⟩ := good.onLine
    rw [← sendable.leads_eq, ← line, leads_append, leads_append]
    omega
  have weight := good.weight
  rw [Conn.messages, characters_append] at weight
  by_contra twice
  have double : 2 * text.length ≤ c.updates.countP (fun call => call.1 = text) * text.length :=
    Nat.mul_le_mul_right _ (by omega)
  have bound : c.updates.countP (fun call => call.1 = text) * text.length ≤ characters c.handled :=
    each c.handled
  omega

/-! ### Success -/

/-- The complete message was processed, or only `drain` is left to return. -/
def Conn.Holds (message : Json) (text : Text) (c : Conn) : Prop :=
  ∃ received, Complete text message received ∧
    (received ∈ c.handled ∨ c.phase = .acking received [])

theorem Conn.Holds.step {bytes : Bytes} {c c' : Conn} (holds : c.Holds message text)
    (move : Conn.Move codec bytes c c') : c'.Holds message text := by
  obtain ⟨received, complete, inHandled | inPhase⟩ := holds
  · refine ⟨received, complete, .inl ?_⟩
    have same : ∀ (data : Bytes) (c : Conn), (c.message codec data).handled = c.handled := by
      intro data c
      rcases c.message_cases codec data with same | ⟨_, _, _, same⟩ <;> rw [same]
    cases move with
    | more phase wire plain => exact inHandled
    | line phase wire ends => rwa [same]
    | stop phase flagged why => rwa [same]
    | reset unwritten => exact inHandled
    | flush phase => exact inHandled
    | proceed phase => exact List.mem_append_left _ inHandled
  · cases move with
    | more phase wire plain => cases inPhase.symm.trans phase
    | line phase wire ends => cases inPhase.symm.trans phase
    | stop phase flagged why => cases inPhase.symm.trans phase
    | reset unwritten => exact absurd inPhase (unwritten received)
    | @flush other part unsent phase =>
        obtain ⟨rfl, none⟩ := Phase.acking.inj (inPhase.symm.trans phase)
        obtain ⟨rfl, rfl⟩ := List.append_eq_nil_iff.mp none.symm
        exact ⟨received, complete, .inr rfl⟩
    | @proceed other phase =>
        obtain ⟨rfl, -⟩ := Phase.acking.inj (inPhase.symm.trans phase)
        exact ⟨received, complete, .inl (by simp)⟩

/-- An accepted acknowledgement is the whole one, of the complete message. -/
theorem Conn.Good.holds_of_accepts (sendable : Sendable cfg codec message text) {c : Conn}
    (good : c.Good codec message text) (up : c.hungUp = false) (calm : c.interrupted = false)
    {count : Nat} (accepted : accepts codec (c.written.take count) = true) :
    c.Holds message text := by
  have first := good.first up calm
  cases handled : c.handled with
  | cons head tail =>
      rw [Conn.messages, handled] at first
      exact ⟨head, first head rfl, .inl (by simp [handled])⟩
  | nil =>
      have opening := good.opening handled
      have part : c.written <+: ack → c.written.take count = ack := by
        intro sub
        by_contra proper
        have refused := sendable.accepts_part ((List.take_prefix _ _).trans sub) proper
        exact Bool.false_ne_true (refused.symm.trans accepted)
      have whole : c.written <+: ack → c.written = ack := fun sub =>
        sub.eq_of_length_le (part sub ▸ List.length_take_le' _ _)
      cases phase : c.phase with
      | reading data =>
          simp only [Conn.Opening, phase] at opening
          have silent := part (opening.2 ▸ List.nil_prefix)
          rw [opening.2, List.take_nil] at silent
          exact absurd silent (by decide)
      | acking received unsent =>
          simp only [Conn.Opening, phase] at opening
          have all := whole (opening ▸ List.prefix_append _ _)
          have done : unsent = [] := by rwa [all, List.append_right_eq_self] at opening
          simp only [Conn.messages, handled, phase, Phase.received?] at first
          exact ⟨received, first received rfl, .inr (by rw [phase, done])⟩
      | closed =>
          simp only [Conn.Opening, phase] at opening
          exact absurd (whole opening.1) opening.2

end EdgeGateway.Tcp
