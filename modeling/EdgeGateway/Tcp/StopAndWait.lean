import EdgeGateway.Tcp.Connection

/-!
A stop-and-wait client on one connection.

The client puts one frame at a time on the wire, each with its newline, and sends
the next when the acknowledgements of all earlier ones have arrived. The handler
reads in chunks of any size the limit allows.

`_read_message` stops at the size limit, wherever in a frame that is, and leaves
the rest of the frame to the next call. `accepted_of_run` says when the messages
the handler accepts are the frames all the same.
-/

namespace EdgeGateway.Tcp

open EdgeGateway.Lib EdgeGateway.Mqtt

/-! ### The client and its connection -/

structure StopAndWait where
  conn : Conn
  /-- the frames put on the wire -/
  sent : List Bytes
  unsent : List Bytes
  /-- the socket of the handler raised -/
  failed : Bool
deriving Repr

inductive Talk where
  /-- the client sends its next frame -/
  | send
  /-- the client has sent all frames and closes its end -/
  | hangUp
  /-- the handler makes a step -/
  | handler (act : HandlerAct)
deriving DecidableEq, Repr

/-- One step. No timeout fires. -/
def StopAndWait.step (cfg : Config) (codec : Codec) (w : StopAndWait) : Talk → Option StopAndWait
  | .send =>
      match w.unsent with
      | [] => none
      | frame :: unsent =>
          if w.sent.length * ack.length ≤ w.conn.written.length then
            some { w with
              conn := { w.conn with wire := w.conn.wire ++ (frame ++ [newline]) }
              sent := w.sent ++ [frame]
              unsent := unsent }
          else none
  | .hangUp => if w.unsent = [] then some { w with conn := w.conn.hangUp } else none
  | .handler .timeout => none
  | .handler act =>
      (w.conn.step cfg codec [] act).map fun conn =>
        { w with conn := conn, failed := w.failed || act = .reset }

def stopAndWait (cfg : Config) (codec : Codec) (frames : List Bytes) : System StopAndWait Talk :=
  ⟨⟨.fresh, [], frames, false⟩, StopAndWait.step cfg codec⟩

/-- The messages acknowledged or processed, as they were read. -/
def Conn.accepted (c : Conn) : List Bytes := c.messages.map Received.data

/-! ### Which frames stay in step -/

/-- The handler closes the connection on such a message. -/
def Refused (codec : Codec) (data : Bytes) : Prop :=
  data = [] ∨ ∃ exc, validate codec data = .error exc

/-- With a parser that raises nothing but `ValueError`, that is what does not decode. -/
theorem refused_iff {codec : Codec} (parses : Codec.Parses codec) {data : Bytes} :
    Refused codec data ↔ data = [] ∨ Utf8.decode? (rstrip data) = none :=
  or_congr_right (validate_error_iff parses)

/-- The frame is shorter than the limit and the handler accepts it. -/
structure Kept (cfg : Config) (codec : Codec) (frame : Bytes) : Prop where
  short : frame.length < cfg.maxMessageSize
  accepted : ¬ Refused codec frame

/-- The first frame that is not kept is not above the limit, unless the handler
refuses the part of it up to the limit. -/
def Orderly (cfg : Config) (codec : Codec) (frames : List Bytes) : Prop :=
  ∀ before frame after, frames = before ++ frame :: after → (∀ f ∈ before, Kept cfg codec f) →
    frame.length ≤ cfg.maxMessageSize ∨ Refused codec (frame.take cfg.maxMessageSize)

/-- The messages are the first of the frames, and none behind a frame that is not kept. -/
structure InStep (cfg : Config) (codec : Codec) (frames messages : List Bytes) : Prop where
  sub : messages <+: frames
  first : ∀ before frame after, frames = before ++ frame :: after → ¬ Kept cfg codec frame →
    messages <+: before ++ [frame]

variable {cfg : Config} {codec : Codec} {frames : List Bytes}

theorem orderly_of_kept (kept : ∀ f ∈ frames, Kept cfg codec f) : Orderly cfg codec frames := by
  rintro before frame after rfl -
  exact .inl (kept frame (by simp)).short.le

/-- The first frame that is not kept decides. -/
theorem orderly_of_first {before after : List Bytes} {frame : Bytes}
    (split : frames = before ++ frame :: after)
    (kept : ∀ f ∈ before, Kept cfg codec f) (notKept : ¬ Kept cfg codec frame)
    (fine : frame.length ≤ cfg.maxMessageSize ∨ Refused codec (frame.take cfg.maxMessageSize)) :
    Orderly cfg codec frames := by
  intro before' frame' after' split' kept'
  rcases List.append_eq_append_iff.mp (split.symm.trans split') with
    ⟨more, longer, rest⟩ | ⟨more, shorter, rest⟩
  · cases more with
    | nil => exact (List.cons.inj rest).1 ▸ fine
    | cons f more =>
        obtain ⟨rfl, -⟩ := List.cons.inj rest
        exact absurd (kept' frame (by simp [longer])) notKept
  · cases more with
    | nil => exact (List.cons.inj rest).1 ▸ fine
    | cons f more =>
        obtain ⟨rfl, -⟩ := List.cons.inj rest
        exact .inl (kept frame' (by simp [shorter])).short.le

/-- With no room for a message nothing is accepted. -/
theorem orderly_of_no_room (none : cfg.maxMessageSize = 0) : Orderly cfg codec frames := by
  intro before frame after _ _
  exact .inr (.inl (by rw [none, List.take_zero]))

theorem InStep.shorter {messages fewer : List Bytes} (sub : fewer <+: messages)
    (inStep : InStep cfg codec frames messages) : InStep cfg codec frames fewer :=
  ⟨sub.trans inStep.sub, fun before frame after split notKept =>
    sub.trans (inStep.first before frame after split notKept)⟩

/-- Frames that were all kept. -/
theorem InStep.of_kept {messages : List Bytes} (sub : messages <+: frames)
    (kept : ∀ f ∈ messages, Kept cfg codec f) : InStep cfg codec frames messages := by
  refine ⟨sub, fun before frame after split notKept => ?_⟩
  have upTo : before ++ [frame] <+: frames := ⟨after, by rw [split, List.append_assoc]; rfl⟩
  rcases List.prefix_or_prefix_of_prefix sub upTo with fewer | more
  · exact fewer
  · exact absurd (kept frame (more.subset (by simp))) notKept

/-- One frame may follow, whatever it is. -/
theorem InStep.concat {messages : List Bytes} {frame : Bytes}
    (sub : messages ++ [frame] <+: frames) (kept : ∀ f ∈ messages, Kept cfg codec f) :
    InStep cfg codec frames (messages ++ [frame]) := by
  refine ⟨sub, fun before frame' after split notKept => ?_⟩
  have upTo : before ++ [frame'] <+: frames := ⟨after, by rw [split, List.append_assoc]; rfl⟩
  rcases List.prefix_or_prefix_of_prefix sub upTo with fewer | more
  · exact fewer
  · rcases List.prefix_concat_iff.mp more with same | earlier
    · rw [same]
    · exact absurd (kept frame' (earlier.subset (by simp))) notKept

/-! ### What the handler accepts -/

theorem Conn.accepted_reading {data : Bytes} {c : Conn} (phase : c.phase = .reading data) :
    c.accepted = c.handled.map Received.data := by
  simp [Conn.accepted, Conn.messages, phase, Phase.received?]

theorem Conn.accepted_acking {received : Received} {unsent : Bytes} {c : Conn}
    (phase : c.phase = .acking received unsent) :
    c.accepted = c.handled.map Received.data ++ [received.data] := by
  simp [Conn.accepted, Conn.messages, phase, Phase.received?]

theorem Conn.accepted_closed {c : Conn} (phase : c.phase = .closed) :
    c.accepted = c.handled.map Received.data := by
  simp [Conn.accepted, Conn.messages, phase, Phase.received?]

theorem Conn.message_refused {data : Bytes} (refused : Refused codec data) (c : Conn) :
    c.message codec data = { c with phase := .closed } := by
  unfold Conn.message
  rcases refused with empty | invalid
  · rw [if_pos empty]
  · rw [receive_eq_none_iff.mpr invalid]
    split <;> rfl

theorem Conn.message_accepted {data : Bytes} (accepted : ¬ Refused codec data) (c : Conn) :
    ∃ received, received.data = data ∧
      c.message codec data = { c with phase := .acking received ack } := by
  obtain ⟨nonempty, valid⟩ := not_or.mp accepted
  cases read : receive codec data with
  | none => exact absurd (receive_eq_none_iff.mp read) valid
  | some received =>
      refine ⟨received, (receive_spec read).1, ?_⟩
      rw [Conn.message, if_neg nonempty, read]

/-- A read takes no more than the room that is left. -/
theorem Conn.read_fits {text data : Bytes} {c c' : Conn} {count : Nat}
    (phase : c.phase = .reading data)
    (step : c.step cfg codec text (.read count) = some c') :
    data.length + count ≤ cfg.maxMessageSize := by
  simp only [Conn.step, phase] at step
  split at step
  · omega
  · cases step

/-- The part of the acknowledgement still to write. -/
def Phase.unsent : Phase → Bytes
  | .acking _ unsent => unsent
  | _ => []

/-- No more is written than the acknowledgements of what was accepted. -/
def Conn.Acked (c : Conn) : Prop :=
  c.phase ≠ .closed → c.written.length + c.phase.unsent.length ≤ ack.length * c.accepted.length

/-- A message that was read: the handler closes, or it accepts the message. -/
theorem Conn.message_spec {before : Bytes} {c : Conn} (phase : c.phase = .reading before)
    (data : Bytes) :
    (c.message codec data).wire = c.wire ∧ (c.message codec data).hungUp = c.hungUp ∧
      (c.message codec data).written = c.written ∧
      (Refused codec data ∧ (c.message codec data).phase = .closed ∧
          (c.message codec data).accepted = c.accepted ∨
        ¬ Refused codec data ∧ (∃ received, (c.message codec data).phase = .acking received ack) ∧
          (c.message codec data).accepted = c.accepted ++ [data]) := by
  by_cases refused : Refused codec data
  · rw [Conn.message_refused refused]
    refine ⟨rfl, rfl, rfl, .inl ⟨refused, rfl, ?_⟩⟩
    rw [Conn.accepted_closed rfl, Conn.accepted_reading phase]
  · obtain ⟨received, rfl, accepts⟩ := @Conn.message_accepted codec data refused c
    rw [accepts]
    refine ⟨rfl, rfl, rfl, .inr ⟨refused, ⟨received, rfl⟩, ?_⟩⟩
    rw [Conn.accepted_acking rfl, Conn.accepted_reading phase]

/-- What a handler step can be while no timeout fires. -/
inductive Conn.Goes (cfg : Config) (codec : Codec) (c : Conn) : HandlerAct → Conn → Prop where
  /-- a chunk without a newline -/
  | more {data chunk rest : Bytes} {count : Nat} {c' : Conn} : c.phase = .reading data →
      c.wire = chunk ++ rest → newline ∉ chunk → (data ++ chunk).length ≤ cfg.maxMessageSize →
      c'.phase = .reading (data ++ chunk) → c'.wire = rest → c'.accepted = c.accepted →
      c'.written = c.written → c'.hungUp = c.hungUp → Conn.Goes cfg codec c (.read count) c'
  /-- a chunk with a newline completes a message -/
  | line {data chunk rest : Bytes} {count : Nat} {mid : Conn} : c.phase = .reading data →
      c.wire = chunk ++ rest → newline ∈ chunk → (data ++ chunk).length ≤ cfg.maxMessageSize →
      mid.phase = .reading data → mid.wire = rest → mid.accepted = c.accepted →
      mid.written = c.written → mid.hungUp = c.hungUp →
      Conn.Goes cfg codec c (.read count) (mid.message codec (beforeNewline (data ++ chunk)))
  /-- the limit, or the end of the stream, completes a message -/
  | stop {data : Bytes} {act : HandlerAct} : c.phase = .reading data →
      cfg.maxMessageSize ≤ data.length ∨ c.hungUp = true ∧ c.wire = [] →
      Conn.Goes cfg codec c act (c.message codec data)
  | reset {c' : Conn} : c'.phase = .closed → c'.handled = c.handled → c'.hungUp = c.hungUp →
      Conn.Goes cfg codec c .reset c'
  /-- the acknowledgement goes out, or the message is processed -/
  | acks {act : HandlerAct} {c' : Conn} : c.phase ≠ .closed → c.phase.data = [] →
      c'.phase ≠ .closed → c'.phase.data = [] →
      c'.wire = c.wire → c'.accepted = c.accepted → c'.hungUp = c.hungUp →
      c'.written.length + c'.phase.unsent.length = c.written.length + c.phase.unsent.length →
      Conn.Goes cfg codec c act c'

theorem Conn.goes {c c' : Conn} {act : HandlerAct} (inTime : act ≠ .timeout)
    (step : c.step cfg codec [] act = some c') : Conn.Goes cfg codec c act c' := by
  cases Conn.step_takes step with
  | @read data count phase short positive sent =>
      have room := Conn.read_fits phase step
      have fits : (data ++ c.wire.take count).length ≤ cfg.maxMessageSize := by
        rw [List.length_append, List.length_take]
        omega
      have wire := (List.take_append_drop count c.wire).symm
      split
      · exact .line phase wire (by assumption) fits phase rfl rfl rfl rfl
      · refine .more phase wire (by assumption) fits rfl rfl ?_ rfl rfl
        rw [Conn.accepted_reading rfl, Conn.accepted_reading phase]
  | timeout phase short => exact absurd rfl inTime
  | endOfStream phase short hungUp rest => exact .stop phase (.inr ⟨hungUp, rest⟩)
  | full phase limit => exact .stop phase (.inl limit)
  | reset unwritten => exact .reset rfl rfl rfl
  | @flush received unsent count phase positive left =>
      refine .acks (by simp [phase]) (by rw [phase]; rfl) nofun rfl rfl ?_ rfl ?_
      · rw [Conn.accepted_acking rfl, Conn.accepted_acking phase]
      · simp only [phase, Phase.unsent, List.length_append, List.length_take, List.length_drop]
        omega
  | proceed phase =>
      refine .acks (by simp [phase]) (by rw [phase]; rfl) nofun rfl rfl ?_ rfl (by rw [phase]; rfl)
      rw [Conn.accepted_reading rfl, Conn.accepted_acking phase, List.map_append]
      rfl

theorem Conn.Acked.of_message {before : Bytes} {c : Conn} (acked : c.Acked)
    (phase : c.phase = .reading before) (data : Bytes) : (c.message codec data).Acked := by
  have sofar := acked (by simp [phase])
  obtain ⟨-, -, written, ⟨-, closed, -⟩ | ⟨-, ⟨received, acking⟩, accepted⟩⟩ :=
    @Conn.message_spec codec before c phase data
  · exact fun isOpen => absurd closed isOpen
  · intro _
    rw [written, acking, accepted, List.length_append, List.length_singleton, Nat.mul_add,
      Nat.mul_one]
    simp only [phase, Phase.unsent, List.length_nil] at sofar ⊢
    omega

theorem Conn.Acked.step {c c' : Conn} {act : HandlerAct} (acked : c.Acked)
    (goes : Conn.Goes cfg codec c act c') : c'.Acked := by
  cases goes with
  | more phase wire plain fits phase' wire' accepted written hungUp =>
      intro _
      have sofar := acked (by simp [phase])
      rw [written, accepted, phase']
      rwa [phase] at sofar
  | line phase wire ends fits phase' wire' accepted written hungUp =>
      refine Conn.Acked.of_message (fun _ => ?_) phase' _
      have sofar := acked (by simp [phase])
      rw [written, accepted, phase']
      rwa [phase] at sofar
  | stop phase why => exact acked.of_message phase _
  | reset closed handled hungUp => exact fun isOpen => absurd closed isOpen
  | acks isOpen data isOpen' data' wire accepted hungUp sum =>
      intro _
      rw [accepted, sum]
      exact acked isOpen

/-! ### The frames of the client and the messages of the handler -/

/-- The client has frames to send while its end is open. -/
structure StopAndWait.Sane (frames : List Bytes) (w : StopAndWait) : Prop where
  all : w.sent ++ w.unsent = frames
  last : w.conn.hungUp = true → w.unsent = []
  acked : w.conn.Acked

/-- Every frame sent was kept, and nothing is on the wire. -/
structure StopAndWait.Waiting (cfg : Config) (codec : Codec) (w : StopAndWait) : Prop where
  isOpen : w.conn.phase ≠ .closed
  data : w.conn.phase.data = []
  wire : w.conn.wire = []
  accepted : w.conn.accepted = w.sent
  kept : ∀ f ∈ w.sent, Kept cfg codec f

/-- The handler reads `frame`, and kept all earlier ones. -/
structure StopAndWait.Inside (cfg : Config) (codec : Codec) (before : List Bytes)
    (frame : Bytes) (w : StopAndWait) : Prop where
  isOpen : w.conn.phase ≠ .closed
  sent : w.sent = before ++ [frame]
  whole : w.conn.phase.data ++ w.conn.wire = frame ++ [newline]
  plain : newline ∉ w.conn.phase.data
  within : w.conn.phase.data.length ≤ cfg.maxMessageSize
  accepted : w.conn.accepted = before
  kept : ∀ f ∈ before, Kept cfg codec f

/-- Where the handler is in the frames of the client. -/
inductive StopAndWait.Fate (cfg : Config) (codec : Codec) (frames : List Bytes)
    (w : StopAndWait) : Prop where
  | waiting (waiting : w.Waiting cfg codec)
  | inside {before : List Bytes} {frame : Bytes} (inside : w.Inside cfg codec before frame)
  /-- a frame of exactly the limit was accepted, and its newline is still to come -/
  | leftover {rest : Bytes} (isOpen : w.conn.phase ≠ .closed) (data : w.conn.phase.data = [])
      (wire : w.conn.wire = newline :: rest) (accepted : InStep cfg codec frames w.conn.accepted)
      (orderly : Orderly cfg codec frames)
  | stopped (closed : w.conn.phase = .closed) (accepted : InStep cfg codec frames w.conn.accepted)
      (orderly : w.failed = false → Orderly cfg codec frames)
  /-- a part of a frame was accepted -/
  | derailed (disorderly : ¬ Orderly cfg codec frames)
      (wrong : w.failed = false → ¬ w.conn.accepted <+: frames)

/-- The three kinds of step. -/
theorem StopAndWait.step_cases {w w' : StopAndWait} {talk : Talk}
    (step : w.step cfg codec talk = some w') :
    (∃ frame unsent, talk = .send ∧ w.unsent = frame :: unsent ∧
        w.sent.length * ack.length ≤ w.conn.written.length ∧
        w' = ⟨{ w.conn with wire := w.conn.wire ++ (frame ++ [newline]) },
          w.sent ++ [frame], unsent,
          w.failed⟩) ∨
      (talk = .hangUp ∧ w.unsent = [] ∧ w' = { w with conn := w.conn.hangUp }) ∨
      ∃ act conn, talk = .handler act ∧ Conn.Goes cfg codec w.conn act conn ∧
        w' = { w with conn := conn, failed := w.failed || act = .reset } := by
  cases talk with
  | send =>
      simp only [StopAndWait.step] at step
      split at step
      · cases step
      · rename_i frame unsent rest
        split at step
        · exact .inl ⟨frame, unsent, rfl, rest, by assumption, (Option.some.inj step).symm⟩
        · cases step
  | hangUp =>
      simp only [StopAndWait.step] at step
      split at step
      · exact .inr (.inl ⟨rfl, by assumption, (Option.some.inj step).symm⟩)
      · cases step
  | handler act =>
      have inTime : act ≠ .timeout := by
        rintro rfl
        cases step
      have ran : ((w.conn.step cfg codec [] act).map fun conn =>
          { w with conn := conn, failed := w.failed || act = .reset }) = some w' := by
        cases act <;> first | exact step | exact absurd rfl inTime
      obtain ⟨conn, stepped, rfl⟩ := Option.map_eq_some_iff.mp ran
      exact .inr (.inr ⟨act, conn, rfl, Conn.goes inTime stepped, rfl⟩)

theorem Conn.Goes.hungUp_eq {c c' : Conn} {act : HandlerAct} (goes : Conn.Goes cfg codec c act c') :
    c'.hungUp = c.hungUp := by
  cases goes with
  | more _ _ _ _ _ _ _ _ hungUp => exact hungUp
  | line phase wire ends fits phase' wire' accepted written hungUp =>
      obtain ⟨-, kept, -⟩ := @Conn.message_spec codec _ _ phase' _
      exact kept.trans hungUp
  | stop phase why => exact (@Conn.message_spec codec _ _ phase _).2.1
  | reset closed handled hungUp => exact hungUp
  | acks _ _ _ _ _ _ hungUp _ => exact hungUp

theorem StopAndWait.Sane.step {w w' : StopAndWait} {talk : Talk} (sane : w.Sane frames)
    (step : w.step cfg codec talk = some w') : w'.Sane frames := by
  rcases StopAndWait.step_cases step with ⟨frame, unsent, -, rest, -, rfl⟩ | ⟨-, none, rfl⟩ |
    ⟨act, conn, -, goes, rfl⟩
  · refine ⟨?_, fun hungUp => ?_, sane.acked⟩
    · rw [← sane.all, rest, List.append_assoc]
      rfl
    · have none := sane.last hungUp
      rw [rest] at none
      cases none
  · exact ⟨sane.all, fun _ => none, sane.acked⟩
  · exact ⟨sane.all, fun hungUp => sane.last (goes.hungUp_eq ▸ hungUp), sane.acked.step goes⟩

/-! ### One step -/

/-- The client sends its next frame. -/
theorem StopAndWait.Fate.send {w : StopAndWait} {frame : Bytes} {unsent : List Bytes}
    (sane : w.Sane frames) (fate : w.Fate cfg codec frames)
    (arrived : w.sent.length * ack.length ≤ w.conn.written.length) :
    StopAndWait.Fate cfg codec frames
      ⟨{ w.conn with wire := w.conn.wire ++ (frame ++ [newline]) }, w.sent ++ [frame], unsent,
        w.failed⟩ := by
  cases fate with
  | waiting waiting =>
      refine .inside ⟨waiting.isOpen, rfl, ?_, ?_, ?_, waiting.accepted, waiting.kept⟩
      · rw [waiting.data, waiting.wire]
        rfl
      · rw [waiting.data]
        exact List.not_mem_nil
      · rw [waiting.data]
        exact Nat.zero_le _
  | @inside before current inside =>
      -- The acknowledgement of the frame being read has not been written.
      exfalso
      have most := sane.acked inside.isOpen
      rw [inside.accepted] at most
      rw [inside.sent, List.length_append, List.length_singleton, Nat.add_mul, Nat.one_mul,
        Nat.mul_comm] at arrived
      have some : 0 < ack.length := by decide
      omega
  | @leftover more isOpen data wire accepted orderly =>
      have longer :
          w.conn.wire ++ (frame ++ [newline]) = newline :: (more ++ (frame ++ [newline])) := by
        rw [wire]
        rfl
      exact .leftover isOpen data longer accepted orderly
  | stopped closed accepted orderly => exact .stopped closed accepted orderly
  | derailed disorderly wrong => exact .derailed disorderly wrong

/-- The client closes its end. -/
theorem StopAndWait.Fate.hangUp {w : StopAndWait} (fate : w.Fate cfg codec frames) :
    StopAndWait.Fate cfg codec frames { w with conn := w.conn.hangUp } := by
  cases fate with
  | waiting waiting =>
      exact .waiting ⟨waiting.isOpen, waiting.data, waiting.wire, waiting.accepted, waiting.kept⟩
  | inside inside =>
      exact .inside ⟨inside.isOpen, inside.sent, inside.whole, inside.plain, inside.within,
        inside.accepted, inside.kept⟩
  | leftover isOpen data wire accepted orderly => exact .leftover isOpen data wire accepted orderly
  | stopped closed accepted orderly => exact .stopped closed accepted orderly
  | derailed disorderly wrong => exact .derailed disorderly wrong

theorem Conn.handled_prefix (c : Conn) : c.handled.map Received.data <+: c.accepted := by
  rw [Conn.accepted, Conn.messages, List.map_append]
  exact List.prefix_append _ _

/-- Without an error nothing accepted is taken back. -/
theorem Conn.Goes.accepted_prefix {c c' : Conn} {act : HandlerAct}
    (goes : Conn.Goes cfg codec c act c')
    (noError : act ≠ .reset) : c.accepted <+: c'.accepted := by
  have message {data : Bytes} {mid : Conn} (phase : mid.phase = .reading data) (read : Bytes) :
      mid.accepted <+: (mid.message codec read).accepted := by
    obtain ⟨-, -, -, ⟨-, -, same⟩ | ⟨-, -, more⟩⟩ := @Conn.message_spec codec data mid phase read
    · rw [same]
    · rw [more]
      exact List.prefix_append _ _
  cases goes with
  | more _ _ _ _ _ _ accepted _ _ => rw [accepted]
  | line _ _ _ _ phase' _ accepted _ _ => exact accepted ▸ message phase' _
  | stop phase _ => exact message phase _
  | reset _ _ _ => exact absurd rfl noError
  | acks _ _ _ _ _ accepted _ _ => rw [accepted]

/-- The handler of a client whose frames were all kept. -/
theorem StopAndWait.Waiting.handler {w : StopAndWait} {act : HandlerAct} {conn : Conn}
    (sane : w.Sane frames) (waiting : w.Waiting cfg codec)
    (goes : Conn.Goes cfg codec w.conn act conn) :
    StopAndWait.Fate cfg codec frames
      { w with conn := conn, failed := w.failed || act = .reset } := by
  have inStep : InStep cfg codec frames w.conn.accepted := by
    rw [waiting.accepted]
    exact .of_kept (sane.all ▸ List.prefix_append _ _) waiting.kept
  cases goes with
  | @more data chunk rest _ _ phase wire plain fits phase' wire' accepted written hungUp =>
      obtain ⟨rfl, rfl⟩ := List.append_eq_nil_iff.mp (wire.symm.trans waiting.wire)
      have none := waiting.data
      rw [phase] at none
      refine .waiting ⟨by simp [phase'], ?_, wire', accepted.trans waiting.accepted, waiting.kept⟩
      rw [phase', List.append_nil]
      exact none
  | line phase wire ends fits phase' wire' accepted written hungUp =>
      obtain ⟨rfl, -⟩ := List.append_eq_nil_iff.mp (wire.symm.trans waiting.wire)
      cases ends
  | @stop data _ phase why =>
      obtain rfl : data = [] := by simpa [phase, Phase.data] using waiting.data
      obtain ⟨-, -, -, ⟨-, closed, same⟩ | ⟨refuses, -, -⟩⟩ := @Conn.message_spec codec _ _ phase []
      · refine .stopped closed (same ▸ inStep) fun _ => ?_
        rcases why with noRoom | ⟨hungUp, -⟩
        · exact orderly_of_no_room (Nat.le_zero.mp noRoom)
        · have whole := sane.all
          rw [sane.last hungUp, List.append_nil] at whole
          exact whole ▸ orderly_of_kept waiting.kept
      · exact absurd (.inl rfl) refuses
  | reset closed handled hungUp =>
      refine .stopped closed ?_ (by simp)
      rw [Conn.accepted_closed closed, handled]
      exact inStep.shorter w.conn.handled_prefix
  | acks isOpen data isOpen' data' wire accepted hungUp sum =>
      exact .waiting ⟨isOpen', data', wire.trans waiting.wire, accepted.trans waiting.accepted,
        waiting.kept⟩

theorem StopAndWait.Inside.split {w : StopAndWait} {before : List Bytes} {frame : Bytes}
    (inside : w.Inside cfg codec before frame) (sane : w.Sane frames) :
    frames = before ++ frame :: w.unsent := by
  rw [← sane.all, inside.sent, List.append_assoc]
  rfl

theorem StopAndWait.Inside.inStep {w : StopAndWait} {before : List Bytes} {frame : Bytes}
    (inside : w.Inside cfg codec before frame) (sane : w.Sane frames) :
    InStep cfg codec frames w.conn.accepted := by
  rw [inside.accepted]
  exact .of_kept (inside.split sane ▸ List.prefix_append _ _) inside.kept

/-- The whole frame is read with its newline. -/
theorem StopAndWait.Inside.line {w : StopAndWait} {before : List Bytes}
    {frame data chunk rest : Bytes}
    {mid : Conn} {failed : Bool} (sane : w.Sane frames) (inside : w.Inside cfg codec before frame)
    (oneLine : newline ∉ frame) (phase : w.conn.phase = .reading data)
    (wire : w.conn.wire = chunk ++ rest) (ends : newline ∈ chunk)
    (fits : (data ++ chunk).length ≤ cfg.maxMessageSize) (phase' : mid.phase = .reading data)
    (wire' : mid.wire = rest) (accepted : mid.accepted = w.conn.accepted) :
    StopAndWait.Fate cfg codec frames
      { w with conn := mid.message codec (beforeNewline (data ++ chunk)), failed := failed } := by
  have split := inside.split sane
  have whole := inside.whole
  have plain := inside.plain
  rw [phase] at whole plain
  obtain ⟨pre, post, rfl, prePlain⟩ := List.eq_append_cons_of_mem ends
  have both : newline ∉ data ++ pre := fun mem => (List.mem_append.mp mem).elim plain prePlain
  have cut : (data ++ pre) ++ newline :: (post ++ rest) = frame ++ newline :: [] := by
    rw [← whole, wire]
    simp [Phase.data]
  obtain ⟨rfl, none⟩ := first_split both oneLine cut
  obtain ⟨rfl, rfl⟩ := List.append_eq_nil_iff.mp none
  have message : beforeNewline (data ++ (pre ++ [newline])) = data ++ pre := by
    rw [← List.append_assoc, beforeNewline_append both, beforeNewline_newline, List.append_nil]
  have short : (data ++ pre).length < cfg.maxMessageSize := by
    simp only [List.length_append, List.length_singleton] at fits ⊢
    omega
  rw [message]
  obtain ⟨wire'', -, -, ⟨refused, closed, same⟩ | ⟨accepts, ⟨received, acking⟩, more⟩⟩ :=
    @Conn.message_spec codec _ _ phase' (data ++ pre)
  · refine .stopped closed ?_ fun _ => orderly_of_first split inside.kept
      (fun kept => kept.accepted refused) (.inl short.le)
    rw [same, accepted]
    exact inside.inStep sane
  · refine .waiting ⟨by simp [acking], by simp [acking, Phase.data], wire''.trans wire', ?_, ?_⟩
    · rw [more, accepted, inside.accepted, inside.sent]
    · rw [inside.sent]
      exact List.forall_mem_append.mpr ⟨inside.kept, by simpa using ⟨short, accepts⟩⟩

/-- The limit is reached before the newline. -/
theorem StopAndWait.Inside.limit {w : StopAndWait} {before : List Bytes} {frame data : Bytes}
    {failed : Bool} (sane : w.Sane frames) (inside : w.Inside cfg codec before frame)
    (phase : w.conn.phase = .reading data) (limit : cfg.maxMessageSize ≤ data.length) :
    StopAndWait.Fate cfg codec frames
      { w with conn := w.conn.message codec data, failed := failed } := by
  have split := inside.split sane
  have whole := inside.whole
  have plain := inside.plain
  have within := inside.within
  rw [phase] at whole plain within
  have full : data.length = cfg.maxMessageSize := le_antisymm within limit
  -- The data holds no newline, so it is a part of the frame.
  have part : data = frame.take cfg.maxMessageSize ∧ data.length ≤ frame.length := by
    obtain ⟨more, rfl, -⟩ := prefix_before_last plain whole
    exact ⟨by rw [← full]; exact (List.take_left' rfl).symm, by simp [Phase.data]⟩
  have long : ¬ Kept cfg codec frame := fun kept =>
    absurd kept.short (not_lt.mpr (limit.trans part.2))
  obtain ⟨wire, -, -, ⟨refused, closed, same⟩ | ⟨accepts, ⟨received, acking⟩, more⟩⟩ :=
    @Conn.message_spec codec _ _ phase data
  · refine .stopped closed ?_ fun _ =>
      orderly_of_first split inside.kept long (.inr (part.1 ▸ refused))
    rw [same]
    exact inside.inStep sane
  · by_cases fits : frame.length ≤ cfg.maxMessageSize
    · have isFrame : data = frame := part.1.trans (List.take_of_length_le fits)
      have left : w.conn.wire = newline :: [] := by
        rw [isFrame] at whole
        exact List.append_cancel_left whole
      refine .leftover (by simp [acking]) (by simp [acking, Phase.data]) (wire.trans left) ?_
        (orderly_of_first split inside.kept long (.inl fits))
      rw [more, inside.accepted, isFrame]
      exact .concat ⟨w.unsent, by rw [split, List.append_assoc]; rfl⟩ inside.kept
    · refine .derailed (fun orderly => ?_) fun _ sub => ?_
      · rcases orderly before frame w.unsent split inside.kept with short | refused
        · exact fits short
        · exact accepts (part.1 ▸ refused)
      · rw [more, inside.accepted, split, List.prefix_append_right_inj] at sub
        have same := (List.cons_prefix_cons.mp sub).1
        exact fits (same ▸ full.le)

/-- The handler that reads a frame. -/
theorem StopAndWait.Inside.handler {w : StopAndWait} {before : List Bytes} {frame : Bytes}
    {act : HandlerAct} {conn : Conn} (sane : w.Sane frames)
    (inside : w.Inside cfg codec before frame) (oneLine : newline ∉ frame)
    (goes : Conn.Goes cfg codec w.conn act conn) :
    StopAndWait.Fate cfg codec frames
      { w with conn := conn, failed := w.failed || act = .reset } := by
  cases goes with
  | more phase wire plain fits phase' wire' accepted written hungUp =>
      have whole := inside.whole
      have plain' := inside.plain
      rw [phase] at whole plain'
      refine .inside ⟨by simp [phase'], inside.sent, ?_, ?_, ?_, accepted.trans inside.accepted,
        inside.kept⟩
      · rw [phase', wire', Phase.data, List.append_assoc, ← wire]
        exact whole
      · rw [phase']
        exact fun mem => (List.mem_append.mp mem).elim plain' plain
      · rw [phase']
        exact fits
  | line phase wire ends fits phase' wire' accepted written hungUp =>
      exact inside.line sane oneLine phase wire ends fits phase' wire' accepted
  | stop phase why =>
      rcases why with limit | ⟨-, none⟩
      · exact inside.limit sane phase limit
      · have whole := inside.whole
        rw [none, List.append_nil] at whole
        exact absurd (whole ▸ by simp) inside.plain
  | reset closed handled hungUp =>
      refine .stopped closed ?_ (by simp)
      rw [Conn.accepted_closed closed, handled]
      exact (inside.inStep sane).shorter w.conn.handled_prefix
  | acks isOpen data isOpen' data' wire accepted hungUp sum =>
      have whole := inside.whole
      rw [data, ← wire] at whole
      refine .inside ⟨isOpen', inside.sent, ?_, ?_, ?_, accepted.trans inside.accepted, inside.kept⟩
      · rw [data']
        exact whole
      · rw [data']
        exact List.not_mem_nil
      · rw [data']
        exact Nat.zero_le _

/-- The handler makes a step. -/
theorem StopAndWait.Fate.handler {w : StopAndWait} {act : HandlerAct} {conn : Conn}
    (oneLine : ∀ f ∈ frames, newline ∉ f) (sane : w.Sane frames) (fate : w.Fate cfg codec frames)
    (goes : Conn.Goes cfg codec w.conn act conn) :
    StopAndWait.Fate cfg codec frames
      { w with conn := conn, failed := w.failed || act = .reset } := by
  cases fate with
  | waiting waiting => exact waiting.handler sane goes
  | inside inside =>
      refine inside.handler sane (oneLine _ ?_) goes
      rw [← sane.all, inside.sent]
      simp
  | leftover isOpen data wire accepted orderly =>
      cases goes with
      | @more data' chunk rest _ _ phase wire' plain fits phase' rest' accepted' written hungUp =>
          obtain rfl : data' = [] := by simpa [phase, Phase.data] using data
          cases chunk with
          | nil =>
              exact .leftover (by simp [phase']) (by simp [phase', Phase.data])
                (rest'.trans (wire'.symm.trans wire)) (accepted' ▸ accepted) orderly
          | cons b bs =>
              obtain ⟨rfl, -⟩ := List.cons.inj (wire'.symm.trans wire)
              exact absurd List.mem_cons_self plain
      | @line data' chunk rest _ _ phase wire' ends fits phase' rest' accepted' written hungUp =>
          obtain rfl : data' = [] := by simpa [phase, Phase.data] using data
          cases chunk with
          | nil => cases ends
          | cons b bs =>
              -- The newline left over is an empty message.
              obtain ⟨rfl, -⟩ := List.cons.inj (wire'.symm.trans wire)
              rw [List.nil_append, beforeNewline_newline]
              obtain ⟨-, -, -, ⟨-, closed, same⟩ | ⟨refuses, -, -⟩⟩ :=
                @Conn.message_spec codec _ _ phase' []
              · exact .stopped closed (same ▸ accepted' ▸ accepted) fun _ => orderly
              · exact absurd (.inl rfl) refuses
      | @stop data' _ phase why =>
          obtain rfl : data' = [] := by simpa [phase, Phase.data] using data
          obtain ⟨-, -, -, ⟨-, closed, same⟩ | ⟨refuses, -, -⟩⟩ :=
            @Conn.message_spec codec _ _ phase []
          · exact .stopped closed (same ▸ accepted) fun _ => orderly
          · exact absurd (.inl rfl) refuses
      | reset closed handled hungUp =>
          refine .stopped closed ?_ fun _ => orderly
          rw [Conn.accepted_closed closed, handled]
          exact accepted.shorter w.conn.handled_prefix
      | acks isOpen data isOpen' data' wire' accepted' hungUp sum =>
          exact .leftover isOpen' data' (wire'.trans wire) (accepted' ▸ accepted) orderly
  | stopped closed accepted orderly =>
      cases goes with
      | more phase => simp [closed] at phase
      | line phase => simp [closed] at phase
      | stop phase => simp [closed] at phase
      | reset closed' handled hungUp =>
          refine .stopped closed' ?_ (by simp)
          rw [Conn.accepted_closed closed', handled]
          exact accepted.shorter w.conn.handled_prefix
      | acks isOpen => exact absurd closed isOpen
  | derailed disorderly wrong =>
      refine .derailed disorderly fun noError sub => ?_
      obtain ⟨before, noReset⟩ : w.failed = false ∧ act ≠ .reset := by simpa using noError
      exact wrong before ((goes.accepted_prefix noReset).trans sub)

/-! ### Every run -/

theorem StopAndWait.Fate.step {w w' : StopAndWait} {talk : Talk}
    (oneLine : ∀ f ∈ frames, newline ∉ f)
    (sane : w.Sane frames) (fate : w.Fate cfg codec frames)
    (step : w.step cfg codec talk = some w') :
    w'.Fate cfg codec frames := by
  rcases StopAndWait.step_cases step with ⟨frame, unsent, -, -, arrived, rfl⟩ | ⟨-, -, rfl⟩ |
    ⟨act, conn, -, goes, rfl⟩
  · exact fate.send sane arrived
  · exact fate.hangUp
  · exact fate.handler oneLine sane goes

theorem fate_of_run (oneLine : ∀ f ∈ frames, newline ∉ f) {talks : List Talk} {w : StopAndWait}
    (run : Run (stopAndWait cfg codec frames) talks w) :
    w.Sane frames ∧ w.Fate cfg codec frames :=
  run.invariant (I := fun w => w.Sane frames ∧ w.Fate cfg codec frames)
    ⟨⟨rfl, nofun, fun _ => le_refl _⟩, .waiting ⟨nofun, rfl, rfl, rfl, nofun⟩⟩
    fun _ _ _ ⟨sane, fate⟩ step => ⟨sane.step step, fate.step oneLine sane step⟩

/-- While no part of a frame is accepted, the messages are in step. -/
theorem StopAndWait.Fate.inStep {w : StopAndWait} (sane : w.Sane frames)
    (fate : w.Fate cfg codec frames) (orderly : Orderly cfg codec frames) :
    InStep cfg codec frames w.conn.accepted := by
  cases fate with
  | waiting waiting =>
      rw [waiting.accepted]
      exact .of_kept (sane.all ▸ List.prefix_append _ _) waiting.kept
  | inside inside => exact inside.inStep sane
  | leftover isOpen data wire accepted orderly => exact accepted
  | stopped closed accepted orderly => exact accepted
  | derailed disorderly wrong => exact absurd orderly disorderly

/-- **While no timeout fires, the messages accepted of orderly frames are the frames
in order.** On a connection that came to its end without an error they are so for
no others. -/
theorem accepted_of_run (oneLine : ∀ f ∈ frames, newline ∉ f) {talks : List Talk} {w : StopAndWait}
    (run : Run (stopAndWait cfg codec frames) talks w) :
    (Orderly cfg codec frames → w.conn.accepted <+: frames) ∧
      (w.conn.phase = .closed → w.failed = false →
        (w.conn.accepted <+: frames ↔ Orderly cfg codec frames)) := by
  obtain ⟨sane, fate⟩ := fate_of_run oneLine run
  refine ⟨fun orderly => (fate.inStep sane orderly).sub, fun closed noError =>
    ⟨fun sub => ?_, fun orderly => (fate.inStep sane orderly).sub⟩⟩
  cases fate with
  | waiting waiting => exact absurd closed waiting.isOpen
  | inside inside => exact absurd closed inside.isOpen
  | leftover isOpen data wire accepted orderly => exact orderly
  | stopped closed accepted orderly => exact orderly noError
  | derailed disorderly wrong => exact absurd sub (wrong noError)

end EdgeGateway.Tcp
