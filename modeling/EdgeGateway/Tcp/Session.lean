import EdgeGateway.Tcp.Link

/-!
The steps of a connection's handler make up `handle`.

`handle` takes the reads of a connection all at once; `Conn.step` takes them one
by one, with whatever the client does in between. A connection that ends without
a socket error has processed exactly what `handle` makes of its reads
(`session_handled`).
-/

namespace EdgeGateway.Tcp

open EdgeGateway.Lib EdgeGateway.Mqtt

variable {cfg : Config} {codec : Codec} {text : Bytes}

/-- What a step of the handler gets from `reader.read`. -/
def Conn.got (c : Conn) : HandlerAct → List (Option Bytes)
  | .read count => [some (c.wire.take count)]
  | .timeout => [none]
  | .endOfStream => [some []]
  | .full | .reset | .flush _ | .proceed => []

/-- `Session c reads c'`: the handler goes from `c` to `c'` without a socket error
and reads `reads` on its way, while the client sends and closes as it likes. -/
inductive Session (cfg : Config) (codec : Codec) (text : Bytes) :
    Conn → List (Option Bytes) → Conn → Prop where
  | stop {c : Conn} : Session cfg codec text c [] c
  | handler {c mid c' : Conn} {act : HandlerAct} {reads : List (Option Bytes)} :
      act ≠ .reset → c.step cfg codec text act = some mid → Session cfg codec text mid reads c' →
      Session cfg codec text c (c.got act ++ reads) c'
  | client {c c' : Conn} {wire : Bytes} {hungUp : Bool} {reads : List (Option Bytes)} :
      Session cfg codec text { c with wire := wire, hungUp := hungUp } reads c' →
      Session cfg codec text c reads c'

/-- `handle`, with `data` read already. -/
def handleFrom (cfg : Config) (codec : Codec) (data : Bytes) (reads : List (Option Bytes)) :
    List Received :=
  match readMessage cfg data reads with
  | ([], _) => []
  | (b :: bs, later) =>
      match receive codec (b :: bs) with
      | none => []
      | some received => received :: handle cfg codec later

/-- What the handler still processes when it goes on with `reads`. -/
def Phase.handles (cfg : Config) (codec : Codec) (reads : List (Option Bytes)) :
    Phase → List Received
  | .reading data => handleFrom cfg codec data reads
  | .acking received _ => received :: handle cfg codec reads
  | .closed => []

theorem handleFrom_nil (reads : List (Option Bytes)) :
    handleFrom cfg codec [] reads = handle cfg codec reads := (handle_eq cfg codec reads).symm

/-- A message that was read is processed before what follows. -/
theorem handleFrom_message {data message : Bytes} {reads later : List (Option Bytes)} (c : Conn)
    (read : readMessage cfg data reads = (message, later)) :
    c.handled ++ handleFrom cfg codec data reads =
      (c.message codec message).handled ++
        (c.message codec message).phase.handles cfg codec later := by
  unfold handleFrom Conn.message
  rw [read]
  cases message with
  | nil => rfl
  | cons b bs =>
      rw [if_neg (List.cons_ne_nil b bs)]
      dsimp only
      cases receive codec (b :: bs) with
      | none => rfl
      | some received => rfl

/-- A read that completes no message is not the last. -/
theorem readMessage_more {data : Bytes} {chunk : Bytes} (short : data.length < cfg.maxMessageSize)
    (nonempty : chunk ≠ []) (reads : List (Option Bytes)) :
    readMessage cfg data (some chunk :: reads) =
      if newline ∈ chunk then (beforeNewline (data ++ chunk), reads)
      else readMessage cfg (data ++ chunk) reads := by
  cases chunk with
  | nil => exact absurd rfl nonempty
  | cons b bs => simp only [readMessage, short, if_true]

theorem readMessage_full {data : Bytes} (full : cfg.maxMessageSize ≤ data.length)
    (reads : List (Option Bytes)) : readMessage cfg data reads = (data, reads) := by
  cases reads with
  | nil => rfl
  | cons read later => simp only [readMessage, not_lt.mpr full, if_false]

/-- **One step of the handler is one step of `handle`.** -/
theorem Conn.step_handles {c c' : Conn} {act : HandlerAct} (noError : act ≠ .reset)
    (step : c.step cfg codec text act = some c') (reads : List (Option Bytes)) :
    c.handled ++ c.phase.handles cfg codec (c.got act ++ reads) =
      c'.handled ++ c'.phase.handles cfg codec reads := by
  cases Conn.step_takes step with
  | @read data count phase short positive sent =>
      have nonempty : c.wire.take count ≠ [] := by
        intro empty
        have none := congrArg List.length empty
        rw [List.length_take, List.length_nil] at none
        omega
      have next := readMessage_more short nonempty reads
      rw [phase]
      split
      · rename_i ends
        rw [if_pos ends] at next
        refine .trans ?_ (handleFrom_message _ next)
        rfl
      · rename_i goesOn
        rw [if_neg goesOn] at next
        have same : handleFrom cfg codec data (some (c.wire.take count) :: reads) =
            handleFrom cfg codec (data ++ c.wire.take count) reads := by
          unfold handleFrom
          rw [next]
        exact congrArg (c.handled ++ ·) same
  | @timeout data phase short =>
      have read : readMessage cfg data (none :: reads) = (data, reads) := by
        simp only [readMessage, short, if_true]
      rw [phase]
      refine .trans ?_ (handleFrom_message _ read)
      rfl
  | @endOfStream data phase short hungUp rest =>
      have read : readMessage cfg data (some [] :: reads) = (data, reads) := by
        simp only [readMessage, short, if_true]
      rw [phase]
      exact handleFrom_message _ read
  | full phase limit =>
      rw [phase]
      exact handleFrom_message _ (readMessage_full limit reads)
  | reset unwritten => exact absurd rfl noError
  | flush phase positive left =>
      rw [phase]
      rfl
  | proceed phase =>
      rw [phase]
      simp only [Conn.got, Phase.handles, handleFrom_nil, List.nil_append, List.append_assoc,
        List.singleton_append]

/-- **A connection that closes without an error has processed what `handle` makes
of its reads.** -/
theorem session_handled {reads : List (Option Bytes)} {c' : Conn}
    (session : Session cfg codec text .fresh reads c') (closed : c'.phase = .closed) :
    c'.handled = handle cfg codec reads := by
  have all : ∀ c c' reads, Session cfg codec text c reads c' → c'.phase = .closed →
      c.handled ++ c.phase.handles cfg codec reads = c'.handled := by
    intro c c' reads session closed
    induction session with
    | stop => rw [closed, Phase.handles, List.append_nil]
    | handler noError step _ ih => rw [Conn.step_handles noError step, ih closed]
    | client _ ih => exact ih closed
  calc c'.handled
      = handleFrom cfg codec [] reads := (all _ _ _ session closed).symm
    _ = handle cfg codec reads := handleFrom_nil reads

end EdgeGateway.Tcp
