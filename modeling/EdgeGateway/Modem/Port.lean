import EdgeGateway.Lib.Run
import EdgeGateway.Modem.Uart

/-!
The UART as the tasks of the gateway share it.

Health polls, publishes, pings and the event polling each take the lock of
`ModemManager` for one operation. Every operation but `read_mqtt_event` begins by
draining the UART. A step is one thing that can happen next: bytes arrive, a task
takes the lock, the operation that has it polls the UART, or its deadline passes;
so a run is one interleaving of the tasks with the modem's output.

`log` only records which bytes each operation read. No byte is read by two of
them, or lost otherwise (`bytes_conserved`), and each `read_mqtt_event` passes on
at most one event (`Port.Sound`). An operation that is left to itself does what its
loop does on the bytes that arrive (`port_readUntil`).
-/

namespace EdgeGateway.Modem

open EdgeGateway.Lib

/-! ### Operations -/

inductive Op where
  /-- `command` -/
  | command (command : String) (allowError : Bool)
  /-- `command_until` -/
  | commandUntil (command : String) (marker : Text)
  /-- `prompt_upload` -/
  | promptUpload (command : String) (data : Bytes)
  /-- `read_mqtt_event` -/
  | readEvent
  /-- the exchange in `test_internet` -/
  | ping (command : String)
deriving DecidableEq, Repr

/-- The line the operation writes once it has drained the UART. -/
def Op.line : Op → Option String
  | .command line _ => some line
  | .commandUntil line _ => some line
  | .promptUpload line _ => some line
  | .readEvent => none
  | .ping line => some line

/-- The operation that has the lock. -/
structure Busy where
  op : Op
  /-- read by `_drain_uart` -/
  drained : Bytes
  /-- read by the polls so far -/
  taken : Bytes
  /-- `prompt_upload` has seen its prompt -/
  prompted : Bool
  response : Bytes
deriving Repr

/-- What `_read_until` waits for. -/
def Busy.marker (b : Busy) : Text :=
  match b.op with
  | .commandUntil _ marker => marker
  | .promptUpload _ _ => if b.prompted then "\r\nOK\r\n".toList else ">".toList
  | _ => []

/-- One poll of the loop the operation is in. -/
def Busy.feed (b : Busy) (chunk : Bytes) : Progress :=
  match b.op with
  | .command command allowError => feedCommand command allowError b.response chunk
  | .commandUntil _ _ => feedUntil b.marker b.response chunk
  | .promptUpload _ _ => feedUntil b.marker b.response chunk
  | .readEvent => feedEvent b.response chunk
  | .ping _ => feedPing b.response chunk

/-- What an operation returns, `none` for `None`, or raises. -/
abbrev Outcome := Except PyError (Option Text)

/-- The outcome when the deadline passes. -/
def Busy.timeout (b : Busy) : Outcome :=
  match b.op with
  | .command command _ => .error (.osError (command ++ " timed out"))
  | .commandUntil _ _ =>
      .error (.osError ("modem response timeout waiting for " ++ String.ofList b.marker))
  | .promptUpload _ _ =>
      .error (.osError ("modem response timeout waiting for " ++ String.ofList b.marker))
  | .readEvent => .ok none
  | .ping _ => .ok (some (Utf8.decodeIgnore b.response))

/-- An operation that gave the lock back. -/
structure Exchange where
  op : Op
  drained : Bytes
  taken : Bytes
  outcome : Outcome

/-- What `start` of `MQTTManager` passes to `_handle_event`. -/
def Exchange.passed (e : Exchange) : Option Text :=
  match e.op, e.outcome with
  | .readEvent, .ok event => event
  | _, _ => none

/-! ### The port -/

structure Port where
  uart : Uart
  /-- `MQTTManager.connected` -/
  connected : Bool
  busy : Option Busy
  log : List Exchange
  /-- the events passed to `_handle_event` -/
  handled : List Text

inductive Input where
  /-- the modem writes -/
  | arrive (bytes : Bytes)
  /-- the MQTT loop connects, or fails -/
  | connected (value : Bool)
  /-- a task takes the lock -/
  | start (op : Op)
  | poll
  | expire
deriving DecidableEq, Repr

/-- The operation ends, and an event goes to `_handle_event` at once. -/
def Port.finish (p : Port) (b : Busy) (outcome : Outcome) : Port :=
  let e : Exchange := ⟨b.op, b.drained, b.taken, outcome⟩
  { p with busy := none, log := p.log ++ [e], handled := p.handled ++ e.passed.toList }

def Port.poll (p : Port) (b : Busy) : Port :=
  let (chunk, uart) := p.uart.read
  let p := { p with uart := uart }
  let seen := { b with taken := b.taken ++ chunk }
  match b.feed chunk with
  | .more response => { p with busy := some { seen with response := response } }
  | .raised exc => p.finish seen (.error exc)
  | .returned text =>
      match b.op, b.prompted with
      | .promptUpload _ data, false =>
          { p with
            uart := p.uart.write data
            busy := some { seen with prompted := true, response := [] } }
      | _, _ => p.finish seen (.ok (some text))

/-- One step. Events are polled for only while the MQTT loop is connected. -/
def Port.step (p : Port) : Input → Option Port
  | .arrive bytes => some { p with uart := p.uart.receive bytes }
  | .connected value => some { p with connected := value }
  | .start op =>
      match p.busy, op.line with
      | none, some command =>
          some { p with
            uart := p.uart.drain.write (Utf8.encode (command ++ "\r\n").toList)
            busy := some ⟨op, p.uart.rx, [], false, []⟩ }
      | none, none =>
          if p.connected then some { p with busy := some ⟨op, [], [], false, []⟩ } else none
      | some _, _ => none
  | .poll => p.busy.map p.poll
  | .expire => p.busy.map fun b => p.finish b b.timeout

/-- The tasks on the UART, before the first operation. -/
def port : System Port Input := ⟨⟨⟨[], []⟩, false, none, [], []⟩, Port.step⟩

/-! ### Every byte goes to one operation -/

def Input.bytes : Input → Bytes
  | .arrive bytes => bytes
  | _ => []

def Exchange.bytes (e : Exchange) : Bytes := e.drained ++ e.taken

/-- Read by the operation that has the lock, or not read yet. -/
def Port.pending (p : Port) : Bytes :=
  (match p.busy with
    | some b => b.drained ++ b.taken
    | none => []) ++ p.uart.rx

theorem Port.finish_bytes (p : Port) (b : Busy) (outcome : Outcome) :
    (p.finish b outcome).log.flatMap Exchange.bytes ++ (p.finish b outcome).pending =
      p.log.flatMap Exchange.bytes ++ (b.drained ++ b.taken ++ p.uart.rx) := by
  simp [Port.finish, Port.pending, Exchange.bytes]

theorem Port.poll_bytes (p : Port) (b : Busy) :
    (p.poll b).log.flatMap Exchange.bytes ++ (p.poll b).pending =
      p.log.flatMap Exchange.bytes ++ (b.drained ++ b.taken ++ p.uart.rx) := by
  unfold Port.poll
  simp only [Uart.read]
  split
  · simp [Port.pending]
  · rw [Port.finish_bytes]
    simp
  · split
    · simp [Port.pending, Uart.write]
    · rw [Port.finish_bytes]
      simp

/-- A step adds the bytes that arrive, and moves the others. -/
theorem Port.step_bytes {p p' : Port} {i : Input} (step : p.step i = some p') :
    p'.log.flatMap Exchange.bytes ++ p'.pending =
      p.log.flatMap Exchange.bytes ++ p.pending ++ i.bytes := by
  cases i with
  | arrive bytes =>
      obtain rfl := Option.some.inj step
      simp [Port.pending, Uart.receive, Input.bytes]
  | connected value =>
      obtain rfl := Option.some.inj step
      simp [Port.pending, Input.bytes]
  | start op =>
      simp only [Port.step] at step
      split at step
      · rename_i command idle line
        obtain rfl := Option.some.inj step
        simp [Port.pending, idle, Uart.drain, Uart.write, Input.bytes]
      · rename_i idle line
        split at step
        · obtain rfl := Option.some.inj step
          simp [Port.pending, idle, Input.bytes]
        · cases step
      · cases step
  | poll =>
      obtain ⟨b, busy, rfl⟩ := Option.map_eq_some_iff.mp step
      rw [Port.poll_bytes]
      simp [Port.pending, busy, Input.bytes]
  | expire =>
      obtain ⟨b, busy, rfl⟩ := Option.map_eq_some_iff.mp step
      rw [Port.finish_bytes]
      simp [Port.pending, busy, Input.bytes]

/-- **Every byte the modem sent was read by one operation, or by none yet.** -/
theorem bytes_conserved {is : List Input} {p : Port} (run : Run port is p) :
    is.flatMap Input.bytes = p.log.flatMap Exchange.bytes ++ p.pending := by
  induction run with
  | start => rfl
  | next _ step ih =>
      rw [List.flatMap_append, ih, Port.step_bytes step]
      simp

/-! ### What `read_mqtt_event` returns -/

/-- The text ends the loop of `read_mqtt_event`. -/
def endsEvent (text : Text) : Bool :=
  contains "+CMQTTRXSTART:".toList text && contains "+CMQTTRXEND:".toList text

/-- The event in what a call has read. -/
def eventIn (taken : Bytes) : Option Text :=
  let text := Utf8.decodeIgnore taken
  if endsEvent text then some text else none

/-- The events handled are those of the finished calls, and a call returns the
event in what it read. -/
structure Port.Sound (p : Port) : Prop where
  handled : p.handled = p.log.filterMap Exchange.passed
  calls : ∀ e ∈ p.log, e.op = .readEvent → e.drained = [] ∧ e.passed = eventIn e.taken
  polling : ∀ b ∈ p.busy, b.op = .readEvent →
    b.drained = [] ∧ b.response = b.taken ∧ eventIn b.taken = none

theorem Port.Sound.finish {p : Port} (sound : p.Sound) {b : Busy} {outcome : Outcome}
    (call : b.op = .readEvent → b.drained = [] ∧ outcome = .ok (eventIn b.taken)) :
    (p.finish b outcome).Sound where
  handled := by
    simp only [Port.finish, List.filterMap_append, sound.handled]
    cases passed : Exchange.passed ⟨b.op, b.drained, b.taken, outcome⟩ <;> simp [passed]
  calls := by
    intro e mem isCall
    rcases List.mem_append.mp mem with old | new
    · exact sound.calls e old isCall
    · obtain rfl := List.mem_singleton.mp new
      obtain ⟨undrained, returned⟩ := call isCall
      refine ⟨undrained, ?_⟩
      dsimp only at isCall
      simp only [Exchange.passed, isCall, returned]
  polling := fun _ mem => by cases mem

/-- A poll of `read_mqtt_event` returns the event as soon as there is one. -/
theorem feedEvent_cases {taken : Bytes} (silent : eventIn taken = none) (chunk : Bytes) :
    (feedEvent taken chunk = .more (taken ++ chunk) ∧ eventIn (taken ++ chunk) = none) ∨
      ∃ text, feedEvent taken chunk = .returned text ∧ eventIn (taken ++ chunk) = some text := by
  unfold feedEvent
  split
  · rename_i nothing
    rw [nothing, List.append_nil]
    exact .inl ⟨rfl, silent⟩
  · unfold eventIn endsEvent
    dsimp only
    split
    · exact .inr ⟨_, rfl, rfl⟩
    · exact .inl ⟨rfl, rfl⟩

theorem Port.Sound.poll {p : Port} (sound : p.Sound) {b : Busy} (busy : p.busy = some b) :
    (p.poll b).Sound := by
  have moved : ∀ uart : Uart, ({ p with uart := uart } : Port).Sound := fun _ =>
    ⟨sound.handled, sound.calls, sound.polling⟩
  unfold Port.poll
  simp only [Uart.read]
  by_cases isCall : b.op = .readEvent
  · obtain ⟨undrained, same, silent⟩ := sound.polling b busy isCall
    have fed : b.feed p.uart.rx = feedEvent b.taken p.uart.rx := by
      simp only [Busy.feed, isCall, same]
    rcases feedEvent_cases silent p.uart.rx with ⟨more, still⟩ | ⟨text, done, event⟩
    · rw [fed, more]
      refine ⟨sound.handled, sound.calls, ?_⟩
      intro b' mem _
      obtain rfl := Option.some.inj mem
      exact ⟨undrained, rfl, still⟩
    · rw [fed, done]
      simp only [isCall]
      exact (moved _).finish fun _ => ⟨undrained, by rw [event]⟩
  · -- Nothing is claimed of the other operations, and they stay what they are.
    have goesOn : ∀ (uart : Uart) (b' : Busy), b'.op = b.op →
        ({ p with uart := uart, busy := some b' } : Port).Sound := by
      intro uart b' same
      refine ⟨sound.handled, sound.calls, ?_⟩
      intro other mem call
      obtain rfl := Option.some.inj mem
      exact absurd (same ▸ call) isCall
    have ends : ∀ (uart : Uart) (b' : Busy) (outcome : Outcome), b'.op = b.op →
        (({ p with uart := uart } : Port).finish b' outcome).Sound := by
      intro uart b' outcome same
      exact (moved uart).finish fun call => absurd (same ▸ call) isCall
    split
    · exact goesOn _ _ rfl
    · exact ends _ _ _ rfl
    · split
      · exact goesOn _ _ rfl
      · exact ends _ _ _ rfl

theorem Port.Sound.step {p p' : Port} {i : Input} (sound : p.Sound) (step : p.step i = some p') :
    p'.Sound := by
  cases i with
  | arrive bytes =>
      obtain rfl := Option.some.inj step
      exact ⟨sound.handled, sound.calls, sound.polling⟩
  | connected value =>
      obtain rfl := Option.some.inj step
      exact ⟨sound.handled, sound.calls, sound.polling⟩
  | start op =>
      simp only [Port.step] at step
      split at step
      · rename_i command idle line
        obtain rfl := Option.some.inj step
        refine ⟨sound.handled, sound.calls, ?_⟩
        intro b mem isCall
        obtain rfl := Option.some.inj mem
        obtain rfl : op = .readEvent := isCall
        cases line
      · rename_i idle line
        split at step
        · obtain rfl := Option.some.inj step
          refine ⟨sound.handled, sound.calls, ?_⟩
          intro b mem isCall
          obtain rfl := Option.some.inj mem
          exact ⟨rfl, rfl, rfl⟩
        · cases step
      · cases step
  | poll =>
      obtain ⟨b, busy, rfl⟩ := Option.map_eq_some_iff.mp step
      exact sound.poll busy
  | expire =>
      obtain ⟨b, busy, rfl⟩ := Option.map_eq_some_iff.mp step
      apply sound.finish
      intro isCall
      obtain ⟨undrained, -, silent⟩ := sound.polling b busy isCall
      exact ⟨undrained, by simp only [Busy.timeout, isCall, silent]⟩

theorem sound_of_run {is : List Input} {p : Port} (run : Run port is p) : p.Sound :=
  run.invariant ⟨rfl, fun _ mem => (by cases mem), fun _ mem => (by cases mem)⟩
    fun _ _ _ sound step => sound.step step

/-! ### `command_until` on the port -/

/-- The bytes that arrive before each poll, and the deadline behind the last. -/
def pollInputs (arrivals : List Bytes) : List Input :=
  arrivals.flatMap (fun arrival => [.arrive arrival, .poll]) ++ [.expire]

/-- The operation that has the lock ends within the inputs, with `outcome`, and
leaves `uart`. -/
def Port.EndsBy (p : Port) (inputs : List Input) (outcome : Outcome) (uart : Uart) : Prop :=
  ∃ is p' e, is <+: inputs ∧ is.foldlM Port.step p = some p' ∧ p'.busy = none ∧
    p'.log = p.log ++ [e] ∧ e.outcome = outcome ∧ p'.uart = uart

/-- **Left to itself, `command_until` on the port is `readUntil`.** -/
theorem port_readUntil {line : String} {marker : Text} (arrivals : List Bytes) {p : Port} {b : Busy}
    (busy : p.busy = some b) (op : b.op = .commandUntil line marker) :
    p.EndsBy (pollInputs arrivals) ((readUntil marker p.uart b.response arrivals).1.map some)
      (readUntil marker p.uart b.response arrivals).2 := by
  induction arrivals generalizing p b with
  | nil =>
      refine ⟨[.expire], p.finish b b.timeout, _, List.prefix_refl _, ?_, rfl, rfl, ?_, rfl⟩
      · simp [Port.step, busy]
      · simp [Busy.timeout, Busy.marker, op, readUntil, Except.map]
  | cons arrival later ih =>
      set uart := p.uart.receive arrival with uartEq
      have fed : b.feed uart.rx = feedUntil marker b.response uart.rx := by
        simp only [Busy.feed, Busy.marker, op]
      have two : ∀ is, (Input.arrive arrival :: .poll :: is).foldlM Port.step p =
          is.foldlM Port.step (Port.poll { p with uart := uart } b) := by
        intro is
        simp [Port.step, busy, uartEq]
      have ahead : ∀ is, is <+: pollInputs later →
          .arrive arrival :: .poll :: is <+: pollInputs (arrival :: later) := by
        intro is sub
        exact List.prefix_append_right_inj [.arrive arrival, .poll] |>.mpr sub
      have ends : ∀ result : Except PyError Text,
          Port.poll { p with uart := uart } b =
            Port.finish { p with uart := uart.read.2 } { b with taken := b.taken ++ uart.rx }
              (result.map some) →
          p.EndsBy (pollInputs (arrival :: later)) (result.map some) uart.read.2 := by
        intro result polled
        refine ⟨[.arrive arrival, .poll], _, ⟨b.op, b.drained, b.taken ++ uart.rx, result.map some⟩,
          ahead [] List.nil_prefix, two [], ?_, ?_, rfl, ?_⟩
        · rw [polled]
          rfl
        · rw [polled]
          rfl
        · rw [polled]
          rfl
      simp only [readUntil, ← uartEq, Uart.read]
      cases progress : feedUntil marker b.response uart.rx with
      | more response =>
          have polled : Port.poll { p with uart := uart } b =
              { p with
                uart := uart.read.2
                busy := some { b with taken := b.taken ++ uart.rx, response := response } } := by
            simp only [Port.poll, Uart.read, fed, progress]
          obtain ⟨is, p', e, sub, exec, idle, log, outcome, left⟩ :=
            ih (congrArg Port.busy polled) op
          rw [polled] at log outcome left
          exact ⟨.arrive arrival :: .poll :: is, p', e, ahead is sub, (two is).trans exec,
            idle, log,
            outcome, left⟩
      | returned text =>
          apply ends (.ok text)
          simp only [Port.poll, Uart.read, fed, progress, op]
          rfl
      | raised exc =>
          apply ends (.error exc)
          simp only [Port.poll, Uart.read, fed, progress]
          rfl

end EdgeGateway.Modem
