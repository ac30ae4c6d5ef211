import EdgeGateway.Lib.Run
import EdgeGateway.Tcp.Frames
import EdgeGateway.Tcp.Session

/-!
One call of `_read_message` against any peer.

The call is suspended in `wait_for_ms` whenever it has not returned. `request` is
what it asks for there, and an answer ends the await: a chunk no larger than was
asked for, the empty chunk at the end of the stream, the timeout, or an exception.
So a run of `anyPeer` is one behaviour of the peer.

* `Reading.Good` carries the bounds of the loop. Every answer that does not end it
  adds a byte, and all that is kept before the newest chunk is free of newlines.
* `bounded_of_run`: what that says of the reads, the buffer and the result.
* `readMessage_of_run`: the call returns what `readMessage` makes of the answers.
-/

namespace EdgeGateway.Tcp

open EdgeGateway.Lib EdgeGateway.Mqtt

variable {cfg : Config}

/-! ### The loop -/

/-- How an awaited read ends. -/
inductive Answer where
  | chunk (bytes : Bytes)
  | timeout
  | raised (exc : PyError)
deriving Repr

/-- `TCP_CLIENT_IDLE_TIMEOUT_MS` and `TCP_FRAME_TIMEOUT_MS`. -/
structure Timeouts where
  clientIdle : Nat
  frame : Nat
deriving DecidableEq, Repr

/-- The values of `config.example.py`. -/
def Timeouts.shipped : Timeouts := ⟨5000, 150⟩

/-- The arguments of `reader.read` and of `wait_for_ms`. -/
structure Request where
  size : Nat
  timeoutMs : Nat
deriving DecidableEq, Repr

/-- The call: its buffer, what it returned or raised, and what it logged. -/
structure Reading where
  data : Bytes
  result : Option (Except PyError Bytes)
  log : List String
deriving Repr

/-- What follows the loop. -/
def Reading.leave (cfg : Config) (r : Reading) : Reading :=
  { r with
    result := some (.ok r.data)
    log := if cfg.maxMessageSize ≤ r.data.length then r.log ++ [limitText cfg] else r.log }

/-- The test of the loop. -/
def Reading.head (cfg : Config) (r : Reading) : Reading :=
  if r.data.length < cfg.maxMessageSize then r else r.leave cfg

/-- From the first line to the first await. -/
def Reading.start (cfg : Config) : Reading := Reading.head cfg ⟨[], none, []⟩

/-- `read_size`. -/
def Reading.readSize (cfg : Config) (r : Reading) : Nat :=
  min cfg.readSize (cfg.maxMessageSize - r.data.length)

/-- What the call waits for. -/
def Reading.request (cfg : Config) (timeouts : Timeouts) (r : Reading) : Option Request :=
  match r.result with
  | none => some ⟨r.readSize cfg, if r.data = [] then timeouts.clientIdle else timeouts.frame⟩
  | some _ => none

/-- `data.extend(chunk)`, and on to the next await. -/
def Reading.extend (cfg : Config) (chunk : Bytes) (r : Reading) : Reading :=
  let r := { r with data := r.data ++ chunk }
  if newline ∈ chunk then { r with result := some (.ok (beforeNewline r.data)) } else r.head cfg

/-- The await ends. A reader returns no more than was asked for. -/
def Reading.step (cfg : Config) (r : Reading) (answer : Answer) : Option Reading :=
  match r.result, answer with
  | some _, _ => none
  | none, .timeout => some (r.leave cfg)
  | none, .raised exc => some { r with result := some (.error exc) }
  | none, .chunk chunk =>
      if chunk = [] then some (r.leave cfg)
      else if chunk.length ≤ r.readSize cfg then some (r.extend cfg chunk)
      else none

/-- `_read_message` with every behaviour of its reader. -/
def anyPeer (cfg : Config) : System Reading Answer := ⟨.start cfg, Reading.step cfg⟩

/-- What an answer does. -/
inductive Reading.Takes (cfg : Config) (r : Reading) : Answer → Reading → Prop where
  | leaves {answer : Answer} (ends : answer = .timeout ∨ answer = .chunk []) :
      Reading.Takes cfg r answer (r.leave cfg)
  | raises (exc : PyError) :
      Reading.Takes cfg r (.raised exc) { r with result := some (.error exc) }
  | grows {chunk : Bytes} (nonempty : chunk ≠ []) (asked : chunk.length ≤ r.readSize cfg) :
      Reading.Takes cfg r (.chunk chunk) (r.extend cfg chunk)

theorem Reading.step_takes {r r' : Reading} {answer : Answer}
    (step : r.step cfg answer = some r') : r.result = none ∧ r.Takes cfg answer r' := by
  unfold Reading.step at step
  split at step
  · cases step
  · rename_i waiting
    obtain rfl := Option.some.inj step
    exact ⟨waiting, .leaves (.inl rfl)⟩
  · rename_i exc waiting
    obtain rfl := Option.some.inj step
    exact ⟨waiting, .raises exc⟩
  · rename_i chunk waiting
    split at step
    · rename_i empty
      obtain rfl := Option.some.inj step
      exact ⟨waiting, .leaves (.inr (congrArg Answer.chunk empty))⟩
    · rename_i nonempty
      split at step
      · rename_i asked
        obtain rfl := Option.some.inj step
        exact ⟨waiting, .grows nonempty asked⟩
      · cases step

/-! ### The bounds -/

/-- The answer is one the reader may give to a request of this size. -/
def Answer.fits (size : Nat) : Answer → Prop
  | .chunk bytes => bytes.length ≤ size
  | .timeout | .raised _ => True

/-- The call after so many reads. -/
structure Reading.Good (cfg : Config) (reads : Nat) (r : Reading) : Prop where
  few : reads ≤ cfg.maxMessageSize
  fits : r.data.length ≤ cfg.maxMessageSize
  /-- while it reads, every read has added a byte and none a newline -/
  waiting : r.result = none →
    reads ≤ r.data.length ∧ r.data.length < cfg.maxMessageSize ∧ newline ∉ r.data
  returned : ∀ frame, r.result = some (.ok frame) →
    frame.length ≤ cfg.maxMessageSize ∧ newline ∉ frame

theorem Reading.Good.leave {reads : Nat} {r : Reading} (few : reads ≤ cfg.maxMessageSize)
    (fits : r.data.length ≤ cfg.maxMessageSize) (plain : newline ∉ r.data) :
    (r.leave cfg).Good cfg reads where
  few := few
  fits := fits
  waiting := fun none => by cases none
  returned := by
    rintro frame ⟨⟩
    exact ⟨fits, plain⟩

theorem Reading.Good.head {reads : Nat} {r : Reading} (waiting : r.result = none)
    (few : reads ≤ r.data.length) (fits : r.data.length ≤ cfg.maxMessageSize)
    (plain : newline ∉ r.data) : (r.head cfg).Good cfg reads := by
  unfold Reading.head
  split
  · rename_i short
    refine ⟨few.trans fits, fits, fun _ => ⟨few, short, plain⟩, ?_⟩
    rw [waiting]
    intro frame none
    cases none
  · exact .leave (few.trans fits) fits plain

theorem Reading.Good.start : (Reading.start cfg).Good cfg 0 :=
  .head rfl (Nat.zero_le _) (Nat.zero_le _) List.not_mem_nil

/-- The rest of the body, on a chunk that is no larger than was asked for. -/
theorem Reading.Good.extend {reads : Nat} {r : Reading} (good : r.Good cfg reads)
    (result : r.result = none) {chunk : Bytes} (nonempty : chunk ≠ [])
    (asked : chunk.length ≤ r.readSize cfg) : (r.extend cfg chunk).Good cfg (reads + 1) := by
  obtain ⟨few, short, plain⟩ := good.waiting result
  have longer : 0 < chunk.length := List.length_pos_of_ne_nil nonempty
  have total : (r.data ++ chunk).length ≤ cfg.maxMessageSize := by
    rw [List.length_append]
    unfold Reading.readSize at asked
    omega
  have more : reads + 1 ≤ (r.data ++ chunk).length := by
    rw [List.length_append]
    omega
  unfold Reading.extend
  dsimp only
  split
  · obtain ⟨-, -, lines, -⟩ := beforeNewline_split (r.data ++ chunk)
    have part : (beforeNewline (r.data ++ chunk)).length ≤ (r.data ++ chunk).length :=
      (List.takeWhile_prefix _).length_le
    refine ⟨more.trans total, total, (fun none => by cases none), ?_⟩
    rintro frame ⟨⟩
    exact ⟨part.trans total, lines⟩
  · rename_i noLine
    refine .head result more total ?_
    rw [List.mem_append]
    exact fun either => either.elim plain noLine

/-- **An answer keeps the bounds.** -/
theorem Reading.Good.step {reads : Nat} {r r' : Reading} {answer : Answer}
    (good : r.Good cfg reads) (step : r.step cfg answer = some r') : r'.Good cfg (reads + 1) := by
  obtain ⟨result, takes⟩ := Reading.step_takes step
  obtain ⟨few, short, plain⟩ := good.waiting result
  cases takes with
  | leaves => exact .leave (by omega) good.fits plain
  | raises exc =>
      refine ⟨by omega, good.fits, (fun none => by cases none), ?_⟩
      intro frame error
      cases error
  | grows nonempty asked => exact good.extend result nonempty asked

theorem Reading.good_of_run {answers : List Answer} {r : Reading}
    (run : Run (anyPeer cfg) answers r) : r.Good cfg answers.length := by
  induction run with
  | start => exact .start
  | next _ step ih =>
      rw [List.length_append]
      exact ih.step step

/-- The call has returned or raised, or a read is left to it and it goes on with
any answer. -/
def GoesOn (cfg : Config) (answers : List Answer) (r : Reading) : Prop :=
  r.result.isSome = true ∨ answers.length < cfg.maxMessageSize ∧
    ∀ answer, answer.fits (r.readSize cfg) → ∃ r', Run (anyPeer cfg) (answers ++ [answer]) r'

theorem goesOn_of_run {answers : List Answer} {r : Reading} (run : Run (anyPeer cfg) answers r) :
    GoesOn cfg answers r := by
  cases result : r.result with
  | some result' => exact .inl (by rw [result]; rfl)
  | none =>
      obtain ⟨few, short, -⟩ := (Reading.good_of_run run).waiting result
      refine .inr ⟨few.trans_lt short, fun answer fits => ?_⟩
      have step : ∃ r', r.step cfg answer = some r' := by
        cases answer with
        | timeout => exact ⟨r.leave cfg, by simp only [Reading.step, result]⟩
        | raised exc =>
            exact ⟨{ r with result := some (.error exc) }, by simp only [Reading.step, result]⟩
        | chunk chunk =>
            have asked : chunk.length ≤ r.readSize cfg := fits
            simp only [Reading.step, result, if_pos asked]
            split
            · exact ⟨_, rfl⟩
            · exact ⟨_, rfl⟩
      obtain ⟨r', step⟩ := step
      exact ⟨r', .next run step⟩

/-- What a call may do, after these answers. -/
structure Bounded (cfg : Config) (timeouts : Timeouts) (answers : List Answer) (r : Reading) :
    Prop where
  reads : answers.length ≤ cfg.maxMessageSize
  buffered : r.data.length ≤ cfg.maxMessageSize
  requested : ∀ request ∈ r.request cfg timeouts, 0 < request.size ∧ request.size ≤ cfg.readSize ∧
    r.data.length + request.size ≤ cfg.maxMessageSize
  goesOn : GoesOn cfg answers r
  returned : ∀ frame, r.result = some (.ok frame) →
    frame.length ≤ cfg.maxMessageSize ∧ newline ∉ frame

/-- **Every call is bounded, whatever its peer does.** -/
theorem bounded_of_run (positive : 0 < cfg.readSize) (timeouts : Timeouts) {answers : List Answer}
    {r : Reading} (run : Run (anyPeer cfg) answers r) : Bounded cfg timeouts answers r := by
  have good := Reading.good_of_run run
  refine ⟨good.few, good.fits, ?_, goesOn_of_run run, good.returned⟩
  intro request asked
  unfold Reading.request at asked
  split at asked
  · rename_i waiting
    obtain ⟨-, short, -⟩ := good.waiting waiting
    obtain rfl := Option.some.inj asked
    simp only [Reading.readSize]
    omega
  · cases asked

/-! ### Termination -/

/-- A reader: its answer behind the answers before. -/
abbrev Peer := List Answer → Answer

/-- It never returns more than is asked for. -/
def Peer.Fits (cfg : Config) (peer : Peer) : Prop :=
  ∀ answers r, Run (anyPeer cfg) answers r → r.result = none →
    (peer answers).fits (r.readSize cfg)

def Peer.Gives (peer : Peer) (answers : List Answer) : Prop :=
  ∀ before answer, before ++ [answer] <+: answers → answer = peer before

theorem Peer.gives_snoc {peer : Peer} {answers : List Answer} (gives : peer.Gives answers) :
    peer.Gives (answers ++ [peer answers]) := by
  intro before answer sub
  rcases List.prefix_concat_iff.mp sub with same | sub
  · obtain ⟨rfl, last⟩ := List.append_inj' same rfl
    exact List.singleton_inj.mp last
  · exact gives before answer sub

/-- **With every reader the call returns or raises**, after at most as many reads as
a message may have bytes. -/
theorem returns {peer : Peer} (fits : peer.Fits cfg) :
    ∃ answers r, Run (anyPeer cfg) answers r ∧ peer.Gives answers ∧
      answers.length ≤ cfg.maxMessageSize ∧ r.result.isSome = true := by
  have along : ∀ reads, ∃ answers r, Run (anyPeer cfg) answers r ∧ peer.Gives answers ∧
      (answers.length ≤ reads ∧ r.result.isSome = true ∨ answers.length = reads) := by
    intro reads
    induction reads with
    | zero =>
        refine ⟨[], _, .start, fun before answer sub => ?_, .inr rfl⟩
        simp at sub
    | succ reads ih =>
        obtain ⟨answers, r, run, gives, ended | going⟩ := ih
        · exact ⟨answers, r, run, gives, .inl ⟨ended.1.trans (Nat.le_succ _), ended.2⟩⟩
        · cases result : r.result with
          | some result' =>
              exact ⟨answers, r, run, gives, .inl ⟨going ▸ Nat.le_succ _, by rw [result]; rfl⟩⟩
          | none =>
              obtain ⟨-, next⟩ := (goesOn_of_run run).resolve_left (by simp [result])
              obtain ⟨r', run'⟩ := next _ (fits answers r run result)
              exact ⟨_, r', run', Peer.gives_snoc gives, .inr (by simp [going])⟩
  obtain ⟨answers, r, run, gives, ended | full⟩ := along cfg.maxMessageSize
  · exact ⟨answers, r, run, gives, ended⟩
  · refine ⟨answers, r, run, gives, full.le, ?_⟩
    exact (goesOn_of_run run).resolve_right fun ⟨short, _⟩ => absurd full short.ne

/-! ### What the call returns -/

/-- The read as `readMessage` takes it. -/
def Answer.read : Answer → Option Bytes
  | .chunk bytes => some bytes
  | .timeout | .raised _ => none

/-- What is left to do for `readMessage`. -/
def Reading.rest (cfg : Config) (r : Reading) (later : List (Option Bytes)) :
    Bytes × List (Option Bytes) :=
  match r.result with
  | some (.ok frame) => (frame, later)
  | _ => readMessage cfg r.data later

theorem Reading.rest_leave {r : Reading} (later : List (Option Bytes)) :
    (r.leave cfg).rest cfg later = (r.data, later) := rfl

theorem Reading.rest_head {r : Reading} (waiting : r.result = none) (later : List (Option Bytes)) :
    (r.head cfg).rest cfg later = readMessage cfg r.data later := by
  unfold Reading.head
  split
  · simp only [Reading.rest, waiting]
  · rename_i full
    rw [Reading.rest_leave, readMessage_full (not_lt.mp full)]

/-- One answer is one read of `readMessage`. -/
theorem Reading.rest_step {r r' : Reading} {answer : Answer}
    (short : r.data.length < cfg.maxMessageSize) (result : r.result = none)
    (takes : r.Takes cfg answer r') (calm : ∀ exc, r'.result ≠ some (.error exc))
    (later : List (Option Bytes)) : r.rest cfg (answer.read :: later) = r'.rest cfg later := by
  have here : r.rest cfg (answer.read :: later) =
      readMessage cfg r.data (answer.read :: later) := by
    simp only [Reading.rest, result]
  rw [here]
  cases takes with
  | leaves ends =>
      rw [Reading.rest_leave]
      rcases ends with rfl | rfl
      · simp only [Answer.read, readMessage, short, if_true]
      · simp only [Answer.read, readMessage, short, if_true]
  | raises exc => exact absurd rfl (calm exc)
  | @grows chunk nonempty asked =>
      rw [Answer.read, readMessage_more short nonempty]
      unfold Reading.extend
      dsimp only
      split
      · rfl
      · exact (Reading.rest_head (r := { r with data := r.data ++ chunk }) result _).symm

/-- **The call returns what `readMessage` returns**, and leaves the same reads. -/
theorem readMessage_of_run {answers : List Answer} {r : Reading}
    (run : Run (anyPeer cfg) answers r) (calm : ∀ exc, r.result ≠ some (.error exc))
    (later : List (Option Bytes)) :
    readMessage cfg [] (answers.map Answer.read ++ later) = r.rest cfg later := by
  induction run generalizing later with
  | start => exact (Reading.rest_head (r := ⟨[], none, []⟩) rfl later).symm
  | @next answers r r' answer run step ih =>
      obtain ⟨waiting, takes⟩ := Reading.step_takes step
      have before := ih (by simp [waiting]) (answer.read :: later)
      obtain ⟨-, short, -⟩ := (Reading.good_of_run run).waiting waiting
      rw [List.map_append, List.append_assoc]
      exact before.trans (Reading.rest_step short waiting takes calm later)

end EdgeGateway.Tcp
