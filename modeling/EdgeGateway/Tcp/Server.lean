import EdgeGateway.Lib.Utf8
import EdgeGateway.Mqtt.Command

/-!
The ingestion service: `_read_message` and `handle` of `TCPServer`.

What a connection delivers is the list of its reads in order: a chunk, the empty
chunk at the end of the stream, or `none` where `wait_for_ms` ran out. After the
last read of the list the stream is at its end. `handle` is the sequence of
messages the handler acknowledges and processes.
-/

namespace EdgeGateway.Tcp

open EdgeGateway.Lib EdgeGateway.Mqtt

/-- The settings of `config.py` the service reads, and whether it was given an
`MQTTManager`. -/
structure Config where
  readSize : Nat
  maxMessageSize : Nat
  mqtt : Bool
deriving DecidableEq, Repr

/-- The values of `config.example.py`. -/
def Config.shipped : Config where
  readSize := 1024
  maxMessageSize := 4096
  mqtt := true

def newline : UInt8 := 10

/-- `b'{"status":"OK"}'`. -/
def ack : Bytes := Utf8.encode "\x7b\"status\":\"OK\"\x7d".toList

/-! ### `_read_message` -/

/-- `bytes(data).split(b"\n", 1)[0]`. -/
def beforeNewline (data : Bytes) : Bytes := data.takeWhile (· ≠ newline)

/-- `_read_message` from `data` on: the message, and the reads left. -/
def readMessage (cfg : Config) (data : Bytes) : List (Option Bytes) → Bytes × List (Option Bytes)
  | [] => (data, [])
  | read :: later =>
      if data.length < cfg.maxMessageSize then
        match read with
        | none => (data, later)
        | some [] => (data, later)
        | some (b :: bs) =>
            if newline ∈ b :: bs then (beforeNewline (data ++ b :: bs), later)
            else readMessage cfg (data ++ b :: bs) later
      else (data, read :: later)

/-- What a message at the limit is warned of with. -/
def limitText (cfg : Config) : String :=
  "TCP message reached " ++ toString cfg.maxMessageSize ++ "-byte limit"

/-! ### `handle` -/

/-- `data.rstrip(b"\r\n")`. -/
def rstrip (data : Bytes) : Bytes :=
  (data.reverse.dropWhile fun b => b = 13 || b = newline).reverse

/-- `rstrip` takes off ASCII bytes only. -/
theorem rstrip_split (data : Bytes) :
    ∃ trailing, (∀ b ∈ trailing, b.toNat < 0x80) ∧ data = rstrip data ++ trailing := by
  let isEnd : UInt8 → Bool := fun b => b = 13 || b = newline
  refine ⟨(data.reverse.takeWhile isEnd).reverse, ?_, ?_⟩
  · intro b mem
    have hit : isEnd b = true := List.mem_takeWhile_imp (List.mem_reverse.mp mem)
    have either : b = 13 ∨ b = newline := by simpa [isEnd] using hit
    rcases either with rfl | rfl <;> decide
  · have whole := congrArg List.reverse (@List.takeWhile_append_dropWhile _ isEnd data.reverse)
    rw [List.reverse_append, List.reverse_reverse] at whole
    exact whole.symm

/-- A message that was read, decoded and parsed. Python's `None` stands both for
a text that did not parse and for `null`. -/
structure Received where
  data : Bytes
  payload : Text
  parsed : Json
deriving Repr

/-- `except (ValueError, UnicodeError)`. -/
def isValueError : PyError → Bool
  | .valueError _ | .unicodeError _ => true
  | .attributeError _ | .indexError _ | .osError _ => false

/-- Decode and parse: what was received, and whether the parser refused it. Only
the parser is called inside the inner `try`. -/
def validate (codec : Codec) (data : Bytes) : Except PyError (Received × Bool) :=
  match Utf8.decode? (rstrip data) with
  | none => .error (.unicodeError "")
  | some payload =>
      match codec.loads payload with
      | .ok parsed => .ok (⟨data, payload, parsed⟩, false)
      | .error exc =>
          if isValueError exc then .ok (⟨data, payload, .null⟩, true) else .error exc

/-- The message, where nothing is raised before its acknowledgement. -/
def receive (codec : Codec) (data : Bytes) : Option Received :=
  match validate codec data with
  | .ok (received, _) => some received
  | .error _ => none

/-- The loop of `handle`, for at most `fuel` messages. -/
def handleFor (cfg : Config) (codec : Codec) : Nat → List (Option Bytes) → List Received
  | 0, _ => []
  | fuel + 1, reads =>
      match readMessage cfg [] reads with
      | ([], _) => []
      | (b :: bs, later) =>
          match receive codec (b :: bs) with
          | none => []
          | some received => received :: handleFor cfg codec fuel later

/-- The messages `handle` acknowledges and processes. Every message takes a read. -/
def handle (cfg : Config) (codec : Codec) (reads : List (Option Bytes)) : List Received :=
  handleFor cfg codec reads.length reads

/-! ### What is received -/

/-- The parser raises nothing but the error of a text that is not JSON. -/
def Codec.Parses (codec : Codec) : Prop :=
  ∀ text exc, codec.loads text = .error exc → isValueError exc = true

/-- A runtime that reads these texts and refuses all others. -/
def readsOnly (texts : List (Text × Json)) : Codec where
  loads text :=
    match texts.lookup text with
    | some value => .ok value
    | none => .error (.valueError "syntax error in JSON")
  dumps _ := "\x7b\x7d"

theorem readsOnly_parses (texts : List (Text × Json)) : Codec.Parses (readsOnly texts) := by
  intro text exc raised
  unfold readsOnly at raised
  dsimp only at raised
  split at raised
  · cases raised
  · obtain rfl := Except.error.inj raised
    rfl

/-- What is received is the data, and its text. -/
theorem validate_spec {codec : Codec} {data : Bytes} {received : Received} {refused : Bool}
    (valid : validate codec data = .ok (received, refused)) :
    received.data = data ∧ Utf8.decode? (rstrip data) = some received.payload := by
  unfold validate at valid
  cases decoded : Utf8.decode? (rstrip data) with
  | none => simp only [decoded, reduceCtorEq] at valid
  | some payload =>
      simp only [decoded] at valid
      split at valid
      · obtain ⟨rfl, -⟩ := Prod.mk.inj (Except.ok.inj valid)
        exact ⟨rfl, rfl⟩
      · split at valid
        · obtain ⟨rfl, -⟩ := Prod.mk.inj (Except.ok.inj valid)
          exact ⟨rfl, rfl⟩
        · cases valid

theorem receive_spec {codec : Codec} {data : Bytes} {received : Received}
    (read : receive codec data = some received) :
    received.data = data ∧ Utf8.decode? (rstrip data) = some received.payload := by
  unfold receive at read
  split at read
  · obtain rfl := Option.some.inj read
    exact validate_spec (by assumption)
  · cases read

theorem receive_eq_none_iff {codec : Codec} {data : Bytes} :
    receive codec data = none ↔ ∃ exc, validate codec data = .error exc := by
  unfold receive
  cases validate codec data with
  | ok pair => exact ⟨nofun, nofun⟩
  | error exc => exact ⟨fun _ => ⟨exc, rfl⟩, fun _ => rfl⟩

theorem validate_undecodable {codec : Codec} {data : Bytes}
    (undecodable : Utf8.decode? (rstrip data) = none) :
    validate codec data = .error (.unicodeError "") := by
  simp only [validate, undecodable]

/-- With such a parser only the decoding can raise. -/
theorem receive_of_parses {codec : Codec} (parses : Codec.Parses codec) {data : Bytes}
    {payload : Text} (decoded : Utf8.decode? (rstrip data) = some payload) :
    ∃ received, receive codec data = some received := by
  simp only [receive, validate, decoded]
  cases loaded : codec.loads payload with
  | ok parsed => exact ⟨_, rfl⟩
  | error exc =>
      simp only [parses payload exc loaded, if_true]
      exact ⟨_, rfl⟩

theorem validate_error_iff {codec : Codec} (parses : Codec.Parses codec) {data : Bytes} :
    (∃ exc, validate codec data = .error exc) ↔ Utf8.decode? (rstrip data) = none := by
  cases decoded : Utf8.decode? (rstrip data) with
  | none => exact ⟨fun _ => rfl, fun _ => ⟨_, validate_undecodable decoded⟩⟩
  | some payload =>
      obtain ⟨received, read⟩ := receive_of_parses parses decoded
      refine ⟨fun refused => ?_, nofun⟩
      rw [receive_eq_none_iff.mpr refused] at read
      cases read

/-! ### Every message takes a read -/

/-- A message that is not empty was read from what came before the reads left. -/
theorem readMessage_shorter (cfg : Config) (reads : List (Option Bytes)) (data : Bytes) :
    (readMessage cfg data reads).2.length ≤ reads.length ∧
      (data = [] → (readMessage cfg data reads).1 ≠ [] →
        (readMessage cfg data reads).2.length < reads.length) := by
  induction reads generalizing data with
  | nil => simp [readMessage]
  | cons read later ih =>
      unfold readMessage
      split
      · cases read with
        | none => simp
        | some chunk =>
            cases chunk with
            | nil => simp
            | cons b bs =>
                dsimp only
                split
                · simp
                · have rest := (ih (data ++ b :: bs)).1
                  simp only [List.length_cons]
                  exact ⟨by omega, fun _ _ => by omega⟩
      · exact ⟨le_refl _, fun empty some => absurd empty some⟩

/-- Fuel for every read is fuel enough. -/
theorem handleFor_eq (cfg : Config) (codec : Codec) {fuel fuel' : Nat}
    {reads : List (Option Bytes)} (enough : reads.length ≤ fuel) (enough' : reads.length ≤ fuel') :
    handleFor cfg codec fuel reads = handleFor cfg codec fuel' reads := by
  induction fuel generalizing fuel' reads with
  | zero =>
      obtain rfl : reads = [] := List.length_eq_zero_iff.mp (Nat.le_zero.mp enough)
      cases fuel' <;> rfl
  | succ fuel ih =>
      cases fuel' with
      | zero =>
          obtain rfl : reads = [] := List.length_eq_zero_iff.mp (Nat.le_zero.mp enough')
          rfl
      | succ fuel' =>
          have shorter := (readMessage_shorter cfg reads []).2 rfl
          unfold handleFor
          cases message : readMessage cfg [] reads with
          | mk data later =>
              rw [message] at shorter
              cases data with
              | nil => rfl
              | cons b bs =>
                  have less : later.length < reads.length := shorter (by simp)
                  dsimp only
                  cases receive codec (b :: bs) with
                  | none => rfl
                  | some received =>
                      dsimp only
                      rw [ih (by omega : later.length ≤ fuel) (by omega : later.length ≤ fuel')]

/-- **One round of the loop of `handle`.** -/
theorem handle_eq (cfg : Config) (codec : Codec) (reads : List (Option Bytes)) :
    handle cfg codec reads =
      match readMessage cfg [] reads with
      | ([], _) => []
      | (b :: bs, later) =>
          match receive codec (b :: bs) with
          | none => []
          | some received => received :: handle cfg codec later := by
  have more : handle cfg codec reads = handleFor cfg codec (reads.length + 1) reads :=
    handleFor_eq cfg codec (le_refl _) (Nat.le_succ _)
  rw [more]
  unfold handleFor
  cases message : readMessage cfg [] reads with
  | mk data later =>
      have shorter := (readMessage_shorter cfg reads []).1
      rw [message] at shorter
      cases data with
      | nil => rfl
      | cons b bs =>
          dsimp only
          cases receive codec (b :: bs) with
          | none => rfl
          | some received =>
              dsimp only
              rw [handleFor_eq cfg codec shorter (le_refl _)]
              rfl

end EdgeGateway.Tcp
