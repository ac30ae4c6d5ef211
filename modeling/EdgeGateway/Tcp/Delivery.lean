import EdgeGateway.Tcp.Connection

/-!
What a client knows when `send_with_retry` returns `True`.

The acknowledgement gets out before the message is processed, so success means
that the calls were made or that the handler is one step before them, unless a
frame timeout fired on a part of the text (`success_means_received`). The two
attempts pass the complete message on at most twice. `paused` and `prompt` are
runs in which success means less than the calls themselves.
-/

namespace EdgeGateway.Tcp

open EdgeGateway.Lib EdgeGateway.Mqtt

variable {cfg : Config} {codec : Codec} {message : Json} {text : Text}

/-! ### The client and its connections -/

/-- What holds of the connections at each point of `send_with_retry`. -/
def World.Stage (codec : Codec) (message : Json) (text : Text) (w : World) : Prop :=
  match w.client with
  | .attempting attempt => attempt ≤ 1 ∧ w.conns.length ≤ attempt
  | .talking attempt unsent =>
      attempt ≤ 1 ∧ w.conns.length ≤ attempt + 1 ∧ ∃ c ∈ w.conns.head?,
        c.taken ++ c.wire ++ unsent = encoded codec message ++ [newline] ∧ c.hungUp = false
  | .finished result =>
      w.conns.length ≤ 2 ∧ (result = true →
        ∃ c ∈ w.conns.head?, c.interrupted = false → c.Holds message text)

structure World.Good (codec : Codec) (message : Json) (text : Text) (w : World) : Prop where
  conns : ∀ c ∈ w.conns, c.Good codec message text
  stage : w.Stage codec message text

theorem World.Good.init : (link cfg codec message).init.Good codec message text where
  conns := fun _ mem => by cases mem
  stage := ⟨Nat.zero_le _, le_refl _⟩

/-- A failed attempt leaves the connections it made. -/
theorem World.Stage.next {attempt : Nat} {conns : List Conn} (early : attempt ≤ 1)
    (made : conns.length ≤ attempt + 1) :
    (⟨.next attempt, conns⟩ : World).Stage codec message text := by
  unfold Client.next
  split
  · have one : conns.length ≤ 1 := by omega
    exact ⟨le_refl _, one⟩
  · have two : conns.length ≤ 2 := by omega
    exact ⟨two, fun success => by cases success⟩

theorem Conn.Good.hangUp {c : Conn} (good : c.Good codec message text) :
    c.hangUp.Good codec message text where
  onLine := good.onLine
  plain := good.plain
  weight := good.weight
  opening := good.opening
  first := fun up => by cases up

/-- A handler step reads from the wire and leaves the client's end alone. -/
theorem Conn.Move.frame {bytes : Bytes} {c c' : Conn} (move : Conn.Move codec bytes c c') :
    c'.taken ++ c'.wire = c.taken ++ c.wire ∧ c'.hungUp = c.hungUp ∧
      (c'.interrupted = false → c.interrupted = false) := by
  have same : ∀ (data : Bytes) (c : Conn), (c.message codec data).taken = c.taken ∧
      (c.message codec data).wire = c.wire ∧ (c.message codec data).hungUp = c.hungUp ∧
      (c.message codec data).interrupted = c.interrupted := by
    intro data c
    rcases c.message_cases codec data with same | ⟨_, _, _, same⟩ <;> rw [same] <;> simp
  cases move with
  | more phase wire plain => exact ⟨by simp [wire], rfl, id⟩
  | line phase wire ends =>
      obtain ⟨taken, left, up, calm⟩ := same _ _
      rw [taken, left, up, calm, wire]
      exact ⟨by simp, rfl, id⟩
  | stop phase flagged why =>
      obtain ⟨taken, left, up, calm⟩ := same _ _
      rw [taken, left, up, calm]
      refine ⟨rfl, rfl, fun unflagged => ?_⟩
      by_contra was
      exact Bool.false_ne_true (unflagged.symm.trans (flagged (by simpa using was)))
  | reset unwritten => exact ⟨rfl, rfl, id⟩
  | flush phase => exact ⟨rfl, rfl, id⟩
  | proceed phase => exact ⟨rfl, rfl, id⟩

/-- A handler step keeps what the client can rely on. -/
theorem World.Good.handler (sendable : Sendable cfg codec message text) {w : World}
    (good : w.Good codec message text) {i : Nat} {c c' : Conn} (at' : w.conns[i]? = some c)
    (move : Conn.Move codec (encoded codec message) c c') :
    ({ w with conns := w.conns.set i c' } : World).Good codec message text := by
  have member : c ∈ w.conns := List.mem_of_getElem? at'
  refine ⟨?_, ?_⟩
  · intro other mem
    rcases List.mem_or_eq_of_mem_set mem with old | rfl
    · exact good.conns other old
    · exact (good.conns c member).step sendable move
  · -- The newest connection is replaced by its successor, or stays.
    have newest : ∀ head ∈ w.conns.head?, ∃ head' ∈ (w.conns.set i c').head?,
        head' = head ∨ Conn.Move codec (encoded codec message) head head' := by
      intro head isHead
      cases conns : w.conns with
      | nil => rw [conns] at isHead; cases isHead
      | cons first older =>
          rw [conns] at isHead at'
          obtain rfl : first = head := Option.some.inj isHead
          cases i with
          | zero =>
              obtain rfl : first = c := Option.some.inj at'
              exact ⟨c', rfl, .inr move⟩
          | succ i => exact ⟨first, rfl, .inl rfl⟩
    have stage := good.stage
    unfold World.Stage at stage ⊢
    simp only [List.length_set]
    cases client : w.client with
    | attempting attempt => rwa [client] at stage
    | talking attempt unsent =>
        rw [client] at stage
        obtain ⟨early, made, head, isHead, line, up⟩ := stage
        obtain ⟨head', isHead', same | move'⟩ := newest head isHead
        · exact ⟨early, made, head', isHead', same ▸ ⟨line, up⟩⟩
        · obtain ⟨bytes, end', -⟩ := move'.frame
          exact ⟨early, made, head', isHead', by rw [bytes, line], by rw [end', up]⟩
    | finished result =>
        rw [client] at stage
        refine ⟨stage.1, fun success => ?_⟩
        obtain ⟨head, isHead, holds⟩ := stage.2 success
        obtain ⟨head', isHead', same | move'⟩ := newest head isHead
        · exact ⟨head', isHead', same ▸ holds⟩
        · exact ⟨head', isHead', fun calm => (holds (move'.frame.2.2 calm)).step move'⟩

/-- **Every step of the world keeps the invariant.** -/
theorem World.Good.step (sendable : Sendable cfg codec message text) {w w' : World} {act : Action}
    (good : w.Good codec message text) (step : w.step cfg codec message act = some w') :
    w'.Good codec message text := by
  have stage := good.stage
  cases act with
  | giveUp =>
      simp only [World.step] at step
      split at step
      · rename_i attempt client
        obtain rfl := Option.some.inj step
        simp only [World.Stage, client] at stage
        exact ⟨good.conns, .next stage.1 (by omega)⟩
      · cases step
  | connect =>
      simp only [World.step] at step
      split at step
      · rename_i attempt client
        obtain rfl := Option.some.inj step
        simp only [World.Stage, client] at stage
        refine ⟨?_, stage.1, Nat.succ_le_succ stage.2, .fresh, rfl, rfl, rfl⟩
        intro c mem
        rcases List.mem_cons.mp mem with rfl | old
        · exact .fresh
        · exact good.conns c old
      · cases step
  | send count =>
      simp only [World.step] at step
      split at step
      · rename_i attempt unsent c older client conns
        split at step
        · obtain rfl := Option.some.inj step
          simp only [World.Stage, client, conns] at stage
          obtain ⟨early, made, head, isHead, line, up⟩ := stage
          obtain rfl : c = head := Option.some.inj isHead
          have whole : c.taken ++ (c.wire ++ unsent.take count) ++ unsent.drop count =
              encoded codec message ++ [newline] := by
            rw [List.append_assoc, List.append_assoc, List.take_append_drop,
              ← List.append_assoc, line]
          have before := good.conns c (by simp [conns])
          refine ⟨?_, early, made, _, rfl, whole, up⟩
          intro other mem
          rcases List.mem_cons.mp mem with rfl | old
          · exact ⟨⟨_, whole⟩, before.plain, before.weight, before.opening, before.first⟩
          · exact good.conns other (by simp [conns, old])
        · cases step
      · cases step
  | fail =>
      simp only [World.step] at step
      split at step
      · rename_i attempt unsent c older client conns
        obtain rfl := Option.some.inj step
        simp only [World.Stage, client, conns] at stage
        refine ⟨?_, .next stage.1 stage.2.1⟩
        intro other mem
        rcases List.mem_cons.mp mem with rfl | old
        · exact (good.conns c (by simp [conns])).hangUp
        · exact good.conns other (by simp [conns, old])
      · cases step
  | recv count =>
      simp only [World.step] at step
      split at step
      · rename_i attempt c older client conns
        split at step
        · obtain rfl := Option.some.inj step
          simp only [World.Stage, client, conns] at stage
          obtain ⟨early, made, head, isHead, -, up⟩ := stage
          obtain rfl : c = head := Option.some.inj isHead
          have before := good.conns c (by simp [conns])
          refine ⟨?_, ?_⟩
          · intro other mem
            rcases List.mem_cons.mp mem with rfl | old
            · exact before.hangUp
            · exact good.conns other (by simp [conns, old])
          · split
            · rename_i accepted
              have two : older.length + 1 ≤ 2 := made.trans (by omega)
              exact ⟨two, fun _ => ⟨c.hangUp, rfl, fun calm =>
                before.holds_of_accepts sendable up calm accepted⟩⟩
            · exact .next early made
        · cases step
      · cases step
  | handler i act =>
      simp only [World.step] at step
      split at step
      · rename_i c at'
        obtain ⟨c', stepped, rfl⟩ := Option.map_eq_some_iff.mp step
        have fits := sendable.fits
        rw [List.length_append, List.length_singleton] at fits
        exact good.handler sendable at' (Conn.step_moves (by omega) stepped)
      · cases step

/-! ### The result -/

/-- `devices.update` was called with the complete message, and so was
`mqtt.enqueue` when the gateway has MQTT and the message is not `null`. -/
def Conn.Has (cfg : Config) (message : Json) (text : Text) (c : Conn) : Prop :=
  (text, message) ∈ c.updates ∧
    (cfg.mqtt = true → present message = true → (text, message) ∈ c.enqueues cfg)

/-- The handler is in `drain` behind the whole acknowledgement, where all it can
do is go on to the calls. -/
def Conn.AboutTo (cfg : Config) (codec : Codec) (message : Json) (text : Text) (c : Conn) : Prop :=
  (∃ c', c.step cfg codec (encoded codec message) .proceed = some c' ∧ c'.Has cfg message text) ∧
    ∀ act c', c.step cfg codec (encoded codec message) act = some c' → act = .proceed

theorem Conn.has_of_mem {c : Conn} {received : Received} (complete : Complete text message received)
    (mem : received ∈ c.handled) : c.Has cfg message text := by
  obtain ⟨rfl, rfl⟩ := complete
  have updated : (received.payload, received.parsed) ∈ c.updates := List.mem_map_of_mem mem
  refine ⟨updated, fun mqtt notNull => ?_⟩
  rw [Conn.enqueues, if_pos mqtt]
  exact List.mem_filter.mpr ⟨updated, notNull⟩

theorem Conn.Holds.has {c : Conn} (holds : c.Holds message text) :
    c.Has cfg message text ∨ c.AboutTo cfg codec message text := by
  obtain ⟨received, complete, inHandled | inPhase⟩ := holds
  · exact .inl (Conn.has_of_mem complete inHandled)
  · have proceeds : ∃ c', c.step cfg codec (encoded codec message) .proceed = some c' ∧
        received ∈ c'.handled := by
      simp [Conn.step, inPhase]
    obtain ⟨c', step, mem⟩ := proceeds
    refine .inr ⟨⟨c', step, Conn.has_of_mem complete mem⟩, ?_⟩
    intro act c'' next
    cases Conn.step_takes next with
    | read phase => cases inPhase.symm.trans phase
    | timeout phase => cases inPhase.symm.trans phase
    | endOfStream phase => cases inPhase.symm.trans phase
    | full phase => cases inPhase.symm.trans phase
    | reset unwritten => exact absurd inPhase (unwritten received)
    | flush phase positive left =>
        obtain ⟨-, rfl⟩ := Phase.acking.inj (inPhase.symm.trans phase)
        rw [List.length_nil] at left
        omega
    | proceed phase => rfl

/-- The calls with the complete message on all connections. -/
theorem World.Good.updates_twice (sendable : Sendable cfg codec message text) {w : World}
    (good : w.Good codec message text) :
    (w.conns.flatMap Conn.updates).countP (fun call => call.1 = text) ≤ 2 := by
  have each : ∀ conns : List Conn, (∀ c ∈ conns, c.Good codec message text) →
      (conns.flatMap Conn.updates).countP (fun call => call.1 = text) ≤ conns.length := by
    intro conns all
    induction conns with
    | nil => rfl
    | cons c conns ih =>
        have once := (all c (by simp)).updates_once sendable
        have rest := ih fun other mem => all other (List.mem_cons_of_mem _ mem)
        rw [List.flatMap_cons, List.countP_append, List.length_cons]
        omega
  have two : w.conns.length ≤ 2 := by
    have stage := good.stage
    unfold World.Stage at stage
    split at stage <;> omega
  exact (each w.conns good.conns).trans two

theorem enqueues_sublist (cfg : Config) (conns : List Conn) :
    (conns.flatMap (Conn.enqueues cfg)).Sublist (conns.flatMap Conn.updates) := by
  induction conns with
  | nil => exact .slnil
  | cons c conns ih =>
      rw [List.flatMap_cons, List.flatMap_cons]
      refine List.Sublist.append ?_ ih
      unfold Conn.enqueues
      split
      · exact List.filter_sublist
      · exact List.nil_sublist _

/-- **Over every schedule of segments, delays, partial acknowledgements and
failures, the complete message is passed on at most twice, and after a success
the newest connection has passed it on or can do nothing else, unless a frame
timeout fired there on a part of its text.** -/
theorem success_means_received (sendable : Sendable cfg codec message text) {is : List Action}
    {w : World} (run : Run (link cfg codec message) is w) :
    (w.conns.flatMap Conn.updates).countP (fun call => call.1 = text) ≤ 2 ∧
      (w.conns.flatMap (Conn.enqueues cfg)).countP (fun call => call.1 = text) ≤ 2 ∧
      (w.client = .finished true → ∃ c ∈ w.conns.head?, c.interrupted = false →
        c.Has cfg message text ∨ c.AboutTo cfg codec message text) := by
  have good : w.Good codec message text :=
    run.invariant .init fun _ _ _ good step => good.step sendable step
  have twice := good.updates_twice sendable
  refine ⟨twice, ((enqueues_sublist cfg w.conns).countP_le).trans twice, fun success => ?_⟩
  have stage := good.stage
  simp only [World.Stage, success, true_implies] at stage
  obtain ⟨-, c, newest, holds⟩ := stage
  exact ⟨c, newest, fun calm => (holds calm).has⟩

def reading : Json := .dict [("n", .int 1)]

def readingText : Text := "\x7b\"n\": 1\x7d".toList

/-- The runtime on one message and its acknowledgement; no part of them is JSON. -/
def readingCodec : Codec where
  loads text :=
    if text = readingText then .ok reading
    else if text = ackText then .ok (.dict [("status", .str "OK")])
    else .error (.valueError "syntax error in JSON")
  dumps
    | .dict [("n", .int 1)] => "\x7b\"n\": 1\x7d"
    | _ => "null"

theorem reading_sendable : Sendable .shipped readingCodec reading readingText where
  dumps := rfl
  loads := rfl
  nonempty := by decide
  oneLine := by decide
  fits := by decide
  truncated := by
    intro part sub proper fields
    have checked : ∀ part ∈ ackText.inits, part ≠ ackText →
        strip part ≠ readingText ∧ strip part ≠ ackText := by decide
    obtain ⟨notReading, notAck⟩ := checked part ((List.mem_inits part ackText).mpr sub) proper
    simp [readingCodec, notReading, notAck]

/-- The acknowledgement is read while the handler is still in `drain`. -/
def prompt : List Action :=
  [.connect, .send 9, .handler 0 (.read 9), .handler 0 (.flush 15), .recv 15]

/-- A pause of more than the frame timeout behind the fourth byte. -/
def paused : List Action :=
  [.connect, .send 4, .handler 0 (.read 4), .handler 0 .timeout, .handler 0 (.flush 15),
    .handler 0 .proceed, .send 5, .recv 15, .handler 0 (.read 5), .handler 0 (.flush 15),
    .handler 0 .proceed, .handler 0 .endOfStream]

theorem success_means_received_prompt :
    ∃ w, Run (link .shipped readingCodec reading) prompt w ∧ w.client = .finished true ∧
      (w.conns.flatMap Conn.updates).countP (fun call => call.1 = readingText) ≤ 2 ∧
      (w.conns.flatMap (Conn.enqueues .shipped)).countP (fun call => call.1 = readingText) ≤ 2 ∧
      (w.client = .finished true → ∃ c ∈ w.conns.head?, c.interrupted = false →
        c.Has .shipped reading readingText ∨
          c.AboutTo .shipped readingCodec reading readingText) := by
  have exec : ∃ w, Run (link .shipped readingCodec reading) prompt w ∧ w.client = .finished true :=
    ⟨_, run_iff_exec.mpr rfl, rfl⟩
  obtain ⟨w, run, success⟩ := exec
  exact ⟨w, run, success, success_means_received reading_sendable run⟩

/-- The client has its `True`: after a pause the message is never passed on, and
without one it need not have been passed on yet. -/
theorem success_without_message :
    Sendable .shipped readingCodec reading readingText ∧
      (∃ w, Run (link .shipped readingCodec reading) paused w ∧ w.client = .finished true ∧
        (∀ c ∈ w.conns, c.phase = .closed) ∧
        ∀ c ∈ w.conns, ∀ call ∈ c.updates, call.1 ≠ readingText) ∧
      ∃ w, Run (link .shipped readingCodec reading) prompt w ∧ w.client = .finished true ∧
        (∀ c ∈ w.conns, c.interrupted = false) ∧ ∀ c ∈ w.conns, c.updates = [] := by
  refine ⟨reading_sendable, ⟨_, run_iff_exec.mpr rfl, rfl, ?_, ?_⟩, _, run_iff_exec.mpr rfl,
    rfl, ?_, ?_⟩
  · exact List.forall_mem_singleton.mpr rfl
  · exact List.forall_mem_singleton.mpr (by decide)
  · exact List.forall_mem_singleton.mpr rfl
  · exact List.forall_mem_singleton.mpr rfl

end EdgeGateway.Tcp
