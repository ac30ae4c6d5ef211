import EdgeGateway.Tcp.Ingest

/-!
What becomes of a connection whose client sends something malformed.

`handle` decodes a frame before its inner `try` and parses it inside. So a text
that is not JSON is acknowledged with a warning, and bytes that are no text end
the connection without an acknowledgement (`frame_survives_iff`).
-/

namespace EdgeGateway.Tcp

open EdgeGateway.Lib EdgeGateway.Mqtt EdgeGateway.Devices

variable {cfg : Config} {codec : Codec} {conn : Nat} {ip : String} {data : Bytes} {w : Ingest}

/-! ### Other connections -/

/-- A handler stays suspended while others run. -/
theorem Ingest.step_beside {w' : Ingest} {step : Step} {handler : Handler}
    (suspended : w.handlers[conn]? = some handler) (other : step.conn ≠ some conn)
    (stepped : w.step cfg codec step = some w') : w'.handlers[conn]? = some handler := by
  have apart {k : Nat} (isConn : step.conn = some k) (new : Handler) :
      (w.handlers.set k new)[conn]? = some handler := by
    have distinct : k ≠ conn := fun same => other (same ▸ isConn)
    rw [List.getElem?_set_ne distinct, suspended]
  cases Ingest.step_takes stepped with
  | opens quiet handlers clients =>
      obtain ⟨bound, -⟩ := List.getElem?_eq_some_iff.mp suspended
      rw [handlers, List.getElem?_append_left bound, suspended]
  | acks received reading quiet handlers clients =>
      rw [handlers]
      exact apart rfl _
  | ends ofConn here running notDrained quiet handlers clients =>
      rw [handlers]
      exact apart ofConn _
  | books draining packets devices calls handlers clients =>
      rw [handlers]
      exact apart rfl _

theorem Ingest.steps_beside {w' : Ingest} {steps : List Step} {handler : Handler}
    (suspended : w.handlers[conn]? = some handler) (others : ∀ step ∈ steps, step.conn ≠ some conn)
    (ran : steps.foldlM (Ingest.step cfg codec) w = some w') :
      w'.handlers[conn]? = some handler := by
  induction steps generalizing w with
  | nil =>
      obtain rfl := Option.some.inj ran
      exact suspended
  | cons step steps ih =>
      obtain ⟨mid, stepped, rest⟩ := Option.bind_eq_some_iff.mp ran
      have still := Ingest.step_beside suspended (others step List.mem_cons_self) stepped
      exact ih still (fun step mem => others step (List.mem_cons_of_mem _ mem)) rest

/-! ### Decoding and parsing -/

/-- The content does not decode or does not parse. -/
def Malformed (codec : Codec) (data : Bytes) : Prop :=
  ∀ payload parsed, Utf8.decode? (rstrip data) = some payload → codec.loads payload ≠ .ok parsed

/-- A frame that decodes is received, and refused exactly if it is malformed. -/
theorem validate_decodable (parses : Codec.Parses codec) {payload : Text}
    (decoded : Utf8.decode? (rstrip data) = some payload) :
    ∃ received refused, validate codec data = .ok (received, refused) ∧
      (Malformed codec data ↔ refused = true) ∧ (refused = true → received.parsed = .null) := by
  simp only [validate, decoded]
  cases loaded : codec.loads payload with
  | ok parsed =>
      refine ⟨_, _, rfl, ⟨fun malformed => ?_, fun refused => ?_⟩, fun refused => ?_⟩
      · exact absurd loaded (malformed payload parsed decoded)
      · cases refused
      · cases refused
  | error exc =>
      simp only [parses payload exc loaded, if_true]
      refine ⟨_, _, rfl, ⟨fun _ => rfl, fun _ other parsed same reads => ?_⟩, fun _ => rfl⟩
      obtain rfl := Option.some.inj (decoded.symm.trans same)
      rw [loaded] at reads
      cases reads

/-! ### Getting over a frame -/

/-- An acknowledgement on a connection. -/
def Call.acks (conn : Nat) : Call → Bool
  | .ack other => other = conn
  | .update _ _ _ _ | .enqueue _ _ | .log _ _ => false

/-- What is called because of one frame: one acknowledgement and, if the frame is
malformed, a warning and no `mqtt.enqueue`. -/
structure Answered (codec : Codec) (conn : Nat) (ip : String) (data : Bytes)
    (calls : List Call) : Prop where
  once : calls.countP (Call.acks conn) = 1
  reported : Malformed codec data →
    .log .warning ("Invalid JSON received from " ++ ip) ∈ calls
  unqueued : Malformed codec data → ∀ payload parsed, .enqueue payload parsed ∉ calls

/-- The connection gets over the frame when the write and the drain succeed:
whatever the others do meanwhile, the handler answers the frame and reads on.
`v` is any state in which the handler still waits for the drain. -/
def Ingest.Survives (cfg : Config) (codec : Codec) (conn : Nat) (ip : String) (data : Bytes)
    (w : Ingest) : Prop :=
  ∃ (w' : Ingest) (received : Received) (before : List Call),
    w.step cfg codec (.message conn data none) = some w' ∧
    w'.handlers[conn]? = some ⟨ip, .draining received⟩ ∧ w'.calls = w.calls ++ before ∧
    ∀ (v : Ingest) now raised, v.handlers[conn]? = some ⟨ip, .draining received⟩ →
      ∃ (v' : Ingest) (after : List Call), v.step cfg codec (.drained conn now raised) = some v' ∧
        v'.handlers[conn]? = some ⟨ip, .reading⟩ ∧ v'.calls = v.calls ++ after ∧
        Answered codec conn ip data (before ++ after)

/-- The drain returns. -/
theorem Ingest.drained_calls (cfg : Config) (codec : Codec) {received : Received} (now : Clock)
    (raised : Option PyError) (draining : w.handlers[conn]? = some ⟨ip, .draining received⟩) :
    ∃ w', w.step cfg codec (.drained conn now raised) = some w' ∧
      w'.handlers[conn]? = some ⟨ip, .reading⟩ ∧
      w'.calls = w.calls ++ (registerCalls ip received now w.devices ++
        queueCalls cfg received raised) := by
  have stepped : w.step cfg codec (.drained conn now raised) =
      some (w.book cfg conn ip received now raised) := by
    simp only [Ingest.step, draining]
  refine ⟨_, stepped, ?_, Ingest.book_calls cfg conn ip received now raised w⟩
  obtain ⟨bound, -⟩ := List.getElem?_eq_some_iff.mp draining
  cases Ingest.step_takes stepped with
  | ends _ _ _ notDrained _ _ _ => exact absurd rfl (notDrained _ _ _)
  | books draining' _ _ _ handlers _ =>
      obtain ⟨rfl, -⟩ := Handler.mk.inj (Option.some.inj (draining'.symm.trans draining))
      rw [handlers]
      exact List.getElem?_set_self bound

/-- Nothing is acknowledged after a drain. -/
theorem countP_acks_book (cfg : Config) (conn : Nat) (ip : String) (received : Received)
    (now : Clock)
    (raised : Option PyError) (m : DeviceManager) :
    (registerCalls ip received now m ++ queueCalls cfg received raised).countP
      (Call.acks conn) = 0 := by
  have first : (registerCalls ip received now m).countP (Call.acks conn) = 0 := by
    unfold registerCalls
    cases (m.update now.isoTime ip received.payload received.parsed).2 <;> rfl
  have second : (queueCalls cfg received raised).countP (Call.acks conn) = 0 := by
    unfold queueCalls
    split
    · cases raised <;> rfl
    · rfl
  rw [List.countP_append, first, second]

/-- `null` and what did not parse are not queued. -/
theorem enqueue_not_mem_book (cfg : Config) (ip : String) {received : Received} (now : Clock)
    (raised : Option PyError) (m : DeviceManager) (absent : received.parsed = .null)
    (payload : Text)
    (parsed : Json) :
    .enqueue payload parsed ∉ registerCalls ip received now m ++
      queueCalls cfg received raised := by
  have none : queueCalls cfg received raised = [] := by
    simp [queueCalls, absent, present]
  rw [none, List.append_nil]
  unfold registerCalls
  cases (m.update now.isoTime ip received.payload received.parsed).2 <;> simp

/-- Bytes that are no text end the handler: the decoding is outside the inner `try`. -/
theorem Ingest.not_survives (undecodable : Utf8.decode? (rstrip data) = none)
    (reading : w.handlers[conn]? = some ⟨ip, .reading⟩) (nonempty : data ≠ []) :
    ¬ w.Survives cfg codec conn ip data := by
  rintro ⟨w', received, before, ran, draining, -⟩
  obtain ⟨bound, -⟩ := List.getElem?_eq_some_iff.mp reading
  have stepped : w.step cfg codec (.message conn data none) =
      some ((w.fetch cfg data).abort conn ip (.unicodeError "")) := by
    simp only [Ingest.step, reading, Ingest.message, Ingest.answer, if_neg nonempty,
      validate_undecodable undecodable]
  obtain rfl := Option.some.inj (stepped.symm.trans ran)
  have ended : ((w.fetch cfg data).handlers.set conn ⟨ip, .finished⟩)[conn]? =
      some ⟨ip, .draining received⟩ := draining
  rw [(w.fetch_spec cfg data).2.1, List.getElem?_set_self bound] at ended
  cases ended

/-- A frame that decodes is answered, whether it parses or not. -/
theorem Ingest.survives (parses : Codec.Parses codec) {payload : Text}
    (decoded : Utf8.decode? (rstrip data) = some payload)
    (reading : w.handlers[conn]? = some ⟨ip, .reading⟩) (nonempty : data ≠ []) :
    w.Survives cfg codec conn ip data := by
  obtain ⟨bound, -⟩ := List.getElem?_eq_some_iff.mp reading
  obtain ⟨received, refused, valid, isMalformed, absent⟩ := validate_decodable parses decoded
  have stepped : w.step cfg codec (.message conn data none) =
      some (w.message cfg codec conn ip data none) := by
    simp only [Ingest.step, reading]
  obtain ⟨-, handlers, -⟩ := w.fetch_spec cfg data
  rw [← handlers] at bound
  set limit : List Call :=
    if cfg.maxMessageSize ≤ data.length then [.log .warning (limitText cfg)] else [] with limitEq
  set warned : List Call :=
    if refused then [.log .warning ("Invalid JSON received from " ++ ip)] else [] with warnedEq
  have fetched : (w.fetch cfg data).calls = w.calls ++ limit := by
    rw [limitEq, Ingest.fetch]
    split
    · rfl
    · exact (List.append_nil _).symm
  refine ⟨_, received, limit ++ (warned ++ [.ack conn]), stepped, ?_, ?_, ?_⟩
  · rw [Ingest.message, Ingest.answer, if_neg nonempty, valid]
    cases refused <;> exact List.getElem?_set_self bound
  · rw [Ingest.message, Ingest.answer, if_neg nonempty, valid, ← List.append_assoc, ← fetched,
      warnedEq]
    cases refused with
    | false => rfl
    | true => exact List.append_assoc _ _ _
  · intro v now raised draining
    obtain ⟨v', ran, goesOn, calls⟩ := Ingest.drained_calls cfg codec now raised draining
    refine ⟨v', _, ran, goesOn, calls, ?_, fun malformed => ?_, fun malformed payload parsed => ?_⟩
    · rw [List.countP_append, countP_acks_book, limitEq, warnedEq]
      cases refused <;> split <;> simp [Call.acks]
    · simp [warnedEq, isMalformed.mp malformed]
    · have isRefused := isMalformed.mp malformed
      have notBooked :=
        enqueue_not_mem_book cfg ip now raised v.devices (absent isRefused) payload parsed
      rw [List.mem_append]
      refine fun either => either.elim ?_ notBooked
      rw [limitEq, warnedEq]
      split <;> simp

/-- **A connection gets over a frame exactly if the frame decodes.** -/
theorem frame_survives_iff (parses : Codec.Parses codec)
    (reading : w.handlers[conn]? = some ⟨ip, .reading⟩) (nonempty : data ≠ []) :
    w.Survives cfg codec conn ip data ↔ (Utf8.decode? (rstrip data)).isSome = true := by
  cases decoded : Utf8.decode? (rstrip data) with
  | none => exact ⟨fun survives => absurd survives
      (Ingest.not_survives decoded reading nonempty), nofun⟩
  | some payload => exact ⟨fun _ => rfl, fun _ => Ingest.survives parses decoded reading nonempty⟩

/-- A frame that decodes is answered, whatever the other handlers do before the
drain returns. -/
theorem frame_answered_beside (survives : w.Survives cfg codec conn ip data) {others : List Step}
    (beside : ∀ step ∈ others, step.conn ≠ some conn) {v : Ingest}
    (ran : (.message conn data none :: others).foldlM (Ingest.step cfg codec) w = some v)
    (now : Clock) (raised : Option PyError) :
    ∃ v', v.step cfg codec (.drained conn now raised) = some v' ∧
      v'.handlers[conn]? = some ⟨ip, .reading⟩ ∧
      ∃ before after, Answered codec conn ip data (before ++ after) ∧ v'.calls = v.calls ++ after ∧
        ∃ w', w.step cfg codec (.message conn data none) = some w' ∧
          w'.calls = w.calls ++ before := by
  obtain ⟨w', received, before, stepped, draining, calls, answers⟩ := survives
  obtain ⟨mid, first, rest⟩ := Option.bind_eq_some_iff.mp ran
  obtain rfl := Option.some.inj (stepped.symm.trans first)
  have still := Ingest.steps_beside draining beside rest
  obtain ⟨v', after, drained, goesOn, more, answered⟩ := answers v now raised still
  exact ⟨v', drained, goesOn, before, after, answered, more, w', stepped, calls⟩

/-- A runtime whose only JSON text is the number 1. -/
def oneCodec : Codec := readsOnly [("1".toList, .int 1)]

/-- A client that has just connected. -/
def oneClient (ip : String) : Ingest := (Ingest.init 50 0).accept ip

/-- A frame that is JSON, and one that is not. -/
theorem frame_survives_iff_one :
    ((oneClient "10.0.0.5").Survives .shipped oneCodec 0 "10.0.0.5" (frame "1") ↔
      (Utf8.decode? (rstrip (frame "1"))).isSome = true) ∧
    ((oneClient "10.0.0.5").Survives .shipped oneCodec 0 "10.0.0.5" (frame "?") ↔
      (Utf8.decode? (rstrip (frame "?"))).isSome = true) :=
  ⟨frame_survives_iff (readsOnly_parses _) rfl (by decide),
    frame_survives_iff (readsOnly_parses _) rfl (by decide)⟩

/-- A byte that starts no character: the line is read as a message, and the
connection is closed without an acknowledgement and without a warning. -/
theorem undecodable_frame_closes :
    (readMessage .shipped [] [some [0xFF, newline]]).1 = [0xFF] ∧
      Run (ingest .shipped oneCodec 50 0) [.accept "10.0.0.5"] (oneClient "10.0.0.5") ∧
      ¬ (oneClient "10.0.0.5").Survives .shipped oneCodec 0 "10.0.0.5" [0xFF] ∧
      ∃ w, Run (ingest .shipped oneCodec 50 0) [.accept "10.0.0.5", .message 0 [0xFF] none] w ∧
        w.calls = [.log .error "TCP client 10.0.0.5: "] ∧
          w.handlers.map Handler.running = [false] :=
  ⟨by decide, run_iff_exec.mpr rfl, Ingest.not_survives (by decide) rfl (by decide), _,
    run_iff_exec.mpr rfl, rfl, rfl⟩

end EdgeGateway.Tcp
