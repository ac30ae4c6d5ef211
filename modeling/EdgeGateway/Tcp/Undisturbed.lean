import EdgeGateway.Lib.Keyed
import EdgeGateway.Tcp.Malformed

/-!
What a frame that is not JSON does to the device registry.

The parse error is caught before the acknowledgement, and the bookkeeping behind
it runs with `parsed = None`: the frame is filed under the address of its peer, as
a device like any other. So the registry is left alone exactly by the frames whose
acknowledgement is not written and drained (`registry_undisturbed_iff`).
-/

namespace EdgeGateway.Tcp

open EdgeGateway.Lib EdgeGateway.Mqtt EdgeGateway.Devices

variable {cfg : Config} {codec : Codec} {conn : Nat} {ip : String} {data : Bytes} {w : Ingest}
  {write drain : Option PyError}

/-- `update` always changes the registry: it counts a packet of a device that is
known, and files one that is not. -/
theorem update_devices_ne (now ip : String) (payload : Text) (parsed : Json) (m : DeviceManager) :
    (m.update now ip payload parsed).1.devices ≠ m.devices := by
  intro same
  have looked := congrArg (List.lookup (nodeIdOf ip parsed)) same
  unfold DeviceManager.update at looked
  dsimp only at looked
  cases known : m.devices.lookup (nodeIdOf ip parsed) with
  | some device =>
      rw [known] at looked
      have counted := (lookup_mapAt_self (nodeIdOf ip parsed)
        (Device.seen now ip payload parsed) m.devices).symm.trans looked
      rw [known, Option.map_some] at counted
      have packets := congrArg Device.packetCount (Option.some.inj counted)
      exact absurd packets (Nat.succ_ne_self _)
  | none =>
      rw [known] at looked
      dsimp only at looked
      rw [List.lookup_append, List.lookup_cons_self] at looked
      simp at looked

/-- The end of the drain, which raises or not. -/
def Step.drainEnds (conn : Nat) (drain : Option PyError) (now : Clock)
    (raised : Option PyError) : Step :=
  match drain with
  | some exc => .raise conn exc
  | none => .drained conn now raised

/-- The frame leaves the registry alone: the stretch that reads it does, and so
does the one behind its drain, whenever that comes. -/
def Ingest.Undisturbed (cfg : Config) (codec : Codec) (conn : Nat) (data : Bytes)
    (write drain : Option PyError) (w : Ingest) : Prop :=
  ∀ w', w.step cfg codec (.message conn data write) = some w' →
    w'.devices = w.devices ∧
    ∀ (v v' : Ingest) (now : Clock) (raised : Option PyError),
      v.handlers[conn]? = w'.handlers[conn]? →
      v.step cfg codec (.drainEnds conn drain now raised) = some v' → v'.devices = v.devices

/-- Reading a frame books nothing. -/
theorem Ingest.message_devices {w' : Ingest}
    (stepped : w.step cfg codec (.message conn data write) = some w') :
    w'.devices = w.devices := by
  cases Ingest.step_takes stepped with
  | acks _ _ quiet _ _ => exact quiet.devices
  | ends _ _ _ _ quiet _ _ => exact quiet.devices

/-- Neither does what is raised. -/
theorem Ingest.raise_devices {w' : Ingest} {exc : PyError}
    (stepped : w.step cfg codec (.raise conn exc) = some w') : w'.devices = w.devices := by
  cases Ingest.step_takes stepped with
  | ends _ _ _ _ quiet _ _ => exact quiet.devices

/-- The stretch behind a drain always changes the registry. -/
theorem Ingest.drained_devices {w' : Ingest} {now : Clock} {raised : Option PyError}
    (stepped : w.step cfg codec (.drained conn now raised) = some w') :
    w'.devices ≠ w.devices := by
  intro same
  cases Ingest.step_takes stepped with
  | ends _ _ _ notDrained _ _ _ => exact absurd rfl (notDrained _ _ _)
  | books _ _ devices _ _ _ =>
      exact update_devices_ne _ _ _ _ _ (congrArg DeviceManager.devices (devices.symm.trans same))

/-- No acknowledgement of the frame is written: it is empty, it does not decode, the
parser raises something other than a `ValueError`, or the write raises. -/
def Unanswered (codec : Codec) (data : Bytes) (write : Option PyError) : Prop :=
  data = [] ∨ (∃ exc, validate codec data = .error exc) ∨ ∃ exc, write = some exc

/-- An unanswered frame ends its handler. -/
theorem Ingest.message_unanswered (reading : w.handlers[conn]? = some ⟨ip, .reading⟩)
    (unanswered : Unanswered codec data write) {w' : Ingest}
    (stepped : w.step cfg codec (.message conn data write) = some w') :
    w'.handlers[conn]? = some ⟨ip, .finished⟩ := by
  obtain ⟨bound, -⟩ := List.getElem?_eq_some_iff.mp reading
  obtain ⟨-, handlers, -⟩ := w.fetch_spec cfg data
  have ends : ∀ (exc : PyError) (v : Ingest), v.handlers = w.handlers →
      (v.abort conn ip exc).handlers[conn]? = some ⟨ip, .finished⟩ := by
    intro exc v same
    simp only [Ingest.abort, Ingest.finish, Ingest.suspend, Ingest.call, same]
    exact List.getElem?_set_self bound
  simp only [Ingest.step, reading, Option.some.injEq] at stepped
  subst stepped
  unfold Ingest.message Ingest.answer
  split
  · simp only [Ingest.finish, Ingest.suspend, handlers]
    exact List.getElem?_set_self bound
  · rename_i nonempty
    cases valid : validate codec data with
    | error exc => exact ends exc _ handlers
    | ok pair =>
        obtain ⟨received, refused⟩ := pair
        rcases unanswered with empty | ⟨exc, invalid⟩ | ⟨exc, rfl⟩
        · exact absurd empty nonempty
        · rw [valid] at invalid
          cases invalid
        · cases refused with
          | true => exact ends exc _ handlers
          | false => exact ends exc _ handlers

/-- An answered frame leaves its handler waiting for the drain. -/
theorem Ingest.message_answered (reading : w.handlers[conn]? = some ⟨ip, .reading⟩)
    (answered : ¬ Unanswered codec data write) :
    ∃ w' received, w.step cfg codec (.message conn data write) = some w' ∧
      w'.handlers[conn]? = some ⟨ip, .draining received⟩ := by
  obtain ⟨bound, -⟩ := List.getElem?_eq_some_iff.mp reading
  obtain ⟨-, handlers, -⟩ := w.fetch_spec cfg data
  rw [← handlers] at bound
  obtain ⟨nonempty, raises⟩ := not_or.mp answered
  obtain ⟨isValid, isWritten⟩ := not_or.mp raises
  have written : write = none := by
    cases write with
    | none => rfl
    | some exc => exact absurd ⟨exc, rfl⟩ isWritten
  cases valid : validate codec data with
  | error exc => exact absurd ⟨exc, valid⟩ isValid
  | ok pair =>
      obtain ⟨received, refused⟩ := pair
      refine ⟨w.message cfg codec conn ip data write, received, ?_, ?_⟩
      · simp only [Ingest.step, reading]
      · rw [Ingest.message, Ingest.answer, if_neg nonempty, valid, written]
        cases refused with
        | true => exact List.getElem?_set_self bound
        | false => exact List.getElem?_set_self bound

/-- With a parser that raises nothing but `ValueError`, what is not acknowledged is
what is empty or does not decode, and what meets a failing write. -/
theorem unanswered_iff (parses : Codec.Parses codec) :
    Unanswered codec data write ↔
      data = [] ∨ Utf8.decode? (rstrip data) = none ∨ ∃ exc, write = some exc :=
  or_congr_right (or_congr_left (validate_error_iff parses))

/-- A frame that is answered and drained is filed, whether it is JSON or not. -/
theorem undisturbed_iff (reading : w.handlers[conn]? = some ⟨ip, .reading⟩) :
    w.Undisturbed cfg codec conn data write drain ↔
      Unanswered codec data write ∨ ∃ exc, drain = some exc := by
  constructor
  · intro undisturbed
    by_contra neither
    obtain ⟨answered, returns⟩ := not_or.mp neither
    obtain rfl : drain = none := by
      cases drain with
      | none => rfl
      | some exc => exact absurd ⟨exc, rfl⟩ returns
    obtain ⟨w', received, stepped, draining⟩ := Ingest.message_answered reading answered
    have drained : w'.step cfg codec (.drained conn ⟨0, ""⟩ none) =
        some (w'.book cfg conn ip received ⟨0, ""⟩ none) := by
      simp only [Ingest.step, draining]
    exact Ingest.drained_devices drained ((undisturbed w' stepped).2 w' _ _ _ rfl drained)
  · intro undrained w' stepped
    refine ⟨Ingest.message_devices stepped, ?_⟩
    intro v v' now raised same ended
    cases drain with
    | some exc => exact Ingest.raise_devices ended
    | none =>
        have unanswered : Unanswered codec data write := undrained.resolve_right (by simp)
        have finished := Ingest.message_unanswered reading unanswered stepped
        rw [finished] at same
        simp only [Step.drainEnds, Ingest.step, same] at ended
        cases ended

/-- **A frame leaves the registry alone exactly if its acknowledgement is not written
and drained**, whether it is JSON or not. -/
theorem registry_undisturbed_iff (reading : w.handlers[conn]? = some ⟨ip, .reading⟩) :
    (w.Undisturbed cfg codec conn data write drain ↔
        Unanswered codec data write ∨ ∃ exc, drain = some exc) ∧
      (Codec.Parses codec → (w.Undisturbed cfg codec conn data write drain ↔
        (data = [] ∨ Utf8.decode? (rstrip data) = none ∨ ∃ exc, write = some exc) ∨
          ∃ exc, drain = some exc)) := by
  refine ⟨undisturbed_iff reading, fun parses => (undisturbed_iff reading).trans ?_⟩
  exact or_congr_left (unanswered_iff parses)

/-- A frame that is no JSON, with a drain that raises and one that returns. -/
theorem registry_undisturbed_iff_one :
    (oneClient "10.0.0.5").Undisturbed .shipped oneCodec 0 (frame "?") none
        (some (.osError "ECONNRESET")) ∧
      ¬ (oneClient "10.0.0.5").Undisturbed .shipped oneCodec 0 (frame "?") none none := by
  constructor
  · exact (registry_undisturbed_iff rfl).1.mpr (.inr ⟨_, rfl⟩)
  · intro undisturbed
    rcases ((registry_undisturbed_iff rfl).2 (readsOnly_parses _)).mp undisturbed with
      (empty | undecodable | ⟨_, none⟩) | ⟨_, none⟩
    · exact absurd empty (by decide)
    · exact absurd undecodable (by decide)
    · cases none
    · cases none

/-! ### A peer that sends no JSON -/

/-- A device is filed, and a second client connects. -/
def filed : List Step :=
  [.accept "10.0.0.5", .message 0 (frame "1") none, .drained 0 ⟨0, "2024-01-01 00:00:00"⟩ none,
    .accept "10.0.0.6"]

/-- In a registry of one, a frame that is no JSON evicts the device that is filed,
and files its own peer. -/
theorem invalid_frame_evicts :
    ∃ w w', Run (ingest .shipped oneCodec 1 0) filed w ∧
      w.handlers[1]? = some ⟨"10.0.0.6", .reading⟩ ∧ Malformed oneCodec (frame "?") ∧
      Run (ingest .shipped oneCodec 1 0) (filed ++ [.message 1 (frame "?") none,
        .drained 1 ⟨0, "2024-01-01 00:00:01"⟩ none]) w' ∧
      keys w.devices.devices = ["10.0.0.5".toList] ∧
      keys w'.devices.devices = ["10.0.0.6".toList] ∧
      ¬ w.Undisturbed .shipped oneCodec 1 (frame "?") none none := by
  refine ⟨_, _, run_iff_exec.mpr rfl, rfl, ?_, run_iff_exec.mpr rfl, rfl, rfl, ?_⟩
  · intro payload parsed decoded loaded
    have text : Utf8.decode? (rstrip (frame "?")) = some "?".toList := by decide
    obtain rfl := Option.some.inj (text.symm.trans decoded)
    cases loaded
  · intro undisturbed
    have same := (undisturbed _ rfl).2 _ _ ⟨0, "2024-01-01 00:00:01"⟩ none rfl rfl
    have peers := congrArg (fun m : DeviceManager => keys m.devices) same
    exact absurd peers (by decide)

end EdgeGateway.Tcp
