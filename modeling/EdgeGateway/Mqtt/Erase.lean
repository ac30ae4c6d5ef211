import EdgeGateway.Mqtt.Ledger
import Mathlib.Data.List.InsertIdx

/-!
The numbers of the ledger are not part of the program.

`enqueue`, `_handle_event` and the publisher only move payloads around, so they
commute with any map of payloads (`Service.step_map`). The map that forgets the
numbers turns the runs of the ledger into the runs of the service on plain texts,
input by input, and misses none (`run_service_iff`).
-/

namespace EdgeGateway.Mqtt

open EdgeGateway.Lib

variable {α β : Type} (f : α → β)

/-! ### Maps of payloads -/

def Entry.map (entry : Entry α) : Entry β := ⟨entry.topic, f entry.payload, entry.kind⟩

def MQTTManager.map (m : MQTTManager α) : MQTTManager β :=
  { m with queue := m.queue.map (Entry.map f) }

def Await.map : Await α → Await β
  | .notStarted => .notStarted
  | .lteSleep => .lteSleep
  | .provisioning => .provisioning
  | .connecting => .connecting
  | .publish entry => .publish (entry.map f)
  | .readEvent => .readEvent
  | .idleSleep => .idleSleep
  | .cleanup => .cleanup
  | .backoff => .backoff

def Service.map (s : Service α) : Service β := ⟨s.mqtt.map f, s.delay, s.pending.map f⟩

/-! ### The queue -/

theorem lowestPriorityIndex_map (queue : List (Entry α)) :
    lowestPriorityIndex (queue.map (Entry.map f)) = lowestPriorityIndex queue := by
  unfold lowestPriorityIndex
  simp only [lastIdx?_map]
  rfl

theorem insertImportant_map (entry : Entry α) (queue : List (Entry α)) :
    insertImportant (entry.map f) (queue.map (Entry.map f)) =
      (insertImportant entry queue).map (Entry.map f) :=
  (map_afterPrefix Entry.important (Entry.map f) entry queue fun _ => rfl).symm

theorem coalesceIndex_map (topic : String) (queue : List (Entry α)) :
    coalesceIndex topic (queue.map (Entry.map f)) = coalesceIndex topic queue := by
  unfold coalesceIndex
  rw [lastIdx?_map]
  rfl

theorem enqueueImportant_map (cfg : Config) (m : MQTTManager α) (topic : String) (payload : α)
    (kind : Kind) :
    (m.map f).enqueueImportant cfg topic (f payload) kind =
      (((m.enqueueImportant cfg topic payload kind).1).map f,
        (m.enqueueImportant cfg topic payload kind).2) := by
  have inserted : ∀ queue : List (Entry α),
      insertImportant ⟨topic, f payload, kind⟩ (queue.map (Entry.map f)) =
        (insertImportant ⟨topic, payload, kind⟩ queue).map (Entry.map f) :=
    insertImportant_map f ⟨topic, payload, kind⟩
  unfold MQTTManager.enqueueImportant
  simp only [MQTTManager.map, List.length_map, lowestPriorityIndex_map]
  split
  · split
    · rfl
    · simp only [List.eraseIdx_map, inserted]
  · simp only [inserted]

theorem enqueueDict_map (cfg : Config) (m : MQTTManager α) (payload : α) (parsed : Dict) :
    (m.map f).enqueueDict cfg (f payload) parsed =
      ((m.enqueueDict cfg payload parsed).1.map f, (m.enqueueDict cfg payload parsed).2) := by
  unfold MQTTManager.enqueueDict
  dsimp only
  split
  · exact enqueueImportant_map f cfg m _ payload _
  · simp only [MQTTManager.map, coalesceIndex_map, List.length_map]
    split
    · simp only [List.map_set, Entry.map]
    · split
      · rfl
      · simp only [List.map_append, List.map_cons, List.map_nil, Entry.map]

theorem reply_map (cfg : Config) (codec : Codec) (now : Readings) (m : MQTTManager α)
    (event : Text) :
    (m.map f).reply cfg codec now event =
      (m.reply cfg codec now event).map fun (m', text) => (m'.map f, text) := by
  have responded : ∀ (k : Nat) (payload : Text),
      respond cfg codec now { m.map f with commandsReceived := k } payload =
        respond cfg codec now { m with commandsReceived := k } payload := by
    intro k payload
    unfold respond statusReport
    simp only [MQTTManager.map, List.length_map]
  unfold MQTTManager.reply
  split
  · split
    · dsimp only
      rw [responded]
      rfl
    · rfl
  · rfl

theorem handleEvent_map (cfg : Config) (codec : Codec) (now : Readings) (wrap : String → α)
    (m : MQTTManager α) (event : Text) :
    (m.map f).handleEvent cfg codec now (f ∘ wrap) event =
      (m.handleEvent cfg codec now wrap event).map f := by
  unfold MQTTManager.handleEvent
  rw [reply_map]
  cases m.reply cfg codec now event with
  | none => rfl
  | some pair =>
      have offered := enqueueImportant_map f cfg pair.1 cfg.responseTopic (wrap pair.2) .response
      exact congrArg Prod.fst offered

/-! ### The publisher -/

theorem serve_map (s : Service α) : (s.map f).serve = s.serve.map f := by
  unfold Service.serve
  cases queue : s.mqtt.queue with
  | nil => simp [Service.map, MQTTManager.map, queue, Await.map]
  | cons entry rest => simp [Service.map, MQTTManager.map, queue, Await.map]

theorem loop_map (lte : Lte) (s : Service α) : (s.map f).loop lte = (s.loop lte).map f := by
  unfold Service.loop
  split
  · rfl
  · have connected : (s.map f).mqtt.connected = s.mqtt.connected := rfl
    rw [connected]
    split
    · rfl
    · exact serve_map f s

theorem publishDone_map (lte : Lte) (entry : Entry α) (s : Service α) :
    (s.map f).publishDone lte (entry.map f) = (s.publishDone lte entry).map f := by
  unfold Service.publishDone
  cases queue : s.mqtt.queue with
  | nil =>
      have same : (s.map f).mqtt.queue = [] := by simp [Service.map, MQTTManager.map, queue]
      rw [same]
      rfl
  | cons head rest =>
      have same : (s.map f).mqtt.queue = head.map f :: rest.map (Entry.map f) := by
        simp [Service.map, MQTTManager.map, queue]
      rw [same]
      dsimp only
      rw [← loop_map]
      rfl

theorem connectDone_map (s : Service α) : (s.map f).connectDone = s.connectDone.map f := by
  unfold Service.connectDone
  rw [← serve_map]
  rfl

/-- **The publisher runs the same on mapped payloads.** -/
theorem resume_map (cfg : Config) (codec : Codec) (lte : Lte) (now : Readings) (wrap : String → α)
    (s : Service α) (outcome : Outcome) :
    (s.map f).resume cfg codec lte now (f ∘ wrap) outcome =
      (s.resume cfg codec lte now wrap outcome).map (Service.map f) := by
  have same : (s.map f).pending = s.pending.map f := rfl
  unfold Service.resume
  rw [same]
  cases s.pending with
  | notStarted =>
      cases outcome with
      | returned event => exact congrArg some (loop_map f lte { s with delay := 5 })
      | raised exc => rfl
  | lteSleep =>
      cases outcome with
      | returned event => exact congrArg some (loop_map f lte s)
      | raised exc => rfl
  | provisioning => cases outcome <;> rfl
  | connecting =>
      cases outcome with
      | returned event => exact congrArg some (connectDone_map f s)
      | raised exc => rfl
  | publish entry =>
      cases outcome with
      | returned event => exact congrArg some (publishDone_map f lte entry s)
      | raised exc => rfl
  | readEvent =>
      cases outcome with
      | returned event =>
          cases event with
          | none => rfl
          | some text =>
              cases text with
              | nil => rfl
              | cons c cs =>
                  simp only [Await.map, Option.map_some, ← loop_map]
                  simp only [Service.map, handleEvent_map, Await.map]
      | raised exc => rfl
  | idleSleep =>
      cases outcome with
      | returned event => exact congrArg some (loop_map f lte s)
      | raised exc => rfl
  | cleanup => cases outcome <;> rfl
  | backoff =>
      cases outcome with
      | returned event =>
          exact congrArg some
            (loop_map f lte { s with delay := min (s.delay * 2) cfg.reconnectMaxSeconds })
      | raised exc => rfl

/-- **So does every step of the manager.** -/
theorem Service.step_map (cfg : Config) (codec : Codec) (wrap : String → α) (s : Service α)
    (input : Input) :
    (s.map f).step cfg codec (f ∘ wrap) input =
      (s.step cfg codec wrap input).map (Service.map f) := by
  cases input with
  | enqueue payload parsed =>
      cases parsed with
      | dict parsed =>
          have offered := enqueueDict_map f cfg s.mqtt (wrap payload) parsed
          have first := congrArg Prod.fst offered
          dsimp only at first
          simp only [Service.step, MQTTManager.enqueue, Service.map, Function.comp_apply,
            Option.map_some, first]
      | _ => rfl
  | enqueuePriority payload =>
      have offered := enqueueImportant_map f cfg s.mqtt cfg.responseTopic (wrap payload) .response
      have first := congrArg Prod.fst offered
      dsimp only at first
      simp only [Service.step, MQTTManager.enqueuePriority, Service.map, Function.comp_apply,
        Option.map_some, first]
  | resume lte now outcome => exact resume_map f cfg codec lte now wrap s outcome

/-! ### Forgetting the numbers -/

/-- The manager and its task, on plain texts. -/
def service (cfg : Config) (codec : Codec) : System (Service String) Input :=
  ⟨.init, Service.step cfg codec id⟩

def Ledger.erase (l : Ledger) : Service String := l.service.map Numbered.text

/-- A step of the ledger is the step of the service on the same input. -/
theorem Ledger.step_erase (cfg : Config) (codec : Codec) (l : Ledger) (input : Input) :
    (l.step cfg codec input).map Ledger.erase = l.erase.step cfg codec id input := by
  have forget : Numbered.text ∘ l.number = id := rfl
  rw [← forget, Ledger.erase, Service.step_map]
  unfold Ledger.step
  rw [Option.map_map]
  rfl

/-- **The runs of the service are the runs of the ledger without its numbers and
books.** -/
theorem run_service_iff {cfg : Config} {codec : Codec} {is : List Input} {s : Service String} :
    Run (service cfg codec) is s ↔ ∃ l, Run (publisher cfg codec) is l ∧ l.erase = s := by
  constructor
  · intro run
    induction run with
    | start => exact ⟨.init, .start, rfl⟩
    | @next is s s' input run step ih =>
        obtain ⟨l, ledgerRun, rfl⟩ := ih
        have erased := Ledger.step_erase cfg codec l input
        rw [show l.erase.step cfg codec id input = some s' from step] at erased
        obtain ⟨l', ledgerStep, same⟩ := Option.map_eq_some_iff.mp erased
        exact ⟨l', .next ledgerRun ledgerStep, same⟩
  · rintro ⟨l, run, rfl⟩
    induction run with
    | start => exact .start
    | @next is l l' input run step ih =>
        have erased := Ledger.step_erase cfg codec l input
        rw [show l.step cfg codec input = some l' from step] at erased
        exact .next ih erased.symm

end EdgeGateway.Mqtt
