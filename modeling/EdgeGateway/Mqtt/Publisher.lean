import EdgeGateway.Mqtt.Command

/-!
The publisher task `MQTTManager.start`.

The task runs alone between two awaits, so it is a step function on the
manager's attributes, the local `delay` and the await it is suspended in. Other
tasks run, and TCP handlers call `enqueue`, while it is suspended. `resume` is
one such stretch: from the return (or exception) of the pending await up to the
next await. `_connect` is two awaits, before and after it sets `CONNECTING`;
`_publish` is one, since nothing of the manager changes between its exchanges.
-/

namespace EdgeGateway.Mqtt

open EdgeGateway.Lib

variable {α : Type}

/-- Where the task is suspended. -/
inductive Await (α : Type) where
  | notStarted
  | lteSleep
  | provisioning
  | connecting
  | publish (entry : Entry α)
  | readEvent
  | idleSleep
  | cleanup
  | backoff
deriving DecidableEq, Repr

/-- How the pending await ended. Only `read_mqtt_event` returns a value. -/
inductive Outcome where
  | returned (event : Option Text)
  | raised (exc : PyError)
deriving Repr

/-- The two modem flags the LTE gate reads. -/
structure Lte where
  responding : Bool
  dataActive : Bool
deriving DecidableEq, Repr

/-- The manager together with its publisher task. -/
structure Service (α : Type) where
  mqtt : MQTTManager α
  delay : Nat
  pending : Await α
deriving Repr

def Service.init : Service α := ⟨.init, 5, .notStarted⟩

/-! ### Stretches between awaits -/

/-- From `if self.queue` on: pick the head of the queue, or poll for events. -/
def Service.serve (s : Service α) : Service α :=
  match s.mqtt.queue with
  | entry :: _ => { s with pending := .publish entry }
  | [] => { s with pending := .readEvent }

/-- From the top of the loop. -/
def Service.loop (lte : Lte) (s : Service α) : Service α :=
  if !lte.responding || !lte.dataActive then
    { s with mqtt := { s.mqtt with state := .waitingForLte }, pending := .lteSleep }
  else if !s.mqtt.connected then
    { s with mqtt := { s.mqtt with state := .provisioning }, pending := .provisioning }
  else s.serve

/-- The `except Exception` branch up to `await self._cleanup()`. -/
def Service.fail (exc : PyError) (s : Service α) : Service α :=
  { s with
    mqtt := { s.mqtt with
      connected := false
      state := .reconnecting
      failed := s.mqtt.failed + 1
      lastError := some exc.text }
    pending := .cleanup }

/-- The end of `_connect`, then `delay = 5` and the rest of the iteration. -/
def Service.connectDone (s : Service α) : Service α :=
  Service.serve
    { s with
      mqtt := { s.mqtt with connected := true, state := .connected, lastError := none }
      delay := 5 }

/-- After `_publish` returned: pop the head, count, and loop. -/
def Service.publishDone (lte : Lte) (entry : Entry α) (s : Service α) : Service α :=
  match s.mqtt.queue with
  | [] => s.fail (.indexError "pop from empty list")
  | _ :: rest =>
      Service.loop lte
        { s with mqtt := { s.mqtt with
            queue := rest
            published := s.mqtt.published + 1
            lastTopic := some entry.topic } }

/-- One stretch of the task: the pending await ends as `outcome`. `_cleanup`
swallows the exceptions of its commands and the sleeps raise none. -/
def Service.resume (cfg : Config) (codec : Codec) (lte : Lte) (now : Readings) (wrap : String → α)
    (s : Service α) (outcome : Outcome) : Option (Service α) :=
  match s.pending, outcome with
  | .notStarted, .returned _ => some ({ s with delay := 5 }.loop lte)
  | .lteSleep, .returned _ => some (s.loop lte)
  | .provisioning, .returned _ =>
      some { s with mqtt := { s.mqtt with state := .connecting }, pending := .connecting }
  | .connecting, .returned _ => some s.connectDone
  | .publish entry, .returned _ => some (s.publishDone lte entry)
  | .readEvent, .returned (some (c :: cs)) =>
      some ({ s with mqtt := s.mqtt.handleEvent cfg codec now wrap (c :: cs) }.loop lte)
  | .readEvent, .returned _ => some { s with pending := .idleSleep }
  | .idleSleep, .returned _ => some (s.loop lte)
  | .cleanup, .returned _ => some { s with pending := .backoff }
  | .backoff, .returned _ =>
      some ({ s with delay := min (s.delay * 2) cfg.reconnectMaxSeconds }.loop lte)
  | .provisioning, .raised exc | .connecting, .raised exc
  | .publish _, .raised exc | .readEvent, .raised exc => some (s.fail exc)
  | .notStarted, .raised _ | .lteSleep, .raised _ | .idleSleep, .raised _
  | .cleanup, .raised _ | .backoff, .raised _ => none

/-! ### What one stretch does -/

/-- The entry `_publish` is working on. -/
def Service.inFlight (s : Service α) : Option (Entry α) :=
  match s.pending with
  | .publish entry => some entry
  | _ => none

/-- `m'` has the counters of `m` that go with the queue. -/
structure SameCounts (m m' : MQTTManager α) : Prop where
  published : m'.published = m.published
  dropped : m'.dropped = m.dropped
  coalesced : m'.coalesced = m.coalesced
  priorityEvictions : m'.priorityEvictions = m.priorityEvictions

theorem SameCounts.trans {m m' m'' : MQTTManager α} (left : SameCounts m m')
    (right : SameCounts m' m'') : SameCounts m m'' :=
  ⟨right.published.trans left.published, right.dropped.trans left.dropped,
    right.coalesced.trans left.coalesced, right.priorityEvictions.trans left.priorityEvictions⟩

/-- A branch counts alike on managers with the same counters. -/
theorem SameCounts.count {m m' : MQTTManager α} (same : SameCounts m m') (branch : Verdict α) :
    SameCounts (branch.count m) (branch.count m') := by
  obtain ⟨published, dropped, coalesced, evictions⟩ := same
  cases branch <;> constructor <;> simp [Verdict.count, published, dropped, coalesced, evictions]

/-- `m'` has the queue of `m`, and these counters. -/
structure SameQueue (m m' : MQTTManager α) : Prop where
  queue : m'.queue = m.queue
  counts : SameCounts m m'

/-- `s` has the queue of `m`, and if it is publishing, it has just picked the head. -/
structure Yields (m : MQTTManager α) (s : Service α) : Prop where
  same : SameQueue m s.mqtt
  flight : s.inFlight = none ∨ ∃ head rest, m.queue = head :: rest ∧ s.inFlight = some head

theorem Service.serve_yields {m : MQTTManager α} {s : Service α} (same : SameQueue m s.mqtt) :
    Yields m s.serve := by
  unfold Service.serve
  split
  · rename_i entry rest queue
    exact ⟨same, .inr ⟨entry, rest, same.queue ▸ queue, rfl⟩⟩
  · exact ⟨same, .inl rfl⟩

theorem Service.loop_yields {lte : Lte} {m : MQTTManager α} {s : Service α}
    (same : SameQueue m s.mqtt) : Yields m (s.loop lte) := by
  unfold Service.loop
  split
  · exact ⟨⟨same.queue, ⟨same.counts.published, same.counts.dropped, same.counts.coalesced,
      same.counts.priorityEvictions⟩⟩, .inl rfl⟩
  · split
    · exact ⟨⟨same.queue, ⟨same.counts.published, same.counts.dropped, same.counts.coalesced,
        same.counts.priorityEvictions⟩⟩, .inl rfl⟩
    · exact Service.serve_yields same

/-- The ways a stretch touches the queue. -/
inductive Stretch (cfg : Config) (codec : Codec) (now : Readings) (wrap : String → α)
    (s : Service α) : Outcome → Service α → Prop where
  /-- no publish was pending and no reply is queued -/
  | quiet {outcome : Outcome} {s' : Service α} :
      s.inFlight = none →
      (∀ event, s.pending = .readEvent → outcome = .returned (some event) →
        s.mqtt.reply cfg codec now event = none) →
      Yields s.mqtt s' → Stretch cfg codec now wrap s outcome s'
  /-- an event was answered -/
  | replied {event : Text} {m : MQTTManager α} {text : String} {s' : Service α} :
      s.pending = .readEvent → s.mqtt.reply cfg codec now event = some (m, text) →
      Yields (m.enqueuePriority cfg cfg.responseTopic (wrap text)).1 s' →
      Stretch cfg codec now wrap s (.returned (some event)) s'
  /-- `_publish` returned and the head was popped -/
  | delivered {entry head : Entry α} {rest : List (Entry α)} {event : Option Text}
      {s' : Service α} :
      s.pending = .publish entry → s.mqtt.queue = head :: rest →
      Yields { s.mqtt with queue := rest, published := s.mqtt.published + 1 } s' →
      Stretch cfg codec now wrap s (.returned event) s'
  /-- `_publish` returned and there was nothing to pop -/
  | starved {entry : Entry α} {event : Option Text} {s' : Service α} :
      s.pending = .publish entry → s.mqtt.queue = [] →
      Stretch cfg codec now wrap s (.returned event) s'
  /-- `_publish` raised -/
  | abandoned {entry : Entry α} {exc : PyError} {s' : Service α} :
      s.pending = .publish entry → Yields s.mqtt s' → s'.inFlight = none →
      Stretch cfg codec now wrap s (.raised exc) s'

theorem MQTTManager.reply_nil (cfg : Config) (codec : Codec) (now : Readings) (m : MQTTManager α) :
    m.reply cfg codec now [] = none := rfl

/-- **Every stretch is one of these.** -/
theorem Service.resume_stretch {cfg : Config} {codec : Codec} {lte : Lte} {now : Readings}
    {wrap : String → α} {s s' : Service α} {outcome : Outcome}
    (step : s.resume cfg codec lte now wrap outcome = some s') :
    Stretch cfg codec now wrap s outcome s' := by
  obtain ⟨m, delay, pending⟩ := s
  unfold Service.resume at step
  dsimp only at step
  split at step <;> cases step
  · exact .quiet rfl (fun _ h => by cases h) (Service.loop_yields ⟨rfl, ⟨rfl, rfl, rfl, rfl⟩⟩)
  · exact .quiet rfl (fun _ h => by cases h) (Service.loop_yields ⟨rfl, ⟨rfl, rfl, rfl, rfl⟩⟩)
  · exact .quiet rfl (fun _ h => by cases h) ⟨⟨rfl, ⟨rfl, rfl, rfl, rfl⟩⟩, .inl rfl⟩
  · exact .quiet rfl (fun _ h => by cases h)
      (Service.serve_yields ⟨rfl, ⟨rfl, rfl, rfl, rfl⟩⟩)
  · rename_i entry event
    cases queue : m.queue with
    | nil => exact .starved rfl queue
    | cons head rest =>
        refine .delivered rfl queue ?_
        simp only [Service.publishDone, queue]
        exact Service.loop_yields ⟨rfl, ⟨rfl, rfl, rfl, rfl⟩⟩
  · rename_i c cs
    cases hit : m.reply cfg codec now (c :: cs) with
    | none =>
        refine .quiet rfl ?_ ?_
        · intro event _ same
          cases same
          exact hit
        · simp only [MQTTManager.handleEvent, hit]
          exact Service.loop_yields ⟨rfl, ⟨rfl, rfl, rfl, rfl⟩⟩
    | some pair =>
        obtain ⟨m', text⟩ := pair
        refine .replied rfl hit ?_
        simp only [MQTTManager.handleEvent, hit]
        exact Service.loop_yields ⟨rfl, ⟨rfl, rfl, rfl, rfl⟩⟩
  · rename_i event nonempty
    refine .quiet rfl ?_ ⟨⟨rfl, ⟨rfl, rfl, rfl, rfl⟩⟩, .inl rfl⟩
    intro event' _ same
    cases same
    cases event' with
    | nil => exact MQTTManager.reply_nil cfg codec now m
    | cons c cs => exact absurd rfl (nonempty c cs)
  · exact .quiet rfl (fun _ h => by cases h) (Service.loop_yields ⟨rfl, ⟨rfl, rfl, rfl, rfl⟩⟩)
  · exact .quiet rfl (fun _ h => by cases h) ⟨⟨rfl, ⟨rfl, rfl, rfl, rfl⟩⟩, .inl rfl⟩
  · exact .quiet rfl (fun _ h => by cases h)
      (Service.loop_yields ⟨rfl, ⟨rfl, rfl, rfl, rfl⟩⟩)
  · exact .quiet rfl (fun _ h => by cases h) ⟨⟨rfl, ⟨rfl, rfl, rfl, rfl⟩⟩, .inl rfl⟩
  · exact .quiet rfl (fun _ h => by cases h) ⟨⟨rfl, ⟨rfl, rfl, rfl, rfl⟩⟩, .inl rfl⟩
  · exact .abandoned rfl ⟨⟨rfl, ⟨rfl, rfl, rfl, rfl⟩⟩, .inl rfl⟩ rfl
  · refine .quiet rfl (fun _ _ h => by cases h) ⟨⟨rfl, ⟨rfl, rfl, rfl, rfl⟩⟩, .inl rfl⟩

end EdgeGateway.Mqtt
