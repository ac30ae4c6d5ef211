import EdgeGateway.Mqtt.Loss
import EdgeGateway.Mqtt.Order

/-!
The shape of the queue, its counters, and the order of publication, over all runs.

Two of the results assume that `MQTT_RESPONSE_TOPIC` is not one of the topics
`_topic` produces, as in the shipped configuration. Then a topic tells the kind
of its messages (`labelled_acts`), and the order of the desk holds of every run:
`queue_invariant` and `publication_order`. The counters need no assumption
(`counters_balanced`).
-/

namespace EdgeGateway.Mqtt

open EdgeGateway.Lib

variable {cfg : Config} {codec : Codec} {is : List Input} {l l' : Ledger} {input : Input}

/-! ### Topics tell kinds -/

/-- The kind of the messages on a topic. -/
def label (cfg : Config) (name : String) : Option Kind :=
  if name = cfg.responseTopic then some .response else kindOfTopic name

/-- What is offered is a decoded message on its own topic, or a response. -/
theorem Ledger.offers_cases {m : Message} (offers : l.offers cfg codec input = some m) :
    (m.topic = cfg.responseTopic ∧ m.kind = .response) ∨
      ∃ parsed, m.topic = topic cfg parsed ∧ m.kind = messageKind parsed := by
  unfold Ledger.offers at offers
  split at offers
  · cases offers
    exact .inr ⟨_, rfl, rfl⟩
  · cases offers
  · cases offers
    exact .inl ⟨rfl, rfl⟩
  · split at offers
    · obtain ⟨⟨m', text⟩, -, rfl⟩ := Option.map_eq_some_iff.mp offers
      exact .inl ⟨rfl, rfl⟩
    · cases offers
  · cases offers

theorem Ledger.offers_of_act? {m : Message} (act : l.act? cfg codec input = some (.offer m)) :
    l.offers cfg codec input = some m := by
  unfold Ledger.act? at act
  split at act
  · cases act
  · cases act
  · obtain ⟨m', offers, same⟩ := Option.map_eq_some_iff.mp act
    cases same
    exact offers

theorem ordered_rule (capacity : Nat) :
    Rule capacity (Ordered (label cfg)) (Labelled (label cfg)) where
  empty := .empty
  keeps := fun sound inv guard move => inv.move sound guard move
  pick := fun _ => trivial

/-! ### The queue and the order of publication -/

/-- The queue as the publisher finds it in any state. -/
structure QueueInvariant (cfg : Config) (l : Ledger) : Prop where
  bound : l.queue.length ≤ cfg.queueCapacity
  front : l.queue.Pairwise fun a b => b.important = true → a.important = true
  next : (∃ m ∈ l.queue, m.important = true) →
    ∃ head, l.queue.head? = some head ∧ head.important = true
  fifo : (l.queue.filter Entry.important).Pairwise fun a b => a.number < b.number
  unique : (l.queue.filter (!·.important)).Pairwise fun a b => a.topic ≠ b.topic
  kinds : ∀ m ∈ l.queue, m.kind ≠ .response → kindOfTopic m.topic = some m.kind
  recast : ∀ p ∈ l.history.replaced, p.1.kind = p.2.kind
  latest : ∀ m ∈ l.queue, m.important = false →
    (l.history.offered.filter fun o => o.topic = m.topic).getLast? = some m
  /-- calls are numbered in their order, so accepted messages stand in acceptance order -/
  numbering : l.history.accepted.Pairwise fun a b => a.number < b.number

section Apart

variable (apart : ∀ parsed, topic cfg parsed ≠ cfg.responseTopic)

include apart

/-- Every message offered is of the kind its topic names. -/
theorem labelled_acts (l : Ledger) (input : Input) :
    Guarded cfg codec (Labelled (label cfg)) l input := by
  intro act isAct
  cases act with
  | offer m =>
      rcases Ledger.offers_cases (Ledger.offers_of_act? isAct) with
        ⟨name, kind⟩ | ⟨parsed, name, kind⟩
      · simp [Labelled, label, name, kind]
      · simp [Labelled, label, name, kind, apart parsed, kindOfTopic_topic]
  | _ => trivial

theorem Ledger.ordered (run : Run (publisher cfg codec) is l) :
    Sound cfg.queueCapacity l.desk ∧ Ordered (label cfg) l.desk :=
  (ordered_rule cfg.queueCapacity).holds run fun _ i s _ _ => labelled_acts apart s i

/-- **The queue invariant holds in every reachable state.** -/
theorem queue_invariant (run : Run (publisher cfg codec) is l) : QueueInvariant cfg l := by
  obtain ⟨sound, ordered⟩ := Ledger.ordered apart run
  refine
    { bound := sound.bound
      front := ordered.line.imp fun ahead => ahead.front
      next := ordered.head_important
      fifo := List.pairwise_filter.mpr (ordered.line.imp fun ahead => ahead.fifo)
      unique := ?_
      kinds := ?_
      recast := fun p mem => (ordered.recast p mem).2
      latest := fun m mem low => ordered.last_offered sound mem low
      numbering := sound.sorted.sublist sound.accepted }
  · refine List.pairwise_filter.mpr (ordered.line.imp fun ahead aLow bLow => ?_)
    exact ahead.unique (by simpa using aLow) (by simpa using bLow)
  · intro m mem notResponse
    have named := ordered.labelled m mem
    unfold label at named
    split at named
    · exact absurd (Option.some.inj named).symm notResponse
    · exact named

omit apart in
theorem queue_invariant_rush :
    QueueInvariant .shipped rushLedger ∧ rushLedger.queue.length = 4 :=
  ⟨queue_invariant Config.shipped_response_apart rush_run, by decide⟩

/-- **Published events and responses keep the order they were accepted in, and
on every telemetry topic no older value follows a newer one.** -/
theorem publication_order (run : Run (publisher cfg codec) is l) :
    (l.history.accepted.Pairwise fun a b => a.number < b.number) ∧
    ((l.history.published.filter Entry.important).Pairwise fun a b => a.number < b.number) ∧
    ∀ name, (l.history.published.filter fun m => !m.important && m.topic = name).Pairwise
      fun a b => a.number ≤ b.number := by
  obtain ⟨sound, ordered⟩ := Ledger.ordered apart run
  refine ⟨sound.sorted.sublist sound.accepted, ?_, fun name => ?_⟩
  · exact List.pairwise_filter.mpr (ordered.published.imp fun order => order.important)
  · refine List.pairwise_filter.mpr (ordered.published.imp fun {a b} order aOn bOn => ?_)
    simp only [Bool.and_eq_true, Bool.not_eq_true', decide_eq_true_eq] at aOn bOn
    exact order.topic aOn.1 bOn.1 (aOn.2.trans bOn.2.symm)

omit apart in
theorem publication_order_troubled :
    let l := troubledLedger
    l.history.published.map Entry.number = [1, 4, 5, 2] ∧
    (l.history.accepted.Pairwise fun a b => a.number < b.number) ∧
    ((l.history.published.filter Entry.important).Pairwise fun a b => a.number < b.number) ∧
    ∀ name, (l.history.published.filter fun m => !m.important && m.topic = name).Pairwise
      fun a b => a.number ≤ b.number :=
  ⟨by decide, publication_order Config.shipped_response_apart troubled_run⟩

end Apart

/-! ### Counters -/

/-- The counters say how long the books are. -/
structure Tallied (h : History) (m : MQTTManager Numbered) : Prop where
  published : m.published = h.published.length
  coalesced : m.coalesced = h.replaced.length
  evictions : m.priorityEvictions = h.evicted.length
  dropped : m.dropped + h.accepted.length = h.evicted.length + h.offered.length

theorem Tallied.congr {h : History} {m m' : MQTTManager Numbered} (tallied : Tallied h m)
    (same : SameCounts m m') : Tallied h m' where
  published := same.published.trans tallied.published
  coalesced := same.coalesced.trans tallied.coalesced
  evictions := same.priorityEvictions.trans tallied.evictions
  dropped := by rw [same.dropped]; exact tallied.dropped

theorem Tallied.picks {h : History} {m : MQTTManager Numbered} (tallied : Tallied h m)
    (flight : Option Message) : Tallied (h.picks flight) m := by
  cases flight with
  | none => exact tallied
  | some message =>
      exact ⟨tallied.published, tallied.coalesced, tallied.evictions, tallied.dropped⟩

/-- The books and the counters move together. -/
theorem Tallied.act (cfg : Config) (act : Option Act) {d : Desk} {m : MQTTManager Numbered}
    (tallied : Tallied d.history m) (queue : d.queue = m.queue)
    (flight : act = some .deliver → d.inFlight ≠ none) :
    Tallied (History.act cfg d act) (m.counted cfg act) := by
  obtain ⟨published, coalesced, evictions, dropped⟩ := tallied
  cases act with
  | none => exact ⟨published, coalesced, evictions, dropped⟩
  | some act =>
      cases act with
      | offer message =>
          simp only [History.act, MQTTManager.counted, ← queue]
          cases verdict cfg d.queue message <;>
            constructor <;>
            simp [History.offer, Verdict.count, Verdict.accepted, published, coalesced,
              evictions] <;>
            omega
      | deliver =>
          obtain ⟨message, inFlight⟩ := Option.ne_none_iff_exists'.mp (flight rfl)
          simp only [History.act, inFlight, Option.map_some, Option.getD_some]
          refine ⟨?_, coalesced, evictions, dropped⟩
          simp [MQTTManager.counted, History.deliver, published]
      | abandon => exact ⟨published, coalesced, evictions, dropped⟩
      | pick => exact ⟨published, coalesced, evictions, dropped⟩

theorem Ledger.act?_deliver (act : l.act? cfg codec input = some .deliver) :
    l.service.inFlight ≠ none := by
  intro idle
  rw [Ledger.act?_idle idle] at act
  obtain ⟨m, -, same⟩ := Option.map_eq_some_iff.mp act
  cases same

/-- **A step keeps the counters in agreement with the books.** -/
theorem Tallied.step (sound : Sound cfg.queueCapacity l.desk)
    (tallied : Tallied l.history l.service.mqtt) (step : l.step cfg codec input = some l') :
    Tallied l'.history l'.service.mqtt := by
  obtain ⟨mid, moves, landing, counts⟩ := Ledger.step_moves sound step
  obtain ⟨s', ran, rfl⟩ := Option.map_eq_some_iff.mp step
  have acted : Tallied (History.act cfg l.desk (l.act? cfg codec input)) _ :=
    Tallied.act cfg _ tallied rfl Ledger.act?_deliver
  refine Tallied.congr ?_ counts
  cases input with
  | enqueue payload parsed => exact acted
  | enqueuePriority payload => exact acted
  | resume lte now outcome => exact acted.picks _

/-- A call during a publish leaves the publish pending and the queue no shorter. -/
theorem Ledger.call_grows {entry : Message} (sound : Sound cfg.queueCapacity l.desk)
    (pending : l.service.pending = .publish entry)
    (call : ∀ lte now outcome, input ≠ .resume lte now outcome)
    (step : l.step cfg codec input = some l') :
    l'.service.pending = .publish entry ∧ l.queue.length ≤ l'.queue.length := by
  have kept : l'.service.pending = l.service.pending := by
    obtain ⟨s', ran, rfl⟩ := Option.map_eq_some_iff.mp step
    cases input with
    | enqueue payload parsed =>
        simp only [Service.step] at ran
        split at ran <;> cases ran <;> rfl
    | enqueuePriority payload => cases ran; rfl
    | resume lte now outcome => exact absurd rfl (call lte now outcome)
  refine ⟨kept.trans pending, ?_⟩
  obtain ⟨mid, moves, landing, -⟩ := Ledger.step_moves sound step
  have same : l'.queue = mid.queue := by
    rcases landing with rfl | pick
    · rfl
    · change l'.desk.queue = mid.queue
      generalize l'.desk = d' at pick ⊢
      cases pick
      rfl
  rw [same]
  rw [Ledger.act?_call call] at moves
  cases offers : l.offers cfg codec input with
  | none =>
      rw [offers] at moves
      obtain rfl : mid = l.desk := moves
      exact le_refl _
  | some message =>
      rw [offers] at moves
      have move : Move cfg.queueCapacity l.desk (.offer message) mid := moves
      have bound := sound.bound
      change l.desk.queue.length ≤ _
      generalize l.desk = d at move bound ⊢
      cases move with
      | offer _ taken => exact (taken.length bound).1

/-- The counters agree with the messages offered, and there is always something
to pop. -/
structure Balanced (cfg : Config) (codec : Codec) (l : Ledger) : Prop where
  offered : l.history.offered.length = l.queue.length + l.service.mqtt.published +
    l.service.mqtt.dropped + l.service.mqtt.coalesced
  evictions : l.service.mqtt.priorityEvictions ≤ l.service.mqtt.dropped
  nonempty : ∀ entry, l.service.pending = .publish entry → l.queue ≠ []
  grows : ∀ entry input l', l.service.pending = .publish entry →
    (∀ lte now outcome, input ≠ .resume lte now outcome) → l.step cfg codec input = some l' →
    l'.service.pending = .publish entry ∧ l.queue.length ≤ l'.queue.length

/-- **The counters balance in every reachable state.** -/
theorem counters_balanced (run : Run (publisher cfg codec) is l) : Balanced cfg codec l := by
  have sound := Ledger.sound run
  have tallied : Tallied l.history l.service.mqtt := by
    refine (run.invariant (I := fun l => Sound cfg.queueCapacity l.desk ∧
      Tallied l.history l.service.mqtt) ⟨Sound.empty, ⟨rfl, rfl, rfl, rfl⟩⟩ ?_).2
    intro s i s' before step
    exact ⟨Ledger.step_sound before.1 step, before.2.step before.1 step⟩
  have conserved := sound.conserved
  have sub : l.history.accepted.length ≤ l.history.offered.length := sound.accepted.length_le
  obtain ⟨published, coalesced, evictions, dropped⟩ := tallied
  refine
    { offered := ?_
      evictions := by omega
      nonempty := fun entry pending => (sound.flying entry ?_).2
      grows := fun entry input l' pending call step => Ledger.call_grows sound pending call step }
  · change _ = l.desk.queue.length + _ + _ + _
    change l.history.accepted.length = _ + l.history.published.length +
      l.history.replaced.length + l.history.evicted.length at conserved
    omega
  · simp [Ledger.desk, Service.inFlight, pending]

theorem counters_balanced_troubled : Balanced .shipped idleCodec troubledLedger :=
  counters_balanced troubled_run

end EdgeGateway.Mqtt
