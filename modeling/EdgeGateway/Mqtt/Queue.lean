import EdgeGateway.Mqtt.Topic
import EdgeGateway.Lib.Seq
import Mathlib.Data.List.Nodup

/-!
The publish queue of `MQTTManager`: `enqueue`, `_enqueue_priority`,
`_enqueue_important` and `_lowest_priority_index`.

A queue entry is generic in its payload, which these methods only store: the
gateway queues texts, and `EdgeGateway.Mqtt.Ledger` queues texts that carry the
number of the call that offered them.

`Offered` is the specification of one call, one constructor per branch, and the
verdict names the branch. `enqueue_spec` and `enqueueImportant_spec` say that
the methods take exactly these branches and keep the counters that go with them
(`Verdict.count`); what follows about the queue is proved from `Offered`.
-/

namespace EdgeGateway.Mqtt

open EdgeGateway.Lib

/-- A queue entry `(topic, payload, kind)`. -/
structure Entry (α : Type) where
  topic : String
  payload : α
  kind : Kind
deriving DecidableEq, Repr

/-- The strings `self.state` takes. -/
inductive SessionState where
  | starting | waitingForLte | provisioning | connecting | connected | reconnecting
deriving DecidableEq, Repr

/-- The attributes of an `MQTTManager`. -/
structure MQTTManager (α : Type) where
  queue : List (Entry α)
  connected : Bool
  state : SessionState
  published : Nat
  failed : Nat
  dropped : Nat
  coalesced : Nat
  priorityEvictions : Nat
  lastError : Option String
  lastTopic : Option String
  commandsReceived : Nat
  commandsRejected : Nat
deriving Repr

variable {α : Type}

/-- `__init__`. -/
def MQTTManager.init : MQTTManager α where
  queue := []
  connected := false
  state := .starting
  published := 0
  failed := 0
  dropped := 0
  coalesced := 0
  priorityEvictions := 0
  lastError := none
  lastTopic := none
  commandsReceived := 0
  commandsRejected := 0

/-! ### The methods -/

/-- The entry is an event or a response. -/
def Entry.important (entry : Entry α) : Bool := entry.kind.important

theorem Entry.clash {entry : Entry α} {p : Prop} (low : entry.important = false)
    (high : entry.important = true) : p := by
  rw [low] at high
  cases high

/-- `_lowest_priority_index`, with `none` for `-1`. -/
def lowestPriorityIndex (queue : List (Entry α)) : Option Nat :=
  [Kind.diagnostic, .fast, .slow, .telemetry].findSome? fun wanted =>
    lastIdx? (fun entry => decide (entry.kind = wanted)) queue

/-- The insertion loop at the end of `_enqueue_important`. -/
def insertImportant (entry : Entry α) (queue : List (Entry α)) : List (Entry α) :=
  afterPrefix Entry.important entry queue

/-- `_enqueue_important`: the new state and the returned flag. -/
def MQTTManager.enqueueImportant (cfg : Config) (m : MQTTManager α) (topic : String) (payload : α)
    (kind : Kind) : MQTTManager α × Bool :=
  if cfg.queueCapacity ≤ m.queue.length then
    match lowestPriorityIndex m.queue with
    | none => ({ m with dropped := m.dropped + 1 }, false)
    | some removeAt =>
        ({ m with
            queue := insertImportant ⟨topic, payload, kind⟩ (m.queue.eraseIdx removeAt)
            dropped := m.dropped + 1
            priorityEvictions := m.priorityEvictions + 1 }, true)
  else
    ({ m with queue := insertImportant ⟨topic, payload, kind⟩ m.queue }, true)

/-- `_enqueue_priority`. -/
def MQTTManager.enqueuePriority (cfg : Config) (m : MQTTManager α) (topic : String) (payload : α) :
    MQTTManager α × Bool :=
  m.enqueueImportant cfg topic payload .response

/-- The test of the coalescing loop: `entry[0] == topic and entry[2] != "event"`. -/
def coalesces (topic : String) (entry : Entry α) : Bool :=
  decide (entry.topic = topic ∧ entry.kind ≠ .event)

theorem of_coalesces {topic : String} {entry : Entry α} (matched : coalesces topic entry = true) :
    entry.topic = topic ∧ entry.kind ≠ .event := by
  simpa [coalesces] using matched

/-- The slot the coalescing loop overwrites. -/
def coalesceIndex (topic : String) (queue : List (Entry α)) : Option Nat :=
  lastIdx? (coalesces topic) queue

/-- `enqueue` on a message whose JSON is an object. -/
def MQTTManager.enqueueDict (cfg : Config) (m : MQTTManager α) (payload : α) (parsed : Dict) :
    MQTTManager α × Bool :=
  let topic := topic cfg parsed
  let kind := messageKind parsed
  if kind = .event then
    m.enqueueImportant cfg topic payload kind
  else
    match coalesceIndex topic m.queue with
    | some index =>
        ({ m with queue := m.queue.set index ⟨topic, payload, kind⟩
                  coalesced := m.coalesced + 1 }, true)
    | none =>
        if cfg.queueCapacity ≤ m.queue.length then
          ({ m with dropped := m.dropped + 1 }, false)
        else
          ({ m with queue := m.queue ++ [⟨topic, payload, kind⟩] }, true)

/-- `enqueue`. The first thing it does is `parsed.get`, so any JSON value that is
not an object raises before the queue is looked at. -/
def MQTTManager.enqueue (cfg : Config) (m : MQTTManager α) (payload : α) :
    Json → Except PyError (MQTTManager α × Bool)
  | .dict parsed => .ok (m.enqueueDict cfg payload parsed)
  | other => .error (noGet other)

/-! ### What one call does -/

/-- The branch a call takes. -/
inductive Verdict (α : Type) where
  | coalesced (old : Entry α)
  | appended
  | inserted
  | evicting (victim : Entry α)
  | rejected
deriving Repr

/-- The flag the call returns. -/
def Verdict.accepted : Verdict α → Bool
  | .rejected => false
  | _ => true

/-- The counters a call moves, by branch. -/
def Verdict.count (m : MQTTManager α) : Verdict α → MQTTManager α
  | .coalesced _ => { m with coalesced := m.coalesced + 1 }
  | .appended | .inserted => m
  | .evicting _ => { m with dropped := m.dropped + 1, priorityEvictions := m.priorityEvictions + 1 }
  | .rejected => { m with dropped := m.dropped + 1 }

/-- `Offered capacity queue entry verdict queue'`: offering `entry` to `queue`
takes the branch `verdict` and leaves `queue'`. -/
inductive Offered (capacity : Nat) :
    List (Entry α) → Entry α → Verdict α → List (Entry α) → Prop where
  | coalesced {pre post : List (Entry α)} {old entry : Entry α} :
      entry.important = false → coalesces entry.topic old = true →
      (∀ other ∈ post, coalesces entry.topic other = false) →
      Offered capacity (pre ++ old :: post) entry (.coalesced old) (pre ++ entry :: post)
  | appended {queue : List (Entry α)} {entry : Entry α} :
      entry.important = false → (∀ other ∈ queue, coalesces entry.topic other = false) →
      queue.length < capacity → Offered capacity queue entry .appended (queue ++ [entry])
  | inserted {queue : List (Entry α)} {entry : Entry α} :
      entry.important = true → queue.length < capacity →
      Offered capacity queue entry .inserted (insertImportant entry queue)
  | evicting {pre post : List (Entry α)} {victim entry : Entry α} :
      entry.important = true → capacity ≤ (pre ++ victim :: post).length →
      victim.important = false →
      Offered capacity (pre ++ victim :: post) entry (.evicting victim)
        (insertImportant entry (pre ++ post))
  | rejected {queue : List (Entry α)} {entry : Entry α} :
      capacity ≤ queue.length →
      (entry.important = true → ∀ other ∈ queue, other.important = true) →
      (entry.important = false → ∀ other ∈ queue, coalesces entry.topic other = false) →
      Offered capacity queue entry .rejected queue

/-- The branch the methods take on `entry`. -/
def verdict (cfg : Config) (queue : List (Entry α)) (entry : Entry α) : Verdict α :=
  if entry.important then
    if cfg.queueCapacity ≤ queue.length then
      match (lowestPriorityIndex queue).bind (queue[·]?) with
      | none => .rejected
      | some victim => .evicting victim
    else .inserted
  else
    match (coalesceIndex entry.topic queue).bind (queue[·]?) with
    | some old => .coalesced old
    | none => if cfg.queueCapacity ≤ queue.length then .rejected else .appended

theorem lowestPriorityIndex_eq_none {queue : List (Entry α)}
    (missing : lowestPriorityIndex queue = none) :
    ∀ entry ∈ queue, entry.important = true := by
  intro entry mem
  simp only [lowestPriorityIndex, List.findSome?_eq_none_iff, List.mem_cons, List.not_mem_nil,
    or_false, forall_eq_or_imp, forall_eq, lastIdx?_eq_none_iff, decide_eq_false_iff_not] at missing
  obtain ⟨notDiagnostic, notFast, notSlow, notTelemetry⟩ := missing
  unfold Entry.important
  cases kind : entry.kind with
  | event => rfl
  | response => rfl
  | diagnostic => exact absurd kind (notDiagnostic entry mem)
  | fast => exact absurd kind (notFast entry mem)
  | slow => exact absurd kind (notSlow entry mem)
  | telemetry => exact absurd kind (notTelemetry entry mem)

/-- The entry `_lowest_priority_index` points at is a telemetry-class one. -/
theorem lowestPriorityIndex_eq_some {queue : List (Entry α)} {i : Nat}
    (hit : lowestPriorityIndex queue = some i) :
    ∃ pre victim post, queue = pre ++ victim :: post ∧ pre.length = i ∧
      victim.important = false := by
  obtain ⟨wanted, mem, found⟩ := List.exists_of_findSome?_eq_some hit
  obtain ⟨pre, victim, post, split, len, matched, _⟩ := lastIdx?_eq_some _ found
  refine ⟨pre, victim, post, split, len, ?_⟩
  have kind : victim.kind = wanted := by simpa using matched
  have low : ∀ k ∈ [Kind.diagnostic, .fast, .slow, .telemetry], k.important = false := by decide
  unfold Entry.important
  rw [kind]
  exact low wanted mem

section Spec

variable (cfg : Config) (m : MQTTManager α)

/-- **One call of `_enqueue_important`.** -/
theorem enqueueImportant_spec (topic : String) (payload : α) {kind : Kind}
    (important : kind.important = true) :
    let entry : Entry α := ⟨topic, payload, kind⟩
    let branch := verdict cfg m.queue entry
    ∃ queue', Offered cfg.queueCapacity m.queue entry branch queue' ∧
      m.enqueueImportant cfg topic payload kind =
        ({ branch.count m with queue := queue' }, branch.accepted) := by
  intro entry branch
  have imp : entry.important = true := important
  by_cases full : cfg.queueCapacity ≤ m.queue.length
  · cases found : lowestPriorityIndex m.queue with
    | none =>
        have hb : branch = .rejected := by simp [branch, verdict, imp, full, found]
        rw [hb]
        refine ⟨m.queue, .rejected full (fun _ => lowestPriorityIndex_eq_none found) ?_, ?_⟩
        · intro notImp; rw [imp] at notImp; cases notImp
        · simp [MQTTManager.enqueueImportant, full, found, Verdict.count, Verdict.accepted]
    | some removeAt =>
        obtain ⟨pre, victim, post, split, rfl, notImp⟩ := lowestPriorityIndex_eq_some found
        have slot : m.queue[pre.length]? = some victim := by rw [split]; simp
        have hb : branch = .evicting victim := by
          simp [branch, verdict, imp, full, found, slot]
        rw [hb]
        refine ⟨insertImportant entry (pre ++ post), ?_, ?_⟩
        · rw [split] at full ⊢
          exact .evicting imp full notImp
        · simp only [MQTTManager.enqueueImportant, full, found, if_true, Verdict.count,
            Verdict.accepted]
          rw [split, eraseIdx_at_split]
  · have hb : branch = .inserted := by simp [branch, verdict, imp, full]
    rw [hb]
    refine ⟨insertImportant entry m.queue, .inserted imp (Nat.lt_of_not_le full), ?_⟩
    simp [MQTTManager.enqueueImportant, full, Verdict.count, Verdict.accepted, entry]

/-- **One call of `enqueue`** with an object. -/
theorem enqueueDict_spec (payload : α) (parsed : Dict) :
    let entry : Entry α := ⟨topic cfg parsed, payload, messageKind parsed⟩
    let branch := verdict cfg m.queue entry
    ∃ queue', Offered cfg.queueCapacity m.queue entry branch queue' ∧
      m.enqueueDict cfg payload parsed =
        ({ branch.count m with queue := queue' }, branch.accepted) := by
  intro entry branch
  by_cases event : messageKind parsed = .event
  · have spec := enqueueImportant_spec cfg m (topic cfg parsed) payload
      ((important_messageKind parsed).mpr event)
    have same : m.enqueueDict cfg payload parsed =
        m.enqueueImportant cfg (topic cfg parsed) payload (messageKind parsed) := by
      simp [MQTTManager.enqueueDict, event]
    rw [same]
    exact spec
  · have notImp : entry.important = false :=
      Bool.eq_false_iff.mpr fun h => event ((important_messageKind parsed).mp h)
    cases found : coalesceIndex (topic cfg parsed) m.queue with
    | some index =>
        obtain ⟨pre, old, post, split, rfl, matched, rest⟩ := lastIdx?_eq_some _ found
        have slot : m.queue[pre.length]? = some old := by rw [split]; simp
        have hb : branch = .coalesced old := by
          simp [branch, verdict, notImp, entry, found, slot]
        rw [hb]
        refine ⟨pre ++ entry :: post, ?_, ?_⟩
        · rw [split]; exact .coalesced notImp matched rest
        · simp only [MQTTManager.enqueueDict, event, if_false, found, Verdict.count,
            Verdict.accepted]
          rw [split, set_at_split]
    | none =>
        have noMatch : ∀ other ∈ m.queue, coalesces entry.topic other = false :=
          (lastIdx?_eq_none_iff _).mp found
        by_cases full : cfg.queueCapacity ≤ m.queue.length
        · have hb : branch = .rejected := by
            simp [branch, verdict, notImp, entry, found, full]
          rw [hb]
          refine ⟨m.queue, .rejected full ?_ fun _ => noMatch, ?_⟩
          · intro imp; rw [notImp] at imp; cases imp
          · simp [MQTTManager.enqueueDict, event, found, full, Verdict.count, Verdict.accepted]
        · have hb : branch = .appended := by
            simp [branch, verdict, notImp, entry, found, full]
          rw [hb]
          refine ⟨m.queue ++ [entry], .appended notImp noMatch (Nat.lt_of_not_le full), ?_⟩
          simp [MQTTManager.enqueueDict, event, found, full, Verdict.count, Verdict.accepted, entry]

end Spec

/-! ### Consequences of one call -/

/-- The entry a call takes out of the queue. -/
def Verdict.removed : Verdict α → Option (Entry α)
  | .coalesced old => some old
  | .evicting victim => some victim
  | .appended | .inserted | .rejected => none

/-- An event or response was put in. -/
def Verdict.inserts : Verdict α → Bool
  | .inserted | .evicting _ => true
  | .coalesced _ | .appended | .rejected => false

section Offered

variable {capacity : Nat} {queue queue' : List (Entry α)} {entry : Entry α} {branch : Verdict α}

theorem mem_insertImportant {x : Entry α} :
    x ∈ insertImportant entry queue ↔ x = entry ∨ x ∈ queue :=
  mem_afterPrefix _

/-- Coalescing is for telemetry-class entries, and stays on the topic. -/
theorem Offered.of_coalesced {old : Entry α}
    (call : Offered capacity queue entry (.coalesced old) queue') :
    old ∈ queue ∧ entry.important = false ∧ old.topic = entry.topic := by
  cases call with
  | coalesced low matched _ => exact ⟨by simp, low, (of_coalesces matched).1⟩

/-- Nothing but the offered entry comes in. -/
theorem Offered.mem (call : Offered capacity queue entry branch queue') {x : Entry α}
    (mem : x ∈ queue') : x = entry ∨ x ∈ queue := by
  cases call with
  | coalesced => simp only [List.mem_append, List.mem_cons] at mem ⊢; tauto
  | appended => simpa [or_comm] using mem
  | inserted => exact mem_insertImportant.mp mem
  | evicting =>
      have := mem_insertImportant.mp mem
      simp only [List.mem_append, List.mem_cons] at this ⊢
      tauto
  | rejected => exact .inr mem

/-- An accepted entry is in the queue when the call returns. -/
theorem Offered.entry_mem (call : Offered capacity queue entry branch queue')
    (accepted : branch.accepted = true) : entry ∈ queue' := by
  cases call with
  | coalesced => simp
  | appended => simp
  | inserted => exact mem_insertImportant.mpr (.inl rfl)
  | evicting => exact mem_insertImportant.mpr (.inl rfl)
  | rejected => cases accepted

/-- Only the removed entry goes out. -/
theorem Offered.kept (call : Offered capacity queue entry branch queue') {x : Entry α}
    (mem : x ∈ queue) : x ∈ queue' ∨ branch.removed = some x := by
  cases call with
  | coalesced =>
      simp only [List.mem_append, List.mem_cons, Verdict.removed, Option.some.injEq] at mem ⊢
      rcases mem with h | rfl | h <;> tauto
  | appended => exact .inl (List.mem_append_left _ mem)
  | inserted => exact .inl (mem_insertImportant.mpr (.inr mem))
  | evicting =>
      simp only [mem_insertImportant, List.mem_append, List.mem_cons, Verdict.removed,
        Option.some.injEq] at mem ⊢
      rcases mem with h | rfl | h <;> tauto
  | rejected => exact .inl mem

theorem Offered.removed_mem (call : Offered capacity queue entry branch queue') {x : Entry α}
    (removed : branch.removed = some x) : x ∈ queue := by
  cases call with
  | coalesced => cases removed; simp
  | appended => cases removed
  | inserted => cases removed
  | evicting => cases removed; simp
  | rejected => cases removed

/-- In a queue without repetitions the removed entry is gone. -/
theorem Offered.removed_not_mem (call : Offered capacity queue entry branch queue')
    (nodup : queue.Nodup) (fresh : entry ∉ queue) {x : Entry α}
    (removed : branch.removed = some x) : x ∉ queue' := by
  have ne : x ≠ entry := fun same => fresh (same ▸ call.removed_mem removed)
  cases call with
  | coalesced =>
      cases removed
      rw [List.nodup_middle, List.nodup_cons] at nodup
      simpa [ne] using nodup.1
  | appended => cases removed
  | inserted => cases removed
  | evicting =>
      cases removed
      rw [List.nodup_middle, List.nodup_cons] at nodup
      simpa [mem_insertImportant, ne] using nodup.1
  | rejected => cases removed

/-- A call never shortens the queue, and never lets it grow past the capacity. -/
theorem Offered.length (call : Offered capacity queue entry branch queue')
    (bound : queue.length ≤ capacity) :
    queue.length ≤ queue'.length ∧ queue'.length ≤ capacity := by
  cases call with
  | coalesced => simpa using bound
  | appended _ _ room => simp; omega
  | inserted _ room => simp [insertImportant]; omega
  | evicting => simp [insertImportant] at bound ⊢; omega
  | rejected => exact ⟨le_refl _, bound⟩

/-- A relation the new entry has to every queued one, in both directions, survives. -/
theorem Offered.pairwise (call : Offered capacity queue entry branch queue')
    {R : Entry α → Entry α → Prop} (rel : queue.Pairwise R)
    (related : ∀ x ∈ queue, R x entry ∧ R entry x) : queue'.Pairwise R := by
  cases call with
  | coalesced =>
      exact pairwise_replace rel (fun a ha => (related a (by simp [ha])).1)
        fun b hb => (related b (by simp [hb])).2
  | appended =>
      exact List.pairwise_append.mpr ⟨rel, List.pairwise_singleton _ _,
        fun a ha b hb => List.mem_singleton.mp hb ▸ (related a ha).1⟩
  | inserted => exact pairwise_afterPrefix_of_forall _ rel related
  | @evicting pre post victim =>
      have sub : (pre ++ post).Sublist (pre ++ victim :: post) :=
        (List.Sublist.refl pre).append (List.sublist_cons_self _ _)
      exact pairwise_afterPrefix_of_forall _ (rel.sublist sub)
        fun x hx => related x (sub.subset hx)
  | rejected => exact rel

/-- The head of a nonempty queue after a call: an inserted event or response
leaves an important head and does not overtake one, a coalescing over the head
leaves the new entry there, and otherwise the head is what it was. -/
theorem Offered.head {first : Entry α} {rest : List (Entry α)}
    (call : Offered capacity (first :: rest) entry branch queue') :
    ∃ first' rest', queue' = first' :: rest' ∧
      (branch.inserts = true →
        first'.important = true ∧ (first.important = true → first' = first)) ∧
      (branch.inserts = false → first' = first ∨ first' = entry ∧ branch = .coalesced first) := by
  generalize split : first :: rest = whole at call
  cases call with
  | @coalesced pre post old _ =>
      cases pre with
      | nil =>
          obtain ⟨rfl, rfl⟩ := List.cons.inj split
          exact ⟨entry, _, rfl, by simp [Verdict.inserts], fun _ => .inr ⟨rfl, rfl⟩⟩
      | cons _ pre =>
          obtain ⟨rfl, rfl⟩ := List.cons.inj split
          exact ⟨first, _, rfl, by simp [Verdict.inserts], fun _ => .inl rfl⟩
  | appended =>
      subst split
      exact ⟨first, _, rfl, by simp [Verdict.inserts], fun _ => .inl rfl⟩
  | inserted imp =>
      subst split
      obtain ⟨head, tail, eq, headImp, stays⟩ :=
        afterPrefix_head Entry.important (first :: rest) imp
      exact ⟨head, tail, eq, fun _ => ⟨headImp, stays first rfl⟩, by simp [Verdict.inserts]⟩
  | @evicting pre post victim _ imp _ notImp =>
      obtain ⟨head, tail, eq, headImp, stays⟩ :=
        afterPrefix_head Entry.important (pre ++ post) imp
      refine ⟨head, tail, eq, fun _ => ⟨headImp, fun firstImp => ?_⟩, by simp [Verdict.inserts]⟩
      cases pre with
      | nil =>
          obtain ⟨rfl, -⟩ := List.cons.inj split
          rw [firstImp] at notImp
          cases notImp
      | cons _ pre =>
          obtain ⟨rfl, -⟩ := List.cons.inj split
          exact stays first rfl firstImp
  | rejected =>
      subst split
      exact ⟨first, _, rfl, by simp [Verdict.inserts], fun _ => .inl rfl⟩

end Offered

end EdgeGateway.Mqtt
