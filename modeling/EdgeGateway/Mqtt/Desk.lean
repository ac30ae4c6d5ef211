import EdgeGateway.Mqtt.Queue

/-!
The publish desk: a queue, at most one message in flight, and what became of
every message.

This is what the queue and the publisher are for, with the modem, the session
and the counters left out. A message carries the number of the call that offered
it. The message in flight stays in the queue, and a delivery takes out whatever
stands at the head by then, as `start` does with `pop(0)`.

`Sound` is the bookkeeping that holds of every desk whatever happens
(`Move.sound`): nothing is in two places, and numbers tell messages apart.
`EdgeGateway.Mqtt.Ledger` shows that the gateway's publisher makes these moves.
-/

namespace EdgeGateway.Mqtt

open EdgeGateway.Lib

/-! ### Messages and their history -/

/-- A payload together with the number of the call that offered it. -/
structure Numbered where
  number : Nat
  text : String
deriving DecidableEq, Repr

abbrev Message := Entry Numbered

/-- The number of the call that offered the message. -/
def Entry.number (message : Message) : Nat := message.payload.number

/-- What became of the messages so far, each list in time order. The two flags
are about the current flight: whether the head of the queue was overwritten by
coalescing since, with no event or response put in after that; and whether an
event or response was put in. -/
structure History where
  offered : List Message
  accepted : List Message
  /-- entries overwritten by coalescing, each with the entry that replaced it -/
  replaced : List (Message × Message)
  /-- entries removed by the eviction branch of `_enqueue_important` -/
  evicted : List Message
  /-- entries handed to `_publish` -/
  passed : List Message
  /-- entries whose `_publish` returned normally -/
  published : List Message
  overwritten : Bool
  overtaken : Bool
deriving Repr

def History.empty : History := ⟨[], [], [], [], [], [], false, false⟩

/-- The call overwrote the head of the queue. -/
def Verdict.hitsHead (queue : List Message) : Verdict Numbered → Bool
  | .coalesced old => queue.head? = some old
  | _ => false

/-- Book a call that offered `message` to `queue` and took `branch`. -/
def History.offer (queue : List Message) (message : Message) (branch : Verdict Numbered)
    (h : History) : History :=
  { h with
    offered := h.offered ++ [message]
    accepted := if branch.accepted then h.accepted ++ [message] else h.accepted
    replaced := match branch with
      | .coalesced old => h.replaced ++ [(old, message)]
      | _ => h.replaced
    evicted := match branch with
      | .evicting victim => h.evicted ++ [victim]
      | _ => h.evicted
    overwritten := (h.overwritten || branch.hitsHead queue) && !branch.inserts
    overtaken := h.overtaken || branch.inserts }

/-- Book a `_publish` that returned normally. -/
def History.deliver (message : Message) (h : History) : History :=
  { h with published := h.published ++ [message] }

/-- Book the start of a `_publish`. -/
def History.pick (message : Message) (h : History) : History :=
  { h with passed := h.passed ++ [message], overwritten := false, overtaken := false }

/-! ### The desk and its moves -/

structure Desk where
  queue : List Message
  inFlight : Option Message
  history : History
deriving Repr

def Desk.empty : Desk := ⟨[], none, .empty⟩

inductive Act where
  | offer (message : Message)
  | deliver
  | abandon
  | pick
deriving Repr

/-- One move of the desk. A message is offered under the next free number. -/
inductive Move (capacity : Nat) : Desk → Act → Desk → Prop where
  | offer {queue queue' : List Message} {inFlight : Option Message} {history : History}
      {message : Message} {branch : Verdict Numbered} :
      message.number = history.offered.length →
      Offered capacity queue message branch queue' →
      Move capacity ⟨queue, inFlight, history⟩ (.offer message)
        ⟨queue', inFlight, history.offer queue message branch⟩
  | deliver {head message : Message} {rest : List Message} {history : History} :
      Move capacity ⟨head :: rest, some message, history⟩ .deliver
        ⟨rest, none, history.deliver message⟩
  | abandon {queue : List Message} {message : Message} {history : History} :
      Move capacity ⟨queue, some message, history⟩ .abandon ⟨queue, none, history⟩
  | pick {head : Message} {rest : List Message} {history : History} :
      Move capacity ⟨head :: rest, none, history⟩ .pick
        ⟨head :: rest, some head, history.pick head⟩

/-! ### Sound bookkeeping -/

structure Sound (capacity : Nat) (d : Desk) : Prop where
  bound : d.queue.length ≤ capacity
  called : ∀ m ∈ d.history.offered, m.number < d.history.offered.length
  sorted : d.history.offered.Pairwise fun a b => a.number < b.number
  accepted : d.history.accepted.Sublist d.history.offered
  queued : ∀ m ∈ d.queue, m ∈ d.history.accepted
  nodup : d.queue.Nodup
  passed : ∀ m ∈ d.history.passed, m ∈ d.history.accepted
  published : ∀ m ∈ d.history.published, m ∈ d.history.passed
  replaced : ∀ p ∈ d.history.replaced, p.1 ∈ d.history.accepted ∧ p.1 ∉ d.queue
  evicted : ∀ m ∈ d.history.evicted, m ∈ d.history.accepted ∧ m ∉ d.queue
  flying : ∀ m, d.inFlight = some m → m ∈ d.history.passed ∧ d.queue ≠ []
  conserved : d.history.accepted.length = d.queue.length + d.history.published.length +
    d.history.replaced.length + d.history.evicted.length

namespace Sound

variable {capacity : Nat} {d : Desk}

theorem empty : Sound capacity Desk.empty := by
  constructor <;> simp [Desk.empty, History.empty]

theorem numbered (sound : Sound capacity d) :
    ∀ m ∈ d.history.accepted, m.number < d.history.offered.length :=
  fun m mem => sound.called m (sound.accepted.subset mem)

/-- The next number is nobody's. -/
theorem fresh (sound : Sound capacity d) {message : Message}
    (number : message.number = d.history.offered.length) : message ∉ d.history.accepted :=
  fun mem => absurd (sound.numbered message mem) (by omega)

theorem fresh_queue (sound : Sound capacity d) {message : Message}
    (number : message.number = d.history.offered.length) : message ∉ d.queue :=
  fun mem => sound.fresh number (sound.queued message mem)

end Sound

/-- Everything accepted before stays accepted. -/
theorem History.mem_accepted_offer {queue : List Message} {message : Message}
    {branch : Verdict Numbered} {h : History} {x : Message} (mem : x ∈ h.accepted) :
    x ∈ (h.offer queue message branch).accepted := by
  unfold History.offer
  dsimp only
  split
  · exact List.mem_append_left _ mem
  · exact mem

theorem History.accepted_offer_cases {queue : List Message} {message : Message}
    {branch : Verdict Numbered} {h : History} {x : Message}
    (mem : x ∈ (h.offer queue message branch).accepted) :
    x ∈ h.accepted ∨ x = message ∧ branch.accepted = true := by
  unfold History.offer at mem
  dsimp only at mem
  split at mem
  · rename_i accepted
    rcases List.mem_append.mp mem with old | new
    · exact .inl old
    · exact .inr ⟨List.mem_singleton.mp new, accepted⟩
  · exact .inl mem

/-- What a call took out is booked as replaced or evicted. -/
theorem History.replaced_offer_cases {queue : List Message} {message : Message}
    {branch : Verdict Numbered} {h : History} {p : Message × Message}
    (mem : p ∈ (h.offer queue message branch).replaced) :
    p ∈ h.replaced ∨ branch.removed = some p.1 := by
  cases branch <;> simp only [History.offer] at mem
  case coalesced old =>
    rcases List.mem_append.mp mem with before | new
    · exact .inl before
    · obtain rfl := List.mem_singleton.mp new
      exact .inr rfl
  all_goals exact .inl mem

theorem History.evicted_offer_cases {queue : List Message} {message : Message}
    {branch : Verdict Numbered} {h : History} {x : Message}
    (mem : x ∈ (h.offer queue message branch).evicted) :
    x ∈ h.evicted ∨ branch.removed = some x := by
  cases branch <;> simp only [History.offer] at mem
  case evicting victim =>
    rcases List.mem_append.mp mem with before | new
    · exact .inl before
    · obtain rfl := List.mem_singleton.mp new
      exact .inr rfl
  all_goals exact .inl mem

/-- Every accepted message is queued, published, replaced or evicted. -/
theorem Offered.conserved {capacity : Nat} {queue queue' : List Message} {message : Message}
    {branch : Verdict Numbered} (call : Offered capacity queue message branch queue') {h : History}
    (before : h.accepted.length =
      queue.length + h.published.length + h.replaced.length + h.evicted.length) :
    let h' := h.offer queue message branch
    h'.accepted.length =
      queue'.length + h'.published.length + h'.replaced.length + h'.evicted.length := by
  intro h'
  cases call <;>
    simp only [h', History.offer, Verdict.accepted, insertImportant, length_afterPrefix,
      List.length_append, List.length_cons, List.length_nil, if_true, Bool.false_eq_true,
      if_false] at before ⊢ <;>
    omega

/-- **Every move keeps the bookkeeping sound.** -/
theorem Move.sound {capacity : Nat} {d d' : Desk} {act : Act} (move : Move capacity d act d')
    (sound : Sound capacity d) : Sound capacity d' := by
  cases move with
  | @offer queue queue' inFlight history message branch number call =>
      have fresh := sound.fresh number
      have unseen : message ∉ queue := sound.fresh_queue number
      have keep : ∀ x ∈ history.accepted, x ∈ (history.offer queue message branch).accepted :=
        fun _ => History.mem_accepted_offer
      have old : ∀ x ∈ history.accepted, x ∉ queue → x ∉ queue' := by
        intro x acc out mem
        rcases call.mem mem with rfl | mem
        · exact fresh acc
        · exact out mem
      refine
        { bound := (call.length sound.bound).2
          called := ?_
          sorted := ?_
          accepted := ?_
          queued := ?_
          nodup := call.pairwise sound.nodup fun x mem =>
            ⟨fun same => unseen (same ▸ mem), fun same => unseen (same ▸ mem)⟩
          passed := fun m mem => keep m (sound.passed m mem)
          published := sound.published
          replaced := ?_
          evicted := ?_
          flying := ?_
          conserved := call.conserved sound.conserved }
      · intro m mem
        simp only [History.offer, List.length_append, List.length_singleton] at mem ⊢
        rcases List.mem_append.mp mem with before | new
        · exact Nat.lt_succ_of_lt (sound.called m before)
        · exact List.mem_singleton.mp new ▸ number ▸ Nat.lt_succ_self _
      · exact List.pairwise_append.mpr ⟨sound.sorted, List.pairwise_singleton _ _,
          fun a ha b hb => by
            obtain rfl := List.mem_singleton.mp hb
            exact number ▸ sound.called a ha⟩
      · unfold History.offer
        dsimp only
        split
        · exact sound.accepted.append (List.Sublist.refl _)
        · exact sound.accepted.trans (List.sublist_append_left _ _)
      · intro m mem
        rcases call.mem mem with rfl | mem
        · cases accepted : branch.accepted with
          | true => simp [History.offer, accepted]
          | false =>
              have : branch = .rejected := by cases branch <;> simp_all [Verdict.accepted]
              subst this
              cases call
              exact absurd mem unseen
        · exact keep m (sound.queued m mem)
      · intro p mem
        rcases History.replaced_offer_cases mem with before | removed
        · obtain ⟨acc, out⟩ := sound.replaced p before
          exact ⟨keep _ acc, old _ acc out⟩
        · exact ⟨keep _ (sound.queued _ (call.removed_mem removed)),
            call.removed_not_mem sound.nodup unseen removed⟩
      · intro m mem
        rcases History.evicted_offer_cases mem with before | removed
        · obtain ⟨acc, out⟩ := sound.evicted m before
          exact ⟨keep _ acc, old _ acc out⟩
        · exact ⟨keep _ (sound.queued _ (call.removed_mem removed)),
            call.removed_not_mem sound.nodup unseen removed⟩
      · intro m flight
        obtain ⟨mem, ne⟩ := sound.flying m flight
        refine ⟨mem, fun nil => ne ?_⟩
        have longer := (call.length sound.bound).1
        dsimp only at nil
        rw [nil] at longer
        exact List.length_eq_zero_iff.mp (Nat.le_zero.mp longer)
  | @deliver head message rest history =>
      have tail : ∀ m ∈ rest, m ∈ head :: rest := fun m => List.mem_cons_of_mem head
      exact
        { bound := Nat.le_of_succ_le sound.bound
          called := sound.called
          sorted := sound.sorted
          accepted := sound.accepted
          queued := fun m mem => sound.queued m (tail m mem)
          nodup := sound.nodup.of_cons
          passed := sound.passed
          published := fun m mem => by
            rcases List.mem_append.mp mem with before | new
            · exact sound.published m before
            · exact List.mem_singleton.mp new ▸ (sound.flying message rfl).1
          replaced := fun p mem => ⟨(sound.replaced p mem).1,
            fun q => (sound.replaced p mem).2 (tail _ q)⟩
          evicted := fun m mem => ⟨(sound.evicted m mem).1,
            fun q => (sound.evicted m mem).2 (tail _ q)⟩
          flying := by simp
          conserved := by
            have before := sound.conserved
            simp only [History.deliver, List.length_append, List.length_cons,
              List.length_nil] at before ⊢
            omega }
  | abandon => exact { sound with flying := by simp }
  | @pick head rest history =>
      exact
        { bound := sound.bound
          called := sound.called
          sorted := sound.sorted
          accepted := sound.accepted
          queued := sound.queued
          nodup := sound.nodup
          passed := fun m mem => by
            rcases List.mem_append.mp mem with before | new
            · exact sound.passed m before
            · exact List.mem_singleton.mp new ▸ sound.queued head (by simp)
          published := fun m mem => List.mem_append_left _ (sound.published m mem)
          replaced := sound.replaced
          evicted := sound.evicted
          flying := fun m flight => by
            obtain rfl : head = m := Option.some.inj flight
            exact ⟨List.mem_append_right _ (by simp), by simp⟩
          conserved := sound.conserved }

end EdgeGateway.Mqtt
