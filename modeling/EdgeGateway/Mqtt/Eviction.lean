import EdgeGateway.Mqtt.Publication

/-!
Which entry makes way for an event or response in a full queue.

`_lowest_priority_index` scans the classes from the cheapest one up, and each
class from the tail of the queue. So the victim is the last entry of the lowest
class present (`lowestPriorityIndex_last`), exactly one entry goes, and the
others keep their order.

An entry has been in the queue since the call that put in its slot: coalescing
refreshes the slot in place. `History.origin` follows the refreshments back to
that call, and `Placed` says that the slots telemetry was appended to stand in the
order of their calls. The last entry of a class is therefore the newest one, and
the oldest only where it is alone (`eviction_oldest_iff`).
-/

namespace EdgeGateway.Mqtt

open EdgeGateway.Lib

variable {α : Type}

/-! ### The lowest class present -/

def lowestClass (queue : List (Entry α)) : Option Kind :=
  [Kind.diagnostic, .fast, .slow, .telemetry].find? fun kind =>
    queue.any fun entry => entry.kind = kind

/-- The entries of the lowest class present. -/
def lowestEntries (queue : List (Entry α)) : List (Entry α) :=
  match lowestClass queue with
  | some kind => queue.filter fun entry => entry.kind = kind
  | none => []

/-- A scan by classes and from the tail ends at the last entry of the first class present. -/
theorem findSome?_lastIdx? {kinds : List Kind} {queue : List (Entry α)} {i : Nat}
    (hit : kinds.findSome? (fun wanted => lastIdx? (fun entry => decide (entry.kind = wanted))
      queue) = some i) :
    ∃ pre victim post, queue = pre ++ victim :: post ∧ pre.length = i ∧
      (kinds.find? fun kind => queue.any fun entry => entry.kind = kind) = some victim.kind ∧
      ∀ entry ∈ post, entry.kind ≠ victim.kind := by
  induction kinds with
  | nil => cases hit
  | cons kind kinds ih =>
      rw [List.findSome?_cons] at hit
      cases found : lastIdx? (fun entry => decide (entry.kind = kind)) queue with
      | none =>
          rw [found] at hit
          have absent : (queue.any fun entry => decide (entry.kind = kind)) = false := by
            rw [List.any_eq_false]
            intro entry mem
            simpa using (lastIdx?_eq_none_iff _).mp found entry mem
          obtain ⟨pre, victim, post, split, length, first, rest⟩ := ih hit
          refine ⟨pre, victim, post, split, length, ?_, rest⟩
          rw [List.find?_cons_of_neg (by simp [absent])]
          exact first
      | some j =>
          rw [found] at hit
          obtain rfl := Option.some.inj hit
          obtain ⟨pre, victim, post, split, length, matched, rest⟩ := lastIdx?_eq_some _ found
          have own : victim.kind = kind := by simpa using matched
          have present : (queue.any fun entry => decide (entry.kind = kind)) = true := by
            rw [List.any_eq_true]
            exact ⟨victim, by simp [split], matched⟩
          refine ⟨pre, victim, post, split, length, ?_, ?_⟩
          · rw [own]
            exact List.find?_cons_of_pos present
          · intro entry mem
            simpa [own] using rest entry mem

/-- **The victim is the last entry of the lowest class present.** -/
theorem lowestPriorityIndex_last {queue : List (Entry α)} {i : Nat}
    (hit : lowestPriorityIndex queue = some i) :
    ∃ pre victim post, queue = pre ++ victim :: post ∧ pre.length = i ∧
      lowestEntries queue = (pre.filter fun entry => entry.kind = victim.kind) ++ [victim] := by
  obtain ⟨pre, victim, post, split, length, first, rest⟩ := findSome?_lastIdx? hit
  refine ⟨pre, victim, post, split, length, ?_⟩
  have behind : (post.filter fun entry => entry.kind = victim.kind) = [] := by
    rw [List.filter_eq_nil_iff]
    intro entry mem
    simpa using rest entry mem
  have lowest : lowestClass queue = some victim.kind := first
  unfold lowestEntries
  rw [lowest]
  dsimp only
  rw [split, List.filter_append, List.filter_cons_of_pos (by simp), behind]

/-! ### Since when an entry is queued -/

/-- The message whose call put in the slot, for every message that stood in it. -/
def originIn (replaced : List (Message × Message)) : Message → Message :=
  replaced.foldl (fun origin p m => if m = p.2 then origin p.1 else origin m) id

def History.origin (h : History) : Message → Message := originIn h.replaced

/-- The number of the call that put in the slot. -/
def History.since (h : History) (m : Message) : Nat := (h.origin m).number

theorem originIn_concat (replaced : List (Message × Message)) (p : Message × Message)
    (m : Message) :
    originIn (replaced ++ [p]) m =
      if m = p.2 then originIn replaced p.1 else originIn replaced m := by
  unfold originIn
  rw [List.foldl_append]
  rfl

/-- A message that replaced none has a slot of its own. -/
theorem originIn_eq_self {replaced : List (Message × Message)} {m : Message}
    (own : ∀ p ∈ replaced, m ≠ p.2) : originIn replaced m = m := by
  induction replaced using List.reverseRecOn with
  | nil => rfl
  | append_singleton replaced p ih =>
      rw [originIn_concat, if_neg (own p (by simp))]
      exact ih fun q mem => own q (List.mem_append_left _ mem)

/-- How slots stand to the ones behind them: those that telemetry was appended to
stand in the order of the calls. -/
structure Placed (d : Desk) : Prop where
  called : ∀ p ∈ d.history.replaced, p.2.number < d.history.offered.length
  numbered : ∀ m ∈ d.queue, d.history.since m ≤ m.number
  low : ∀ m ∈ d.queue, (d.history.origin m).important = false → m.important = false
  line : d.queue.Pairwise fun a b =>
    (d.history.origin a).important = false → d.history.since a < d.history.since b

namespace Placed

variable {capacity : Nat} {d d' : Desk} {act : Act}

theorem empty : Placed Desk.empty := by
  constructor <;> simp [Desk.empty, History.empty]

section Offer

variable {queue queue' : List Message} {inFlight : Option Message} {history : History}
  {message : Message} {branch : Verdict Numbered}

theorem origin_fresh (placed : Placed ⟨queue, inFlight, history⟩)
    (number : message.number = history.offered.length) : history.origin message = message := by
  apply originIn_eq_self
  intro p mem same
  have less := placed.called p mem
  rw [← same, number] at less
  exact absurd less (Nat.lt_irrefl _)

/-- Coalescing hands the slot on. -/
theorem origin_coalesced {old : Message} (m : Message) :
    (history.offer queue message (.coalesced old)).origin m =
      if m = message then history.origin old else history.origin m :=
  originIn_concat history.replaced (old, message) m

theorem called_offer (placed : Placed ⟨queue, inFlight, history⟩)
    (number : message.number = history.offered.length) :
    ∀ p ∈ (history.offer queue message branch).replaced,
      p.2.number < (history.offer queue message branch).offered.length := by
  have grown :
      (history.offer queue message branch).offered.length = history.offered.length + 1 := by
    simp [History.offer]
  have before : ∀ p ∈ history.replaced, p.2.number < history.offered.length + 1 :=
    fun p mem => Nat.lt_succ_of_lt (placed.called p mem)
  intro p mem
  rw [grown]
  cases branch with
  | coalesced old =>
      rcases List.mem_append.mp mem with earlier | new
      · exact before p earlier
      · rw [List.mem_singleton.mp new]
        exact number ▸ Nat.lt_succ_self _
  | _ => exact before p mem

/-- What a call that coalesces nothing does to the slots: the new one is last in
time, and a slot put in front of others is important. -/
theorem offer_fresh (placed : Placed ⟨queue, inFlight, history⟩)
    (number : message.number = history.offered.length)
    (same : (history.offer queue message branch).replaced = history.replaced)
    (mem : ∀ x ∈ queue', x = message ∨ x ∈ queue)
    (line : queue'.Pairwise fun a b =>
      (history.origin a).important = false → history.since a < history.since b) :
    Placed ⟨queue', inFlight, history.offer queue message branch⟩ := by
  have own := placed.origin_fresh number
  have origins : (history.offer queue message branch).origin = history.origin :=
    congrArg originIn same
  have sinces : (history.offer queue message branch).since = history.since :=
    funext fun m => congrArg Entry.number (congrFun origins m)
  constructor
  · exact placed.called_offer number
  · intro m inside
    dsimp only
    rw [sinces]
    rcases mem m inside with rfl | before
    · unfold History.since
      rw [own]
    · exact placed.numbered m before
  · intro m inside
    dsimp only
    rw [origins]
    rcases mem m inside with rfl | before
    · rw [own]
      exact id
    · exact placed.low m before
  · dsimp only
    rw [origins, sinces]
    exact line

/-- An event or response stands behind important entries only, and before none
that its number would matter to. -/
theorem line_insert (placed : Placed ⟨queue, inFlight, history⟩)
    (number : message.number = history.offered.length) (important : message.important = true)
    {part : List Message} (sub : part.Sublist queue) :
    (insertImportant message part).Pairwise fun a b =>
      (history.origin a).important = false → history.since a < history.since b := by
  apply pairwise_afterPrefix_of_parts Entry.important (placed.line.sublist sub)
  · intro y mem low
    have front : y.important = true := List.mem_takeWhile_imp mem
    have inside := sub.subset ((List.takeWhile_sublist _).subset mem)
    exact Entry.clash (placed.low y inside low) front
  · intro y _ low
    rw [placed.origin_fresh number] at low
    exact Entry.clash low important

/-- **A call keeps the slots in place.** -/
theorem offer (sound : Sound capacity ⟨queue, inFlight, history⟩)
    (placed : Placed ⟨queue, inFlight, history⟩)
    (number : message.number = history.offered.length)
    (call : Offered capacity queue message branch queue') :
    Placed ⟨queue', inFlight, history.offer queue message branch⟩ := by
  cases call with
  | @coalesced pre post old _ low matched last =>
      have fresh := sound.fresh_queue number
      have kept : ∀ x ∈ pre ++ old :: post,
          (history.offer (pre ++ old :: post) message (.coalesced old)).origin x =
            history.origin x := by
        intro x mem
        rw [origin_coalesced, if_neg]
        rintro rfl
        exact fresh mem
      have taken : (history.offer (pre ++ old :: post) message (.coalesced old)).origin message =
          history.origin old := by
        rw [origin_coalesced, if_pos rfl]
      obtain ⟨-, behind, cross⟩ := List.pairwise_append.mp placed.line
      constructor
      · exact placed.called_offer number
      · intro m mem
        unfold History.since
        rcases List.mem_append.mp mem with inPre | inRest
        · rw [kept m (by simp [inPre])]
          exact placed.numbered m (by simp [inPre])
        · rcases List.mem_cons.mp inRest with rfl | inPost
          · have before := placed.numbered old (by simp)
            have less := sound.numbered old (sound.queued old (by simp))
            rw [taken, number]
            exact (lt_of_le_of_lt before less).le
          · rw [kept m (by simp [inPost])]
            exact placed.numbered m (by simp [inPost])
      · intro m mem
        rcases List.mem_append.mp mem with inPre | inRest
        · rw [kept m (by simp [inPre])]
          exact placed.low m (by simp [inPre])
        · rcases List.mem_cons.mp inRest with rfl | inPost
          · exact fun _ => low
          · rw [kept m (by simp [inPost])]
            exact placed.low m (by simp [inPost])
      · apply pairwise_replace
        · refine placed.line.imp_of_mem fun memA memB ahead => ?_
          unfold History.since
          rw [kept _ memA, kept _ memB]
          exact ahead
        · intro a mem
          unfold History.since
          rw [kept a (by simp [mem]), taken]
          exact cross a mem old (by simp)
        · intro b mem
          unfold History.since
          rw [kept b (by simp [mem]), taken]
          exact (List.pairwise_cons.mp behind).1 b mem
  | appended low none =>
      refine placed.offer_fresh number rfl ?_ ?_
      · intro x mem
        simpa [or_comm] using mem
      · refine List.pairwise_append.mpr ⟨placed.line, List.pairwise_singleton _ _, ?_⟩
        intro a mem b hb _
        obtain rfl := List.mem_singleton.mp hb
        have before := placed.numbered a mem
        have less := sound.numbered a (sound.queued a mem)
        unfold History.since at before ⊢
        rw [placed.origin_fresh number, number]
        exact lt_of_le_of_lt before less
  | inserted important =>
      refine placed.offer_fresh number rfl (fun x mem => mem_insertImportant.mp mem) ?_
      exact placed.line_insert number important (List.Sublist.refl _)
  | @evicting pre post victim _ important =>
      have sub : (pre ++ post).Sublist (pre ++ victim :: post) :=
        (List.Sublist.refl pre).append (List.sublist_cons_self _ _)
      refine placed.offer_fresh number rfl ?_ (placed.line_insert number important sub)
      intro x mem
      exact (mem_insertImportant.mp mem).imp id fun inside => sub.subset inside
  | rejected =>
      exact placed.offer_fresh number rfl (fun x mem => .inr mem) placed.line

end Offer

theorem move (sound : Sound capacity d) (placed : Placed d) (move : Move capacity d act d') :
    Placed d' := by
  cases move with
  | offer number call => exact placed.offer sound number call
  | @deliver head message rest history =>
      have tail : ∀ m ∈ rest, m ∈ head :: rest := fun m => List.mem_cons_of_mem head
      exact ⟨placed.called, fun m mem => placed.numbered m (tail m mem),
        fun m mem => placed.low m (tail m mem), placed.line.of_cons⟩
  | abandon => exact ⟨placed.called, placed.numbered, placed.low, placed.line⟩
  | pick => exact ⟨placed.called, placed.numbered, placed.low, placed.line⟩

end Placed

theorem placed_rule (capacity : Nat) : Rule capacity Placed fun _ _ => True where
  empty := .empty
  keeps := fun sound placed _ move => placed.move sound move
  pick := fun _ => trivial

/-! ### What an eviction does -/

/-- One entry goes and one comes in; the others stay, in their order. -/
def Removes (queue queue' : List (Entry α)) (entry victim : Entry α) : Prop :=
  ∃ pre post front back, queue = pre ++ victim :: post ∧ queue' = front ++ entry :: back ∧
    front ++ back = pre ++ post

/-- The entry that goes is of the lowest class present, and no entry of that class
has been queued for longer. -/
def RemovesOldest (h : History) (queue queue' : List Message) (entry : Message) : Prop :=
  ∃ victim ∈ lowestEntries queue, Removes queue queue' entry victim ∧
    ∀ m ∈ lowestEntries queue, h.since victim ≤ h.since m

/-- **An event or response offered to a full queue with telemetry in it** is
accepted, for the last entry of the lowest class present. -/
theorem enqueueImportant_evicts {cfg : Config} {m : MQTTManager α}
    (full : cfg.queueCapacity ≤ m.queue.length) (low : ∃ x ∈ m.queue, x.important = false)
    (name : String) (payload : α) (kind : Kind) :
    ∃ others last, lowestEntries m.queue = others ++ [last] ∧
      (∃ pre post, m.queue = pre ++ last :: post ∧ ∀ x ∈ others, x ∈ pre) ∧
      (m.enqueueImportant cfg name payload kind).2 = true ∧
      Removes m.queue (m.enqueueImportant cfg name payload kind).1.queue ⟨name, payload, kind⟩
        last := by
  cases found : lowestPriorityIndex m.queue with
  | none =>
      obtain ⟨x, mem, xLow⟩ := low
      exact Entry.clash xLow (lowestPriorityIndex_eq_none found x mem)
  | some removeAt =>
      obtain ⟨pre, victim, post, split, length, entries⟩ := lowestPriorityIndex_last found
      refine ⟨_, victim, entries, ⟨pre, post, split, fun x mem => List.mem_of_mem_filter mem⟩, ?_⟩
      unfold MQTTManager.enqueueImportant
      rw [if_pos full, found]
      refine ⟨rfl, pre, post, _, _, split, afterPrefix_eq _ _ _, ?_⟩
      rw [List.takeWhile_append_dropWhile, split, ← length, eraseIdx_at_split]

/-- The entry that goes can be told from the queues. -/
theorem Removes.not_mem {queue queue' : List (Entry α)} {entry victim : Entry α}
    (removes : Removes queue queue' entry victim) (nodup : queue.Nodup) (fresh : entry ∉ queue) :
    victim ∉ queue' ∧ ∀ x ∈ queue, x ≠ victim → x ∈ queue' := by
  obtain ⟨pre, post, front, back, rfl, rfl, same⟩ := removes
  rw [List.nodup_middle, List.nodup_cons, ← same] at nodup
  have parts : ∀ x, x ∈ front ++ back ↔ x ∈ pre ++ post := fun x => by rw [same]
  simp only [List.mem_append, List.mem_cons, not_or] at nodup fresh parts ⊢
  constructor
  · exact ⟨nodup.1.1, fun own => fresh.2.1 own.symm, nodup.1.2⟩
  · intro x mem other
    rcases mem with inPre | own | inPost
    · exact ((parts x).mpr (.inl inPre)).imp id .inr
    · exact absurd own other
    · exact ((parts x).mpr (.inr inPost)).imp id .inr

section Oldest

variable {d : Desk} {queue' others : List Message} {entry last : Message}

/-- The entry that goes is the oldest exactly when every other entry of its class
took over the slot of an event or response that was put in no earlier. -/
theorem removesOldest_iff {capacity : Nat} (sound : Sound capacity d) (placed : Placed d)
    (fresh : entry ∉ d.queue) (entries : lowestEntries d.queue = others ++ [last])
    (before : ∃ pre post, d.queue = pre ++ last :: post ∧ ∀ x ∈ others, x ∈ pre)
    (removes : Removes d.queue queue' entry last) :
    RemovesOldest d.history d.queue queue' entry ↔
      ∀ m ∈ others, (d.history.origin m).important = true ∧
        d.history.since last ≤ d.history.since m := by
  unfold RemovesOldest
  rw [entries]
  constructor
  · rintro ⟨victim, -, removes', oldest⟩ m mem
    have gone := (removes'.not_mem sound.nodup fresh).1
    have inside : victim ∈ d.queue := by
      obtain ⟨pre, post, -, -, split, -⟩ := removes'
      simp [split]
    obtain rfl : victim = last := by
      by_contra other
      exact gone ((removes.not_mem sound.nodup fresh).2 victim inside other)
    have since := oldest m (List.mem_append_left _ mem)
    refine ⟨?_, since⟩
    obtain ⟨pre, post, split, inPre⟩ := before
    have line := placed.line
    rw [split] at line
    have ahead := (List.pairwise_append.mp line).2.2 m (inPre m mem) victim (by simp)
    by_contra slot
    exact absurd since (not_le.mpr (ahead (Bool.eq_false_iff.mpr slot)))
  · intro later
    refine ⟨last, by simp, removes, ?_⟩
    intro m mem
    rcases List.mem_append.mp mem with other | own
    · exact (later m other).2
    · rw [List.mem_singleton.mp own]

theorem origin_kind {replaced : List (Message × Message)}
    (recast : ∀ p ∈ replaced, p.1.kind = p.2.kind) (m : Message) :
    (originIn replaced m).kind = m.kind := by
  induction replaced using List.reverseRecOn generalizing m with
  | nil => rfl
  | append_singleton replaced p ih =>
      have earlier : ∀ q ∈ replaced, q.1.kind = q.2.kind :=
        fun q mem => recast q (List.mem_append_left _ mem)
      rw [originIn_concat]
      by_cases own : m = p.2
      · rw [if_pos own, ih earlier, recast p (by simp), own]
      · rw [if_neg own, ih earlier]

end Oldest

theorem low_of_mem_lowestEntries {queue : List (Entry α)} {entry : Entry α}
    (mem : entry ∈ lowestEntries queue) : entry.important = false := by
  unfold lowestEntries at mem
  cases lowest : lowestClass queue with
  | none =>
      rw [lowest] at mem
      cases mem
  | some kind =>
      rw [lowest] at mem
      have own : entry.kind = kind := by simpa using List.of_mem_filter mem
      have lows : ∀ k ∈ [Kind.diagnostic, .fast, .slow, .telemetry], k.important = false := by
        decide
      unfold Entry.important
      rw [own]
      exact lows kind (List.mem_of_find?_eq_some lowest)

/-! ### Over all runs -/

section Runs

variable {cfg : Config} {codec : Codec} {is : List Input} {l : Ledger}

theorem Ledger.placed (run : Run (publisher cfg codec) is l) :
    Sound cfg.queueCapacity l.desk ∧ Placed l.desk :=
  (placed_rule cfg.queueCapacity).holds run fun _ _ _ _ _ _ _ => trivial

/-- Where the response topic is apart, no telemetry stands in the slot of a response. -/
theorem Ledger.origin_low (apart : ∀ parsed, topic cfg parsed ≠ cfg.responseTopic)
    (run : Run (publisher cfg codec) is l) {m : Message} (low : m.important = false) :
    (l.history.origin m).important = false := by
  have ordered := (Ledger.ordered apart run).2
  have kind : (l.history.origin m).kind = m.kind :=
    origin_kind (fun p mem => (ordered.recast p mem).2) m
  unfold Entry.important at low ⊢
  rw [kind]
  exact low

/-- **Which entry an accepted event or response evicts.** In every reachable full
queue with telemetry in it, it is the last entry of the lowest class present. That
is the oldest one of its class exactly when every other one took over the slot of
an event or response put in no earlier; where the response topic is apart from the
telemetry topics, exactly when there is no other. -/
theorem eviction_oldest_iff (run : Run (publisher cfg codec) is l)
    (full : cfg.queueCapacity ≤ l.queue.length) (low : ∃ m ∈ l.queue, m.important = false)
    (name text : String) {kind : Kind} (important : kind.important = true) :
    let entry : Message := ⟨name, l.number text, kind⟩
    let result := l.service.mqtt.enqueueImportant cfg name (l.number text) kind
    ∃ others last, lowestEntries l.queue = others ++ [last] ∧
      (result.2 = true ∧ entry.important = true ∧ Removes l.queue result.1.queue entry last) ∧
      (RemovesOldest l.history l.queue result.1.queue entry ↔
        ∀ m ∈ others, (l.history.origin m).important = true ∧
          l.history.since last ≤ l.history.since m) ∧
      ((∀ parsed, topic cfg parsed ≠ cfg.responseTopic) →
        (RemovesOldest l.history l.queue result.1.queue entry ↔ others = [])) := by
  intro entry result
  obtain ⟨sound, placed⟩ := Ledger.placed run
  obtain ⟨others, last, entries, before, accepted, removes⟩ :=
    enqueueImportant_evicts full low name (l.number text) kind
  have fresh : entry ∉ l.desk.queue := sound.fresh_queue rfl
  have oldest := removesOldest_iff sound placed fresh entries before removes
  refine ⟨others, last, entries, ⟨accepted, important, removes⟩, oldest, ?_⟩
  intro apart
  refine oldest.trans ⟨?_, ?_⟩
  · intro slots
    apply List.eq_nil_iff_forall_not_mem.mpr
    intro m mem
    have inside : m ∈ lowestEntries l.queue := by
      unfold Ledger.queue
      rw [entries]
      exact List.mem_append_left _ mem
    have mLow := low_of_mem_lowestEntries inside
    exact Entry.clash (Ledger.origin_low apart run mLow) (slots m mem).1
  · rintro rfl m mem
    cases mem

end Runs

/-! ### A full queue of two readings -/

/-- A publisher with room for two entries. -/
def tight : Config := { Config.shipped with queueCapacity := 2 }

def motorReading (device : String) : Input :=
  .enqueue "21.5" (.dict [("data_class", .str "fast"), ("device_id", .str device)])

def crowd : List Input := [motorReading "motor-1", motorReading "motor-2"]

def crowdedLedger : Ledger := ((publisher tight idleCodec).exec crowd).get (by decide)

theorem crowd_run : Run (publisher tight idleCodec) crowd crowdedLedger :=
  run_iff_exec.mpr (Option.some_get _).symm

theorem eviction_oldest_iff_crowd :
    tight.queueCapacity ≤ crowdedLedger.queue.length ∧
      ∃ others last, lowestEntries crowdedLedger.queue = others ++ [last] := by
  have full : tight.queueCapacity ≤ crowdedLedger.queue.length := by decide
  obtain ⟨others, last, entries, -⟩ := eviction_oldest_iff crowd_run full (by decide) "alarms"
    "overheat" (rfl : Kind.important .event = true)
  exact ⟨full, others, last, entries⟩

/-- An alarm evicts the second reading, and the first one has been queued longer. -/
theorem newer_reading_evicted :
    ∃ l, Run (publisher tight idleCodec) crowd l ∧ tight.queueCapacity ≤ l.queue.length ∧
      (∃ m ∈ l.queue, m.important = false) ∧
      ¬ RemovesOldest l.history l.queue
        (l.service.mqtt.enqueueImportant tight "alarms" (l.number "overheat") .event).1.queue
        ⟨"alarms", l.number "overheat", .event⟩ := by
  refine ⟨crowdedLedger, crowd_run, by decide, by decide, ?_⟩
  rintro ⟨victim, mem, removes, oldest⟩
  obtain ⟨sound, -⟩ := Ledger.placed crowd_run
  have gone := (removes.not_mem sound.nodup (sound.fresh_queue rfl)).1
  have younger : ∀ v ∈ lowestEntries crowdedLedger.queue,
      v ∉ (crowdedLedger.service.mqtt.enqueueImportant tight "alarms"
        (crowdedLedger.number "overheat") .event).1.queue →
      ∃ m ∈ lowestEntries crowdedLedger.queue,
        crowdedLedger.history.since m < crowdedLedger.history.since v := by
    decide
  obtain ⟨m, other, since⟩ := younger victim mem gone
  exact absurd (oldest m other) (not_le.mpr since)

end EdgeGateway.Mqtt
