import EdgeGateway.Mqtt.Desk

/-!
Custody of accepted messages: what a delivery may take out of the queue.

A delivery pops the head, and the head need not be the message that was sent.
Three properties of the desk depend on that, and for each there is a guard on
single moves under which it holds and an invariant that carries it:

* `ImportantKept`: an accepted event or response is queued or was published.
  `ImportantGuard` excludes a delivery of a telemetry-class message that an event
  or response overtook, and a coalescing over a response.
* `NewestKept`: an accepted telemetry-class message is queued, was published, was
  replaced by a later one on its topic, or was evicted. `NewestGuard` excludes a
  delivery after the head was overwritten.
* `PassedOnce`: no message is passed to `_publish` twice. Where no flight is
  abandoned, `OnceGuard` excludes a delivery that leaves the sent message queued.

The first two guards are exact: `ImportantGuard.breaks` and `NewestGuard.breaks`
say that an unguarded move out of an invariant state loses a message.
-/

namespace EdgeGateway.Mqtt

open EdgeGateway.Lib

variable {capacity : Nat} {d d' : Desk} {act : Act}

/-! ### Events and responses -/

/-- Every accepted event or response is queued or was published. -/
def ImportantKept (d : Desk) : Prop :=
  ∀ m ∈ d.history.accepted, m.important = true → m ∈ d.queue ∨ m ∈ d.history.published

instance : Decidable (ImportantKept d) :=
  inferInstanceAs (Decidable (∀ m ∈ d.history.accepted, m.important = true → _ ∨ _))

/-- The moves that keep events and responses. A delivery is for an event or
response, or none was put in during the flight; and a telemetry-class message is
not offered on the topic of a queued response unless a telemetry-class entry on
that topic takes the coalescing. -/
def ImportantGuard (d : Desk) : Act → Prop
  | .deliver => ∀ m ∈ d.inFlight, m.important = true ∨ d.history.overtaken = false
  | .offer m =>
      m.important = false → (∃ r ∈ d.queue, r.topic = m.topic ∧ r.kind = .response) →
        ∃ x ∈ d.queue, x.topic = m.topic ∧ x.important = false
  | .abandon | .pick => True

instance : DecidablePred (ImportantGuard d)
  | .deliver => inferInstanceAs (Decidable (∀ m ∈ d.inFlight, _ ∨ _))
  | .offer m => inferInstanceAs (Decidable (m.important = false →
      (∃ r ∈ d.queue, _ ∧ _) → ∃ x ∈ d.queue, _ ∧ _))
  | .abandon | .pick => inferInstanceAs (Decidable True)

structure ImportantInv (d : Desk) : Prop where
  front : Fronted Entry.important d.queue
  kept : ImportantKept d
  /-- an important message in flight is still the head -/
  own : ∀ m, d.inFlight = some m → m.important = true → d.queue.head? = some m
  /-- nothing important is queued behind a telemetry-class flight unless put in meanwhile -/
  alone : ∀ m, d.inFlight = some m → m.important = false → d.history.overtaken = false →
    ∀ x ∈ d.queue, x.important = false
  /-- an overtaken telemetry-class flight has a new event or response at the head -/
  overtook : ∀ m, d.inFlight = some m → m.important = false → d.history.overtaken = true →
    ∃ head rest, d.queue = head :: rest ∧ head.important = true ∧ head ∉ d.history.passed
  /-- a published event or response has left the queue -/
  left : ∀ m ∈ d.history.published, m.important = true → m ∉ d.queue

theorem ImportantInv.empty : ImportantInv Desk.empty := by
  constructor <;> simp [Desk.empty, History.empty, ImportantKept, Fronted]

/-- On an ordered queue a guarded coalescing never hits a response. -/
theorem ImportantGuard.old_not_important {pre post : List Message} {old message : Message}
    (front : Fronted Entry.important (pre ++ old :: post))
    (matched : coalesces message.topic old = true)
    (last : ∀ x ∈ post, coalesces message.topic x = false)
    (guard : (∃ r ∈ pre ++ old :: post, r.topic = message.topic ∧ r.kind = .response) →
      ∃ x ∈ pre ++ old :: post, x.topic = message.topic ∧ x.important = false) :
    old.important = false := by
  obtain ⟨sameTopic, notEvent⟩ := of_coalesces matched
  by_contra imp
  have imp : old.important = true := by simpa using imp
  have response : old.kind = .response := by
    unfold Entry.important at imp
    cases kind : old.kind <;> simp_all [Kind.important]
  obtain ⟨x, mem, xTopic, xNotImp⟩ := guard ⟨old, by simp, sameTopic, response⟩
  obtain ⟨-, -, cross⟩ := List.pairwise_append.mp front
  rcases List.mem_append.mp mem with inPre | inRest
  · -- A telemetry-class entry cannot stand before a response.
    exact Entry.clash xNotImp (cross x inPre old (by simp) imp)
  · rcases List.mem_cons.mp inRest with rfl | inPost
    · exact Entry.clash xNotImp imp
    · have := last x inPost
      unfold Entry.important at xNotImp
      cases kind : x.kind <;> simp_all [coalesces, Kind.important]

/-- Under the guard whatever an offer removes is telemetry-class. -/
theorem ImportantGuard.removed_low {queue queue' : List Message} {inFlight : Option Message}
    {history : History} {message : Message} {branch : Verdict Numbered}
    (front : Fronted Entry.important queue)
    (guard : ImportantGuard ⟨queue, inFlight, history⟩ (.offer message))
    (call : Offered capacity queue message branch queue') :
    ∀ x, branch.removed = some x → x.important = false := by
  intro x removed
  cases call with
  | coalesced notImp matched last =>
      cases removed
      exact ImportantGuard.old_not_important front matched last (guard notImp)
  | appended => cases removed
  | inserted => cases removed
  | evicting _ _ notImp =>
      cases removed
      exact notImp
  | rejected => cases removed

/-- Then events and responses stay in front. -/
theorem Offered.fronted {queue queue' : List Message} {message : Message}
    {branch : Verdict Numbered} (call : Offered capacity queue message branch queue')
    (front : Fronted Entry.important queue)
    (removedLow : ∀ x, branch.removed = some x → x.important = false) :
    Fronted Entry.important queue' := by
  cases call with
  | coalesced notImp matched last =>
      have oldLow := removedLow _ rfl
      obtain ⟨-, behind, -⟩ := List.pairwise_append.mp front
      refine pairwise_replace front (fun a _ imp => ?_) fun b hb imp => ?_
      · exact Entry.clash notImp imp
      · exact Entry.clash oldLow ((List.pairwise_cons.mp behind).1 b hb imp)
  | appended notImp =>
      refine List.pairwise_append.mpr ⟨front, List.pairwise_singleton _ _, ?_⟩
      intro a _ b hb imp
      obtain rfl := List.mem_singleton.mp hb
      exact Entry.clash notImp imp
  | inserted imp =>
      exact pairwise_afterPrefix _ front front (fun _ _ h _ => h)
        fun _ _ low high => by exact Entry.clash low high
  | @evicting pre post victim imp =>
      have sub : (pre ++ post).Sublist (pre ++ victim :: post) :=
        (List.Sublist.refl pre).append (List.sublist_cons_self _ _)
      have front : Fronted Entry.important (pre ++ post) := List.Pairwise.sublist sub front
      exact pairwise_afterPrefix _ front front (fun _ _ h _ => h)
        fun _ _ low high => by exact Entry.clash low high
  | rejected => exact front

/-- And an event or response at the head stays there. -/
theorem Offered.head_stays {first : Message} {rest queue' : List Message} {message : Message}
    {branch : Verdict Numbered} (call : Offered capacity (first :: rest) message branch queue')
    (imp : first.important = true)
    (removedLow : ∀ x, branch.removed = some x → x.important = false) :
    ∃ rest', queue' = first :: rest' := by
  obtain ⟨first', rest', rfl, ins, keep⟩ := call.head
  cases inserts : branch.inserts with
  | true => exact ⟨rest', by rw [(ins inserts).2 imp]⟩
  | false =>
      rcases keep inserts with rfl | ⟨-, rfl⟩
      · exact ⟨rest', rfl⟩
      · exact Entry.clash (removedLow _ rfl) imp

theorem ImportantInv.offer {queue queue' : List Message} {inFlight : Option Message}
    {history : History} {message : Message} {branch : Verdict Numbered}
    (sound : Sound capacity ⟨queue, inFlight, history⟩)
    (inv : ImportantInv ⟨queue, inFlight, history⟩)
    (guard : ImportantGuard ⟨queue, inFlight, history⟩ (.offer message))
    (number : message.number = history.offered.length)
    (call : Offered capacity queue message branch queue') :
    ImportantInv ⟨queue', inFlight, history.offer queue message branch⟩ := by
  have unpassed : message ∉ history.passed := fun mem => sound.fresh number (sound.passed _ mem)
  have unpublished : message ∉ history.published := fun mem => unpassed (sound.published _ mem)
  have removedLow := ImportantGuard.removed_low inv.front guard call
  have insertsImp : branch.inserts = true ↔ branch.accepted = true ∧ message.important = true := by
    cases call <;> simp_all [Verdict.inserts, Verdict.accepted]
  refine
    { front := call.fronted inv.front removedLow
      kept := ?_, own := ?_, alone := ?_, overtook := ?_, left := ?_ }
  · intro m mem imp
    rcases History.accepted_offer_cases mem with before | ⟨rfl, accepted⟩
    · rcases inv.kept m before imp with queued | published
      · rcases call.kept queued with here | removed
        · exact .inl here
        · exact Entry.clash (removedLow m removed) imp
      · exact .inr published
    · exact .inl (call.entry_mem accepted)
  · intro m flight imp
    have head := inv.own m flight imp
    cases queue with
    | nil => cases head
    | cons first rest =>
        obtain rfl : first = m := by simpa using head
        obtain ⟨rest', rfl⟩ := call.head_stays imp removedLow
        rfl
  · intro m flight low untouched x mem
    have split : history.overtaken = false ∧ branch.inserts = false := by
      simpa [History.offer] using untouched
    rcases call.mem mem with rfl | mem
    · by_contra imp
      have imp : x.important = true := by simpa using imp
      cases accepted : branch.accepted with
      | true => rw [insertsImp.mpr ⟨accepted, imp⟩] at split; cases split.2
      | false =>
          have : branch = .rejected := by cases branch <;> simp_all [Verdict.accepted]
          subst this
          cases call
          exact sound.fresh_queue number mem
    · exact inv.alone m flight low split.1 x mem
  · intro m flight low overtaken
    obtain ⟨-, ne⟩ := sound.flying m flight
    cases queue with
    | nil => exact absurd rfl ne
    | cons first rest =>
        cases before : history.overtaken with
        | true =>
            obtain ⟨head, tail, same, headImp, headNew⟩ := inv.overtook m flight low before
            obtain ⟨rfl, rfl⟩ := List.cons.inj same
            obtain ⟨rest', rfl⟩ := call.head_stays headImp removedLow
            exact ⟨first, rest', rfl, headImp, headNew⟩
        | false =>
            obtain ⟨first', rest', rfl, ins, -⟩ := call.head
            have inserts : branch.inserts = true := by
              simpa [History.offer, before] using overtaken
            obtain ⟨headImp, -⟩ := ins inserts
            refine ⟨first', rest', rfl, headImp, ?_⟩
            rcases call.mem List.mem_cons_self with rfl | mem
            · exact unpassed
            · exact Entry.clash (inv.alone m flight low before first' mem) headImp
  · intro m published imp mem
    rcases call.mem mem with rfl | mem
    · exact unpublished published
    · exact inv.left m published imp mem

theorem ImportantInv.move (sound : Sound capacity d) (inv : ImportantInv d)
    (guard : ImportantGuard d act) (move : Move capacity d act d') : ImportantInv d' := by
  cases move with
  | offer number call => exact inv.offer sound guard number call
  | @deliver head message rest history =>
      have tail : ∀ x ∈ rest, x ∈ head :: rest := fun x => List.mem_cons_of_mem head
      have headOut : head ∉ rest := (List.nodup_cons.mp sound.nodup).1
      -- The popped head is the message that was sent, or telemetry-class.
      have popped : head = message ∨ message.important = false ∧ head.important = false := by
        cases imp : message.important with
        | true => exact .inl (by simpa using inv.own message rfl imp)
        | false =>
            rcases guard message rfl with high | calm
            · exact Entry.clash imp high
            · exact .inr ⟨rfl, inv.alone message rfl imp calm head (by simp)⟩
      refine
        { front := List.Pairwise.of_cons inv.front
          kept := ?_, own := by simp, alone := by simp, overtook := by simp, left := ?_ }
      · intro m acc imp
        rcases inv.kept m acc imp with queued | published
        · rcases List.mem_cons.mp queued with rfl | queued
          · rcases popped with rfl | ⟨-, low⟩
            · exact .inr (List.mem_append_right _ (by simp))
            · exact Entry.clash low imp
          · exact .inl queued
        · exact .inr (List.mem_append_left _ published)
      · intro m published imp mem
        rcases List.mem_append.mp published with before | new
        · exact inv.left m before imp (tail m mem)
        · obtain rfl := List.mem_singleton.mp new
          rcases popped with rfl | ⟨low, -⟩
          · exact headOut mem
          · exact Entry.clash low imp
  | abandon =>
      exact
        { front := inv.front, kept := inv.kept, own := by simp, alone := by simp
          overtook := by simp, left := inv.left }
  | @pick head rest history =>
      refine
        { front := inv.front, kept := inv.kept, own := ?_, alone := ?_, overtook := ?_
          left := inv.left }
      · intro m flight _
        exact flight
      · intro m flight low _ x mem
        obtain rfl : head = m := Option.some.inj flight
        rcases List.mem_cons.mp mem with rfl | mem
        · exact low
        · by_contra imp
          have := (List.pairwise_cons.mp inv.front).1 x mem (by simpa using imp)
          exact Entry.clash low this
      · intro m _ _ overtaken
        cases overtaken

/-- **An unguarded move loses an event or response.** -/
theorem ImportantGuard.breaks (sound : Sound capacity d) (inv : ImportantInv d)
    (unguarded : ¬ ImportantGuard d act) (move : Move capacity d act d') : ¬ ImportantKept d' := by
  intro kept
  cases move with
  | @offer queue queue' inFlight history message branch number call =>
      simp only [ImportantGuard, not_forall] at unguarded
      obtain ⟨notImp, ⟨r, mem, sameTopic, response⟩, noOther⟩ := unguarded
      have rImp : r.important = true := by simp [Entry.important, response, Kind.important]
      have hit : coalesces message.topic r = true := by simp [coalesces, sameTopic, response]
      cases call with
      | @coalesced pre post old _ _ matched _ =>
          obtain ⟨oldTopic, oldKind⟩ := of_coalesces matched
          have oldImp : old.important = true := by
            by_contra low
            exact noOther ⟨old, by simp, oldTopic, by simpa using low⟩
          have call : Offered capacity (pre ++ old :: post) message (.coalesced old)
              (pre ++ message :: post) := .coalesced notImp matched ‹_›
          have gone := call.removed_not_mem sound.nodup (sound.fresh_queue number) rfl
          have acc := sound.queued old (by simp)
          rcases kept old (History.mem_accepted_offer acc) oldImp with queued | published
          · exact gone queued
          · exact inv.left old published oldImp (by simp)
      | appended _ none => rw [none r mem] at hit; cases hit
      | inserted imp => exact Entry.clash notImp imp
      | evicting imp => exact Entry.clash notImp imp
      | rejected _ _ none => rw [none notImp r mem] at hit; cases hit
  | @deliver head message rest history =>
      simp only [ImportantGuard, not_forall, not_or, Bool.not_eq_true,
        Bool.not_eq_false] at unguarded
      obtain ⟨m, flight, low, overtaken⟩ := unguarded
      obtain rfl : message = m := Option.some.inj flight
      obtain ⟨first, tail, same, headImp, headNew⟩ := inv.overtook message rfl low overtaken
      obtain ⟨rfl, rfl⟩ := List.cons.inj same
      rcases kept head (sound.queued head (by simp)) headImp with queued | published
      · exact (List.nodup_cons.mp sound.nodup).1 queued
      · rcases List.mem_append.mp published with before | new
        · exact headNew (sound.published head before)
        · obtain rfl := List.mem_singleton.mp new
          exact Entry.clash low headImp
  | abandon => exact unguarded trivial
  | pick => exact unguarded trivial

/-! ### Latest values -/

/-- Every accepted telemetry-class message is queued, was published, was replaced
by a later one on its topic, or was evicted. -/
def NewestKept (d : Desk) : Prop :=
  ∀ m ∈ d.history.accepted, m.important = false →
    m ∈ d.queue ∨ m ∈ d.history.published ∨
      (∃ p ∈ d.history.replaced, p.1 = m ∧ p.2.topic = m.topic ∧ m.number < p.2.number) ∨
      m ∈ d.history.evicted

instance : Decidable (NewestKept d) :=
  inferInstanceAs (Decidable (∀ m ∈ d.history.accepted, m.important = false → _ ∨ _))

/-- No delivery while the head of the queue is a value that was coalesced over it
during the flight. -/
def NewestGuard (d : Desk) : Act → Prop
  | .deliver => d.history.overwritten = false
  | .offer _ | .abandon | .pick => True

instance : DecidablePred (NewestGuard d)
  | .deliver => inferInstanceAs (Decidable (_ = _))
  | .offer _ | .abandon | .pick => inferInstanceAs (Decidable True)

structure NewestInv (d : Desk) : Prop where
  kept : NewestKept d
  /-- unless overwritten, the head is the message in flight or an important one -/
  intact : ∀ m, d.inFlight = some m → d.history.overwritten = false →
    ∃ head rest, d.queue = head :: rest ∧ (head = m ∨ head.important = true)
  /-- an overwritten head is a telemetry-class message that was never sent -/
  replaced : ∀ m, d.inFlight = some m → d.history.overwritten = true →
    ∃ head rest, d.queue = head :: rest ∧ head.important = false ∧ head ∉ d.history.passed

theorem NewestInv.empty : NewestInv Desk.empty := by
  constructor <;> simp [Desk.empty, History.empty, NewestKept]

/-- A coalescing over the head of a queue without repetitions hits the head slot. -/
theorem Offered.hitsHead {first : Message} {rest queue' : List Message} {message : Message}
    {branch : Verdict Numbered}
    (call : Offered capacity (first :: rest) message branch queue')
    (nodup : (first :: rest).Nodup) (hits : branch.hitsHead (first :: rest) = true) :
    ∃ rest', queue' = message :: rest' ∧ message.important = false := by
  generalize split : first :: rest = whole at call nodup
  cases call with
  | @coalesced pre post old _ notImp =>
      have same : first = old := by simpa [Verdict.hitsHead] using hits
      cases pre with
      | nil => exact ⟨post, rfl, notImp⟩
      | cons _ pre =>
          obtain ⟨rfl, -⟩ := List.cons.inj split
          subst same
          exact absurd (List.mem_append_right pre List.mem_cons_self) (List.nodup_cons.mp nodup).1
  | appended => cases hits
  | inserted => cases hits
  | evicting => cases hits
  | rejected => cases hits

/-- No offer loses a newest value: what it removes is booked. -/
theorem NewestKept.offer {queue queue' : List Message} {inFlight : Option Message}
    {history : History} {message : Message} {branch : Verdict Numbered}
    (sound : Sound capacity ⟨queue, inFlight, history⟩)
    (kept : NewestKept ⟨queue, inFlight, history⟩)
    (number : message.number = history.offered.length)
    (call : Offered capacity queue message branch queue') :
    NewestKept ⟨queue', inFlight, history.offer queue message branch⟩ := by
  intro m mem low
  rcases History.accepted_offer_cases mem with before | ⟨rfl, accepted⟩
  · rcases kept m before low with queued | published | ⟨p, pair, order⟩ | evicted
    · rcases call.kept queued with here | removed
      · exact .inl here
      · have less : m.number < message.number := number ▸ sound.numbered m before
        cases call with
        | coalesced _ matched _ =>
            cases removed
            exact .inr (.inr (.inl
              ⟨(m, message), by simp [History.offer], rfl, (of_coalesces matched).1.symm, less⟩))
        | appended => cases removed
        | inserted => cases removed
        | evicting =>
            cases removed
            exact .inr (.inr (.inr (by simp [History.offer])))
        | rejected => cases removed
    · exact .inr (.inl published)
    · refine .inr (.inr (.inl ⟨p, ?_, order⟩))
      cases branch <;> simp [History.offer, pair]
    · refine .inr (.inr (.inr ?_))
      cases branch <;> simp [History.offer, evicted]
  · exact .inl (call.entry_mem accepted)

theorem NewestInv.offer {queue queue' : List Message} {inFlight : Option Message}
    {history : History} {message : Message} {branch : Verdict Numbered}
    (sound : Sound capacity ⟨queue, inFlight, history⟩)
    (inv : NewestInv ⟨queue, inFlight, history⟩)
    (number : message.number = history.offered.length)
    (call : Offered capacity queue message branch queue') :
    NewestInv ⟨queue', inFlight, history.offer queue message branch⟩ := by
  have unpassed : message ∉ history.passed := fun mem => sound.fresh number (sound.passed _ mem)
  refine { kept := inv.kept.offer sound number call, intact := ?_, replaced := ?_ }
  · intro m flight calm
    obtain ⟨-, ne⟩ := sound.flying m flight
    cases queue with
    | nil => exact absurd rfl ne
    | cons first rest =>
        obtain ⟨first', rest', rfl, ins, keep⟩ := call.head
        refine ⟨first', rest', rfl, ?_⟩
        cases inserts : branch.inserts with
        | true => exact .inr (ins inserts).1
        | false =>
            have flags : history.overwritten = false ∧ branch.hitsHead (first :: rest) = false := by
              simpa [History.offer, inserts] using calm
            rcases keep inserts with rfl | ⟨rfl, rfl⟩
            · obtain ⟨head, tail, same, own⟩ := inv.intact m flight flags.1
              obtain ⟨rfl, rfl⟩ := List.cons.inj same
              exact own
            · simp [Verdict.hitsHead] at flags
  · intro m flight hit
    obtain ⟨-, ne⟩ := sound.flying m flight
    cases queue with
    | nil => exact absurd rfl ne
    | cons first rest =>
        have flags : (history.overwritten = true ∨ branch.hitsHead (first :: rest) = true) ∧
            branch.inserts = false := by
          simpa [History.offer] using hit
        cases hits : branch.hitsHead (first :: rest) with
        | true =>
            obtain ⟨rest', rfl, low⟩ := call.hitsHead sound.nodup hits
            exact ⟨message, rest', rfl, low, unpassed⟩
        | false =>
            obtain ⟨first', rest', rfl, -, keep⟩ := call.head
            have before : history.overwritten = true := by simpa [hits] using flags.1
            obtain ⟨head, tail, same, low, new⟩ := inv.replaced m flight before
            obtain ⟨rfl, rfl⟩ := List.cons.inj same
            rcases keep flags.2 with rfl | ⟨rfl, rfl⟩
            · exact ⟨first', rest', rfl, low, new⟩
            · simp [Verdict.hitsHead] at hits

theorem NewestInv.move (sound : Sound capacity d) (inv : NewestInv d)
    (guard : NewestGuard d act) (move : Move capacity d act d') : NewestInv d' := by
  cases move with
  | offer number call => exact inv.offer sound number call
  | @deliver head message rest history =>
      obtain ⟨first, tail, same, own⟩ := inv.intact message rfl guard
      obtain ⟨rfl, rfl⟩ := List.cons.inj same
      refine { kept := ?_, intact := by simp, replaced := by simp }
      intro m acc low
      rcases inv.kept m acc low with queued | published | gone
      · rcases List.mem_cons.mp queued with rfl | queued
        · rcases own with rfl | imp
          · exact .inr (.inl (List.mem_append_right _ (by simp)))
          · exact Entry.clash low imp
        · exact .inl queued
      · exact .inr (.inl (List.mem_append_left _ published))
      · exact .inr (.inr gone)
  | abandon => exact { kept := inv.kept, intact := by simp, replaced := by simp }
  | @pick head rest history =>
      exact
        { kept := inv.kept
          intact := fun m flight _ => ⟨head, rest, rfl, .inl (Option.some.inj flight)⟩
          replaced := fun m _ hit => by cases hit }

/-- **A delivery after the head was overwritten loses the newest value.** -/
theorem NewestGuard.breaks (sound : Sound capacity d) (inv : NewestInv d)
    (unguarded : ¬ NewestGuard d act) (move : Move capacity d act d') : ¬ NewestKept d' := by
  intro kept
  cases move with
  | offer => exact unguarded trivial
  | @deliver head message rest history =>
      have hit : history.overwritten = true := by simpa [NewestGuard] using unguarded
      obtain ⟨first, tail, same, low, new⟩ := inv.replaced message rfl hit
      obtain ⟨rfl, rfl⟩ := List.cons.inj same
      rcases kept head (sound.queued head (by simp)) low with queued | published | gone | evicted
      · exact (List.nodup_cons.mp sound.nodup).1 queued
      · rcases List.mem_append.mp published with before | sent
        · exact new (sound.published head before)
        · obtain rfl := List.mem_singleton.mp sent
          exact new (sound.flying head rfl).1
      · obtain ⟨p, pair, same, -⟩ := gone
        exact (sound.replaced p pair).2 (by simp [same])
      · exact (sound.evicted head evicted).2 (by simp)
  | abandon => exact unguarded trivial
  | pick => exact unguarded trivial

/-! ### Single transmission -/

/-- No message was passed to `_publish` twice. -/
def PassedOnce (d : Desk) : Prop := d.history.passed.Nodup

instance : Decidable (PassedOnce d) := inferInstanceAs (Decidable (List.Nodup _))

/-- A delivery takes the sent message off the queue: it is an event or response,
or none was put in ahead of it during the flight, or it left the queue during
the flight. -/
def OnceGuard (d : Desk) : Act → Prop
  | .deliver => ∀ m ∈ d.inFlight,
      m.important = true ∨ d.history.overtaken = false ∨ m ∉ d.queue
  | .offer _ | .abandon | .pick => True

/-- No flight is abandoned. -/
def NoAbandon (_ : Desk) : Act → Prop
  | .abandon => False
  | .offer _ | .deliver | .pick => True

instance : DecidablePred (OnceGuard d)
  | .deliver => inferInstanceAs (Decidable (∀ m ∈ d.inFlight, _ ∨ _ ∨ _))
  | .offer _ | .abandon | .pick => inferInstanceAs (Decidable True)

instance : DecidablePred (NoAbandon d)
  | .abandon => inferInstanceAs (Decidable False)
  | .offer _ | .deliver | .pick => inferInstanceAs (Decidable True)

structure OnceInv (d : Desk) : Prop where
  once : PassedOnce d
  /-- a message that was passed and is still queued is the one in flight -/
  flying : ∀ m ∈ d.history.passed, m ∈ d.queue → d.inFlight = some m
  /-- unless overtaken, the message in flight is the head or no longer queued -/
  front : ∀ m, d.inFlight = some m → m.important = true ∨ d.history.overtaken = false →
    d.queue.head? = some m ∨ m ∉ d.queue

theorem OnceInv.empty : OnceInv Desk.empty := by
  constructor <;> simp [Desk.empty, History.empty, PassedOnce]

theorem OnceInv.move (sound : Sound capacity d) (inv : OnceInv d)
    (guard : NoAbandon d act ∧ OnceGuard d act) (move : Move capacity d act d') : OnceInv d' := by
  cases move with
  | @offer queue queue' inFlight history message branch number call =>
      have unpassed : message ∉ history.passed :=
        fun mem => sound.fresh number (sound.passed _ mem)
      refine { once := inv.once, flying := ?_, front := ?_ }
      · intro m passed mem
        rcases call.mem mem with rfl | mem
        · exact absurd passed unpassed
        · exact inv.flying m passed mem
      · intro m flight calm
        have passed := (sound.flying m flight).1
        have before : m.important = true ∨ history.overtaken = false := by
          apply calm.imp id
          intro flag
          have := flag
          simp only [History.offer, Bool.or_eq_false_iff] at this
          exact this.1
        rcases inv.front m flight before with head | out
        · cases queue with
          | nil => cases head
          | cons first rest =>
              obtain rfl : first = m := by simpa using head
              obtain ⟨first', rest', rfl, ins, keep⟩ := call.head
              cases inserts : branch.inserts with
              | true =>
                  have imp : first.important = true := by
                    apply calm.resolve_right
                    intro flag
                    simp [History.offer, inserts] at flag
                  exact .inl (by rw [(ins inserts).2 imp]; rfl)
              | false =>
                  rcases keep inserts with rfl | ⟨-, rfl⟩
                  · exact .inl rfl
                  · exact .inr (call.removed_not_mem sound.nodup (sound.fresh_queue number) rfl)
        · refine .inr fun mem => ?_
          rcases call.mem mem with rfl | mem
          · exact unpassed passed
          · exact out mem
  | @deliver head message rest history =>
      have out : message ∉ rest := by
        have calm : (message.important = true ∨ history.overtaken = false) ∨
            message ∉ head :: rest := or_assoc.mpr (guard.2 message rfl)
        rcases calm with calm | out
        · rcases inv.front message rfl calm with front | out
          · obtain rfl : head = message := by simpa using front
            exact (List.nodup_cons.mp sound.nodup).1
          · exact fun mem => out (List.mem_cons_of_mem _ mem)
        · exact fun mem => out (List.mem_cons_of_mem _ mem)
      refine { once := inv.once, flying := ?_, front := by simp }
      intro m passed mem
      obtain rfl : message = m :=
        Option.some.inj (inv.flying m passed (List.mem_cons_of_mem _ mem))
      exact absurd mem out
  | abandon => exact guard.1.elim
  | @pick head rest history =>
      have new : head ∉ history.passed := fun mem => by
        cases inv.flying head mem (by simp)
      refine
        { once := List.nodup_append.mpr ⟨inv.once, List.nodup_singleton _, ?_⟩
          flying := ?_
          front := fun m flight _ => .inl flight }
      · intro a ha b hb same
        obtain rfl := List.mem_singleton.mp hb
        exact new (same ▸ ha)
      · intro m passed mem
        rcases List.mem_append.mp passed with before | now
        · cases inv.flying m before mem
        · rw [List.mem_singleton.mp now]

end EdgeGateway.Mqtt
