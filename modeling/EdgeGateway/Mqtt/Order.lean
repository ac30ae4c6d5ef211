import EdgeGateway.Mqtt.Desk

/-!
Order on the desk: how queued messages stand to each other, and in which order
messages are published.

Everything here rests on one assumption, that a message's topic tells its kind
(`label`). Then coalescing never touches an event or response, and:

* `Ahead`: of two queued messages the important one stands first, two important
  ones stand in the order they were offered, and two telemetry-class ones are on
  different topics.
* a queued telemetry-class message is the last one offered on its topic.
* `InOrder`: published events and responses keep their order, and no topic sees
  an older value after a newer one.

`Ordered` is the invariant that carries all of it, `Ordered.move` the step lemma.
-/

namespace EdgeGateway.Mqtt

open EdgeGateway.Lib

variable {capacity : Nat} {label : String → Option Kind} {d d' : Desk} {act : Act}

/-- How a queued message stands to one behind it. -/
structure Ahead (a b : Message) : Prop where
  front : b.important = true → a.important = true
  fifo : a.important = true → b.important = true → a.number < b.number
  unique : a.important = false → b.important = false → a.topic ≠ b.topic

/-- How a published message stands to one published after it. -/
structure InOrder (a b : Message) : Prop where
  important : a.important = true → b.important = true → a.number < b.number
  topic : a.important = false → b.important = false → a.topic = b.topic → a.number ≤ b.number

/-- Every message offered is of the kind its topic names. -/
def Labelled (label : String → Option Kind) (_ : Desk) : Act → Prop
  | .offer m => label m.topic = some m.kind
  | .deliver | .abandon | .pick => True

structure Ordered (label : String → Option Kind) (d : Desk) : Prop where
  line : d.queue.Pairwise Ahead
  labelled : ∀ m ∈ d.queue, label m.topic = some m.kind
  latest : ∀ m ∈ d.queue, m.important = false →
    ∀ o ∈ d.history.offered, o.topic = m.topic → o.number ≤ m.number
  recast : ∀ p ∈ d.history.replaced, p.1.topic = p.2.topic ∧ p.1.kind = p.2.kind
  published : d.history.published.Pairwise InOrder
  /-- published events and responses come before the queued ones -/
  past : ∀ p ∈ d.history.published, ∀ q ∈ d.queue,
    p.important = true → q.important = true → p.number < q.number
  /-- an event or response in flight is still the head -/
  own : ∀ m, d.inFlight = some m → m.important = true → d.queue.head? = some m
  /-- the value in flight is no older than the published ones -/
  flying : ∀ m, d.inFlight = some m → m.important = false →
    ∀ p ∈ d.history.published, p.important = false → p.topic = m.topic → p.number ≤ m.number

namespace Ordered

theorem empty : Ordered label Desk.empty := by
  constructor <;> simp [Desk.empty, History.empty]

/-- Two labelled messages on one topic are both important or both not. -/
theorem important_eq {a b : Message} (left : label a.topic = some a.kind)
    (right : label b.topic = some b.kind) (same : a.topic = b.topic) :
    a.kind = b.kind ∧ a.important = b.important := by
  rw [same, right] at left
  have kinds := (Option.some.inj left).symm
  exact ⟨kinds, by simp [Entry.important, kinds]⟩

/-- A telemetry-class message that coalesces with nothing queued on its topic. -/
theorem topic_ne {m other : Message} (apart : coalesces m.topic other = false)
    (low : other.important = false) : other.topic ≠ m.topic := by
  intro same
  have event : other.kind = .event := by simpa [coalesces, same] using apart
  simp [Entry.important, event, Kind.important] at low

theorem line_offer {queue queue' : List Message} {inFlight : Option Message} {history : History}
    {message : Message} {branch : Verdict Numbered}
    (sound : Sound capacity ⟨queue, inFlight, history⟩)
    (ordered : Ordered label ⟨queue, inFlight, history⟩)
    (named : label message.topic = some message.kind)
    (number : message.number = history.offered.length)
    (call : Offered capacity queue message branch queue') : queue'.Pairwise Ahead := by
  have later : ∀ x ∈ queue, x.number < message.number := fun x mem =>
    number ▸ sound.numbered x (sound.queued x mem)
  -- Stated for any part of the queue, for the eviction.
  have insert : ∀ part : List Message, part.Sublist queue → message.important = true →
      (insertImportant message part).Pairwise Ahead := by
    intro part sub imp
    have line := ordered.line.sublist sub
    refine pairwise_afterPrefix Entry.important (line.imp fun ahead => ahead.front) line ?_ ?_
    · intro y mem yImp
      exact ⟨fun _ => yImp, fun _ _ => later y (sub.subset mem), fun low => Entry.clash low yImp⟩
    · intro y _ yLow
      exact ⟨fun _ => imp, fun _ => Entry.clash yLow, fun low => Entry.clash low imp⟩
  cases call with
  | @coalesced pre post old _ low matched last =>
      have topics := (of_coalesces matched).1
      have oldLow : old.important = false :=
        (important_eq (ordered.labelled old (by simp)) named topics).2.trans low
      obtain ⟨-, behind, cross⟩ := List.pairwise_append.mp ordered.line
      refine pairwise_replace ordered.line (fun a mem => ?_) fun b mem => ?_
      · have ahead := cross a mem old (by simp)
        exact ⟨Entry.clash low, fun _ => Entry.clash low,
          fun aLow _ => topics ▸ ahead.unique aLow oldLow⟩
      · have ahead := (List.pairwise_cons.mp behind).1 b mem
        exact ⟨fun high => Entry.clash oldLow (ahead.front high), Entry.clash low,
          fun _ bLow => topics ▸ ahead.unique oldLow bLow⟩
  | appended low none =>
      refine List.pairwise_append.mpr ⟨ordered.line, List.pairwise_singleton _ _, ?_⟩
      intro a mem b hb
      obtain rfl := List.mem_singleton.mp hb
      exact ⟨Entry.clash low, fun _ => Entry.clash low, fun aLow _ => topic_ne (none a mem) aLow⟩
  | inserted imp => exact insert queue (List.Sublist.refl _) imp
  | @evicting pre post victim _ imp =>
      exact insert _ ((List.Sublist.refl pre).append (List.sublist_cons_self _ _)) imp
  | rejected => exact ordered.line

/-- Once a message was offered, no other telemetry-class entry on its topic is queued. -/
theorem alone_offer {queue queue' : List Message} {inFlight : Option Message} {history : History}
    {message : Message} {branch : Verdict Numbered}
    (ordered : Ordered label ⟨queue, inFlight, history⟩)
    (named : label message.topic = some message.kind)
    (call : Offered capacity queue message branch queue') {m : Message} (mem : m ∈ queue')
    (low : m.important = false) (same : message.topic = m.topic) : m = message := by
  by_contra other
  have queued : m ∈ queue := (call.mem mem).resolve_left other
  have messageLow : message.important = false :=
    (important_eq named (ordered.labelled m queued) same).2.trans low
  cases call with
  | @coalesced pre post old _ _ matched last =>
      have topics := (of_coalesces matched).1
      obtain ⟨-, -, cross⟩ := List.pairwise_append.mp ordered.line
      rcases List.mem_append.mp mem with inPre | inRest
      · have oldLow : old.important = false :=
          (important_eq (ordered.labelled old (by simp)) named topics).2.trans messageLow
        exact (cross m inPre old (by simp)).unique low oldLow (same.symm.trans topics.symm)
      · rcases List.mem_cons.mp inRest with eq | inPost
        · exact other eq
        · exact topic_ne (last m inPost) low same.symm
  | appended _ none => exact topic_ne (none m queued) low same.symm
  | inserted imp => exact Entry.clash messageLow imp
  | evicting imp => exact Entry.clash messageLow imp
  | rejected _ _ none => exact topic_ne (none messageLow m queued) low same.symm

theorem offer {queue queue' : List Message} {inFlight : Option Message} {history : History}
    {message : Message} {branch : Verdict Numbered}
    (sound : Sound capacity ⟨queue, inFlight, history⟩)
    (ordered : Ordered label ⟨queue, inFlight, history⟩)
    (named : label message.topic = some message.kind)
    (number : message.number = history.offered.length)
    (call : Offered capacity queue message branch queue') :
    Ordered label ⟨queue', inFlight, history.offer queue message branch⟩ := by
  have later : ∀ x ∈ history.accepted, x.number < message.number := fun x mem =>
    number ▸ sound.numbered x mem
  -- Coalescing replaces like by like.
  have recast : ∀ old, branch = .coalesced old → old.topic = message.topic ∧
      old.kind = message.kind ∧ old.important = message.important := by
    rintro old rfl
    obtain ⟨mem, -, topics⟩ := call.of_coalesced
    exact ⟨topics, important_eq (ordered.labelled old mem) named topics⟩
  refine
    { line := ordered.line_offer sound named number call
      labelled := ?_
      latest := ?_
      recast := ?_
      published := ordered.published
      past := ?_
      own := ?_
      flying := ordered.flying }
  · intro m mem
    rcases call.mem mem with rfl | mem
    · exact named
    · exact ordered.labelled m mem
  · intro m mem low o offered same
    rcases List.mem_append.mp offered with before | new
    · rcases call.mem mem with rfl | queued
      · exact Nat.le_of_lt (number ▸ sound.called o before)
      · exact ordered.latest m queued low o before same
    · obtain rfl := List.mem_singleton.mp new
      rw [ordered.alone_offer named call mem low same]
  · intro p mem
    cases branch with
    | coalesced old =>
        rcases List.mem_append.mp mem with before | new
        · exact ordered.recast p before
        · obtain rfl := List.mem_singleton.mp new
          exact ⟨(recast old rfl).1, (recast old rfl).2.1⟩
    | _ => exact ordered.recast p mem
  · intro p published q mem pImp qImp
    rcases call.mem mem with rfl | mem
    · exact later p (sound.passed p (sound.published p published))
    · exact ordered.past p published q mem pImp qImp
  · intro m flight imp
    have head := ordered.own m flight imp
    cases queue with
    | nil => cases head
    | cons first rest =>
        obtain rfl : first = m := by simpa using head
        obtain ⟨first', rest', rfl, ins, keep⟩ := call.head
        cases inserts : branch.inserts with
        | true => rw [(ins inserts).2 imp]; rfl
        | false =>
            rcases keep inserts with rfl | ⟨-, rfl⟩
            · rfl
            · exact Entry.clash call.of_coalesced.2.1 ((recast first rfl).2.2 ▸ imp)

/-- **Every labelled move keeps the order.** -/
theorem move (sound : Sound capacity d) (ordered : Ordered label d) (guard : Labelled label d act)
    (move : Move capacity d act d') : Ordered label d' := by
  cases move with
  | offer number call => exact ordered.offer sound guard number call
  | @deliver head message rest history =>
      have tail : ∀ m ∈ rest, m ∈ head :: rest := fun m => List.mem_cons_of_mem head
      have isHead : message.important = true → head = message := fun imp => by
        simpa using ordered.own message rfl imp
      refine
        { line := ordered.line.of_cons
          labelled := fun m mem => ordered.labelled m (tail m mem)
          latest := fun m mem => ordered.latest m (tail m mem)
          recast := ordered.recast
          published := ?_
          past := ?_
          own := by simp
          flying := by simp }
      · refine List.pairwise_append.mpr ⟨ordered.published, List.pairwise_singleton _ _, ?_⟩
        intro p published b hb
        obtain rfl := List.mem_singleton.mp hb
        refine ⟨fun pImp imp => ?_, fun pLow low same => ?_⟩
        · obtain rfl := isHead imp
          exact ordered.past p published head (by simp) pImp imp
        · exact ordered.flying b rfl low p published pLow same
      · intro p published q mem pImp qImp
        rcases List.mem_append.mp published with before | new
        · exact ordered.past p before q (tail q mem) pImp qImp
        · obtain rfl := List.mem_singleton.mp new
          obtain rfl := isHead pImp
          exact ((List.pairwise_cons.mp ordered.line).1 q mem).fifo pImp qImp
  | abandon => exact { ordered with own := by simp, flying := by simp }
  | @pick head rest history =>
      refine { ordered with own := fun m flight _ => flight, flying := ?_ }
      intro m flight low p published _ same
      obtain rfl : head = m := Option.some.inj flight
      have offered := sound.accepted.subset (sound.passed p (sound.published p published))
      exact ordered.latest head (by simp) low p offered same

end Ordered

/-! ### What the order says -/

/-- The head of the queue is important as soon as anything queued is. -/
theorem Ordered.head_important (ordered : Ordered label d)
    (waiting : ∃ m ∈ d.queue, m.important = true) :
    ∃ head, d.queue.head? = some head ∧ head.important = true := by
  obtain ⟨m, mem, imp⟩ := waiting
  cases split : d.queue with
  | nil => rw [split] at mem; cases mem
  | cons head rest =>
      refine ⟨head, rfl, ?_⟩
      have line := ordered.line
      rw [split] at mem line
      rcases List.mem_cons.mp mem with rfl | mem
      · exact imp
      · exact ((List.pairwise_cons.mp line).1 m mem).front imp

/-- A queued telemetry-class message is the last one offered on its topic. -/
theorem Ordered.last_offered (sound : Sound capacity d) (ordered : Ordered label d) {m : Message}
    (mem : m ∈ d.queue) (low : m.important = false) :
    (d.history.offered.filter fun o => o.topic = m.topic).getLast? = some m := by
  refine getLast?_filter _ sound.sorted (sound.accepted.subset (sound.queued m mem)) (by simp) ?_
  intro o offered same
  exact Nat.not_lt.mpr (ordered.latest m mem low o offered (by simpa using same))

end EdgeGateway.Mqtt
