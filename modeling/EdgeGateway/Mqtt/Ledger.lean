import EdgeGateway.Lib.Run
import EdgeGateway.Mqtt.Desk
import EdgeGateway.Mqtt.Publisher

/-!
The publisher with its books, as a system of interleaved steps.

An input is one thing that can happen at an await of the publisher: another task
calls `enqueue` or `_enqueue_priority`, or the awaited operation ends and the
publisher runs up to its next await. The ledger runs the publisher on payloads
that carry the number of the call that offered them, and books next to it what
became of each message. `EdgeGateway.Mqtt.Erase` shows that neither the numbers
nor the books influence the publisher.

* `Ledger.step_moves`: a step is at most one move of the desk, followed by at
  most one `pick`.
* `Ledger.sound`: the bookkeeping is sound after every run.
* `Rule.holds` and `Rule.exact` carry a desk invariant over all runs.
-/

namespace EdgeGateway.Mqtt

open EdgeGateway.Lib

variable {α : Type}

/-! ### Steps of the program -/

/-- What can happen while the publisher is suspended. -/
inductive Input where
  /-- `enqueue`, as the TCP handlers call it -/
  | enqueue (payload : String) (parsed : Json)
  /-- `_enqueue_priority` on the response topic -/
  | enqueuePriority (payload : String)
  /-- the pending await ends and the publisher runs on -/
  | resume (lte : Lte) (now : Readings) (outcome : Outcome)

/-- One step of the manager and its task. A call that raises changes nothing. -/
def Service.step (cfg : Config) (codec : Codec) (wrap : String → α) (s : Service α) :
    Input → Option (Service α)
  | .enqueue payload parsed =>
      match s.mqtt.enqueue cfg (wrap payload) parsed with
      | .ok (m, _) => some { s with mqtt := m }
      | .error _ => some s
  | .enqueuePriority payload =>
      some { s with mqtt := (s.mqtt.enqueuePriority cfg cfg.responseTopic (wrap payload)).1 }
  | .resume lte now outcome => s.resume cfg codec lte now wrap outcome

/-! ### The books -/

structure Ledger where
  service : Service Numbered
  history : History
deriving Repr

namespace Ledger

def init : Ledger := ⟨.init, .empty⟩

def queue (l : Ledger) : List Message := l.service.mqtt.queue

/-- A payload under the next free number. -/
def number (l : Ledger) (text : String) : Numbered := ⟨l.history.offered.length, text⟩

def desk (l : Ledger) : Desk := ⟨l.queue, l.service.inFlight, l.history⟩

variable (cfg : Config) (codec : Codec)

/-- The message an input offers to the queue. -/
def offers (l : Ledger) : Input → Option Message
  | .enqueue payload (.dict parsed) =>
      some ⟨topic cfg parsed, l.number payload, messageKind parsed⟩
  | .enqueue _ _ => none
  | .enqueuePriority payload => some ⟨cfg.responseTopic, l.number payload, .response⟩
  | .resume _ now (.returned (some event)) =>
      if l.service.pending = .readEvent then
        (l.service.mqtt.reply cfg codec now event).map fun (_, text) =>
          ⟨cfg.responseTopic, l.number text, .response⟩
      else none
  | .resume _ _ _ => none

/-- What the input does at the desk before the publisher picks again. -/
def act? (l : Ledger) (input : Input) : Option Act :=
  match l.service.inFlight, input with
  | some _, .resume _ _ (.returned _) => some .deliver
  | some _, .resume _ _ (.raised _) => some .abandon
  | _, input => (l.offers cfg codec input).map .offer

end Ledger

/-- The books after an act at the desk `d`. -/
def History.act (cfg : Config) (d : Desk) : Option Act → History
  | some (.offer message) => d.history.offer d.queue message (verdict cfg d.queue message)
  | some .deliver => (d.inFlight.map fun message => d.history.deliver message).getD d.history
  | some .abandon | some .pick | none => d.history

/-- The books after the publisher ran up to an await with `flight` in flight. -/
def History.picks (flight : Option Message) (h : History) : History :=
  match flight with
  | some message => h.pick message
  | none => h

namespace Ledger

variable (cfg : Config) (codec : Codec)

def book (l : Ledger) (input : Input) (s' : Service Numbered) : History :=
  let history := History.act cfg l.desk (l.act? cfg codec input)
  match input with
  | .resume _ _ _ => history.picks s'.inFlight
  | .enqueue _ _ | .enqueuePriority _ => history

def step (l : Ledger) (input : Input) : Option Ledger :=
  (l.service.step cfg codec l.number input).map fun s => ⟨s, l.book cfg codec input s⟩

end Ledger

/-- The publisher, with every interleaving of calls and awaits as its runs. -/
def publisher (cfg : Config) (codec : Codec) : System Ledger Input :=
  ⟨.init, Ledger.step cfg codec⟩

/-! ### Steps are moves of the desk -/

/-- A move, or nothing. -/
def Moves (capacity : Nat) (d : Desk) : Option Act → Desk → Prop
  | some act, d' => Move capacity d act d'
  | none, d' => d' = d

/-- The counters after an act: a call counts by its branch, a delivery counts as
published. -/
def MQTTManager.counted (cfg : Config) (m : MQTTManager Numbered) :
    Option Act → MQTTManager Numbered
  | some (.offer message) => (verdict cfg m.queue message).count m
  | some .deliver => { m with published := m.published + 1 }
  | some .abandon | some .pick | none => m

section Step

variable {cfg : Config} {codec : Codec} {l l' : Ledger} {input : Input}

/-- Running on to the next await picks the head, or leaves the desk alone. -/
theorem Yields.picks {capacity : Nat} {m : MQTTManager Numbered} {s : Service Numbered}
    (yields : Yields m s) (h : History) :
    let mid : Desk := ⟨m.queue, none, h⟩
    let d' : Desk := ⟨s.mqtt.queue, s.inFlight, h.picks s.inFlight⟩
    d' = mid ∨ Move capacity mid .pick d' := by
  intro mid d'
  rcases yields.flight with idle | ⟨head, rest, queue, flight⟩
  · left
    simp only [d', mid, idle, yields.same.queue, History.picks]
  · right
    simp only [d', mid, flight, yields.same.queue, queue, History.picks]
    exact .pick

theorem Ledger.act?_call {call : Input}
    (notResume : ∀ lte now outcome, call ≠ .resume lte now outcome) :
    l.act? cfg codec call = (l.offers cfg codec call).map .offer := by
  unfold Ledger.act?
  split
  · exact absurd rfl (notResume _ _ _)
  · exact absurd rfl (notResume _ _ _)
  · rfl

/-- An idle publisher acts at the desk only by offering a reply. -/
theorem Ledger.act?_idle (idle : l.service.inFlight = none) :
    l.act? cfg codec input = (l.offers cfg codec input).map .offer := by
  unfold Ledger.act?
  simp [idle]

theorem Ledger.offers_quiet {lte : Lte} {now : Readings} {outcome : Outcome}
    (noReply : ∀ event, l.service.pending = .readEvent → outcome = .returned (some event) →
      l.service.mqtt.reply cfg codec now event = none) :
    l.offers cfg codec (.resume lte now outcome) = none := by
  cases outcome with
  | raised exc => rfl
  | returned event =>
      cases event with
      | none => rfl
      | some event =>
          unfold Ledger.offers
          dsimp only
          split
          · rename_i pending
            rw [noReply event pending rfl]
            rfl
          · rfl

/-- `l'` is reached by the act of the input and then at most one pick, and the
counters moved with the act. -/
def Explained (cfg : Config) (codec : Codec) (l : Ledger) (input : Input) (l' : Ledger) : Prop :=
  ∃ mid, Moves cfg.queueCapacity l.desk (l.act? cfg codec input) mid ∧
    (l'.desk = mid ∨ Move cfg.queueCapacity mid .pick l'.desk) ∧
    SameCounts (l.service.mqtt.counted cfg (l.act? cfg codec input)) l'.service.mqtt

theorem Ledger.enqueue_explained {payload : String} {parsed : Json}
    (step : l.step cfg codec (.enqueue payload parsed) = some l') :
    Explained cfg codec l (.enqueue payload parsed) l' := by
  obtain ⟨s', ran, rfl⟩ := Option.map_eq_some_iff.mp step
  have act : l.act? cfg codec (.enqueue payload parsed) =
      (l.offers cfg codec (.enqueue payload parsed)).map .offer := Ledger.act?_call (by simp)
  cases parsed with
  | dict parsed =>
      obtain ⟨queue', call, result⟩ := enqueueDict_spec cfg l.service.mqtt (l.number payload) parsed
      simp only [Service.step, MQTTManager.enqueue, result, Option.some.injEq] at ran
      subst ran
      refine ⟨_, ?_, .inl rfl, ?_⟩
      · simp only [Ledger.book, act]
        exact .offer rfl call
      · rw [act]
        exact ⟨rfl, rfl, rfl, rfl⟩
  | _ =>
      simp only [Service.step, MQTTManager.enqueue, Option.some.injEq] at ran
      subst ran
      refine ⟨_, ?_, .inl rfl, ?_⟩
      · simp only [Ledger.book, act]
        rfl
      · rw [act]
        exact ⟨rfl, rfl, rfl, rfl⟩

theorem Ledger.enqueuePriority_explained {payload : String}
    (step : l.step cfg codec (.enqueuePriority payload) = some l') :
    Explained cfg codec l (.enqueuePriority payload) l' := by
  obtain ⟨s', ran, rfl⟩ := Option.map_eq_some_iff.mp step
  have act : l.act? cfg codec (.enqueuePriority payload) =
      (l.offers cfg codec (.enqueuePriority payload)).map .offer := Ledger.act?_call (by simp)
  obtain ⟨queue', call, result⟩ := enqueueImportant_spec cfg l.service.mqtt cfg.responseTopic
    (l.number payload) (rfl : Kind.important .response = true)
  simp only [Service.step, MQTTManager.enqueuePriority, result, Option.some.injEq] at ran
  subst ran
  refine ⟨_, ?_, .inl rfl, ?_⟩
  · simp only [Ledger.book, act]
    exact .offer rfl call
  · rw [act]
    exact ⟨rfl, rfl, rfl, rfl⟩

/-- Running on from `mid`, with the queue of `m`, is a pick or nothing. -/
theorem Ledger.explained_of_yields {lte : Lte} {now : Readings} {outcome : Outcome}
    {s' : Service Numbered} {m : MQTTManager Numbered} {act : Option Act} {queue : List Message}
    (isAct : l.act? cfg codec (.resume lte now outcome) = act) (yields : Yields m s')
    (moves : Moves cfg.queueCapacity l.desk act ⟨queue, none, History.act cfg l.desk act⟩)
    (same : queue = m.queue) (counts : SameCounts (l.service.mqtt.counted cfg act) m) :
    Explained cfg codec l (.resume lte now outcome)
      ⟨s', l.book cfg codec (.resume lte now outcome) s'⟩ := by
  subst isAct same
  exact ⟨_, moves, yields.picks _, counts.trans yields.same.counts⟩

theorem Ledger.resume_explained {lte : Lte} {now : Readings} {outcome : Outcome}
    (sound : Sound cfg.queueCapacity l.desk)
    (step : l.step cfg codec (.resume lte now outcome) = some l') :
    Explained cfg codec l (.resume lte now outcome) l' := by
  obtain ⟨s', ran, rfl⟩ := Option.map_eq_some_iff.mp step
  cases Service.resume_stretch ran with
  | quiet idle noReply yields =>
      have act : l.act? cfg codec (.resume lte now outcome) = none := by
        rw [Ledger.act?_idle idle, Option.map_eq_none_iff]
        exact Ledger.offers_quiet noReply
      refine Ledger.explained_of_yields act yields ?_ rfl ⟨rfl, rfl, rfl, rfl⟩
      unfold Ledger.desk
      rw [idle]
      rfl
  | @replied event m text _ pending reply yields =>
      have idle : l.service.inFlight = none := by simp [Service.inFlight, pending]
      have act : l.act? cfg codec (.resume lte now (.returned (some event))) =
          some (.offer ⟨cfg.responseTopic, l.number text, .response⟩) := by
        rw [Ledger.act?_idle idle]
        simp [Ledger.offers, pending, reply]
      obtain ⟨received, rejected, rfl⟩ := reply_eq reply
      obtain ⟨queue', call, result⟩ := enqueueImportant_spec cfg
        { l.service.mqtt with commandsReceived := received, commandsRejected := rejected }
        cfg.responseTopic (l.number text) (rfl : Kind.important .response = true)
      rw [MQTTManager.enqueuePriority, result] at yields
      have move : Move cfg.queueCapacity ⟨l.queue, none, l.history⟩ (.offer _) ⟨queue', none, _⟩ :=
        .offer rfl call
      refine Ledger.explained_of_yields act yields ?_ rfl ?_
      · unfold Ledger.desk
        rw [idle]
        exact move
      · -- The command counters make no difference.
        have bare : SameCounts l.service.mqtt
            { l.service.mqtt with commandsReceived := received, commandsRejected := rejected } :=
          ⟨rfl, rfl, rfl, rfl⟩
        have counts := bare.count
          (verdict cfg l.service.mqtt.queue ⟨cfg.responseTopic, l.number text, .response⟩)
        exact ⟨counts.published, counts.dropped, counts.coalesced, counts.priorityEvictions⟩
  | @delivered entry head rest event _ pending queue yields =>
      have flight : l.service.inFlight = some entry := by simp [Service.inFlight, pending]
      have act : l.act? cfg codec (.resume lte now (.returned event)) = some .deliver := by
        simp [Ledger.act?, flight]
      refine Ledger.explained_of_yields act yields ?_ rfl ⟨rfl, rfl, rfl, rfl⟩
      unfold Ledger.desk Ledger.queue
      rw [flight, queue]
      exact .deliver
  | @starved entry event _ pending empty =>
      have flight : l.desk.inFlight = some entry := by
        simp [Ledger.desk, Service.inFlight, pending]
      exact absurd empty (sound.flying entry flight).2
  | @abandoned entry exc _ pending yields =>
      have flight : l.service.inFlight = some entry := by simp [Service.inFlight, pending]
      have act : l.act? cfg codec (.resume lte now (.raised exc)) = some .abandon := by
        simp [Ledger.act?, flight]
      refine Ledger.explained_of_yields act yields ?_ rfl ⟨rfl, rfl, rfl, rfl⟩
      unfold Ledger.desk
      rw [flight]
      exact .abandon

/-- **A step is at most one move of the desk, and then at most one pick.** -/
theorem Ledger.step_moves (sound : Sound cfg.queueCapacity l.desk)
    (step : l.step cfg codec input = some l') : Explained cfg codec l input l' := by
  cases input with
  | enqueue payload parsed => exact Ledger.enqueue_explained step
  | enqueuePriority payload => exact Ledger.enqueuePriority_explained step
  | resume lte now outcome => exact Ledger.resume_explained sound step

/-! ### Properties of all runs -/

/-- The act of the input, if it has one, satisfies `guard`. -/
def Guarded (cfg : Config) (codec : Codec) (guard : Desk → Act → Prop) (l : Ledger)
    (input : Input) : Prop :=
  ∀ act ∈ l.act? cfg codec input, guard l.desk act

instance {guard : Desk → Act → Prop} [∀ d, DecidablePred (guard d)] :
    Decidable (Guarded cfg codec guard l input) :=
  inferInstanceAs (Decidable (∀ act ∈ l.act? cfg codec input, _))

/-- `inv` holds of the empty desk, guarded moves keep it, and picks are guarded. -/
structure Rule (capacity : Nat) (inv : Desk → Prop) (guard : Desk → Act → Prop) : Prop where
  empty : inv Desk.empty
  keeps : ∀ {d act d'}, Sound capacity d → inv d → guard d act → Move capacity d act d' → inv d'
  pick : ∀ d, guard d .pick

/-- A step from a sound state whose act is guarded keeps the bookkeeping and the invariant. -/
theorem Rule.step {inv : Desk → Prop} {guard : Desk → Act → Prop}
    (rule : Rule cfg.queueCapacity inv guard) (sound : Sound cfg.queueCapacity l.desk)
    (holds : inv l.desk) (guarded : Guarded cfg codec guard l input)
    (step : l.step cfg codec input = some l') : Sound cfg.queueCapacity l'.desk ∧ inv l'.desk := by
  obtain ⟨mid, moves, landing, -⟩ := Ledger.step_moves sound step
  have atMid : Sound cfg.queueCapacity mid ∧ inv mid := by
    unfold Guarded at guarded
    cases act : l.act? cfg codec input with
    | none =>
        rw [act] at moves
        obtain rfl : mid = l.desk := moves
        exact ⟨sound, holds⟩
    | some act' =>
        rw [act] at moves
        have move : Move cfg.queueCapacity l.desk act' mid := moves
        exact ⟨move.sound sound, rule.keeps sound holds (guarded act' act) move⟩
  rcases landing with same | pick
  · exact same ▸ atMid
  · exact ⟨pick.sound atMid.1, rule.keeps atMid.1 atMid.2 (rule.pick mid) pick⟩

/-- The invariant holds at the end of every run whose acts are guarded. -/
theorem Rule.holds {inv : Desk → Prop} {guard : Desk → Act → Prop}
    (rule : Rule cfg.queueCapacity inv guard) {is : List Input}
    (run : Run (publisher cfg codec) is l)
    (guarded : EachStep (publisher cfg codec) (Guarded cfg codec guard) is) :
    Sound cfg.queueCapacity l.desk ∧ inv l.desk := by
  refine run.guarded_invariant (I := fun l => Sound cfg.queueCapacity l.desk ∧ inv l.desk)
    ⟨Sound.empty, rule.empty⟩ ?_ guarded
  intro s i s' before guard step
  exact rule.step before.1 before.2 guard step

theorem Ledger.step_sound (sound : Sound cfg.queueCapacity l.desk)
    (step : l.step cfg codec input = some l') : Sound cfg.queueCapacity l'.desk := by
  have rule : Rule cfg.queueCapacity (fun _ => True) (fun _ _ => True) :=
    ⟨trivial, fun _ _ _ _ => trivial, fun _ => trivial⟩
  exact (rule.step sound trivial (fun _ _ => trivial) step).1

/-- **The bookkeeping is sound after every run.** -/
theorem Ledger.sound {is : List Input} (run : Run (publisher cfg codec) is l) :
    Sound cfg.queueCapacity l.desk :=
  run.invariant (I := fun l => Sound cfg.queueCapacity l.desk) Sound.empty
    fun _ _ _ sound step => Ledger.step_sound sound step

/-- **When an unguarded move out of the invariant breaks `goal`, a run keeps
`goal` exactly when its acts are guarded.** A pick does not decide `goal`. -/
theorem Rule.exact {inv goal : Desk → Prop} {guard : Desk → Act → Prop}
    (rule : Rule cfg.queueCapacity inv guard) (gives : ∀ d, inv d → goal d)
    (breaks : ∀ {d act d'}, Sound cfg.queueCapacity d → inv d → ¬ guard d act →
      Move cfg.queueCapacity d act d' → ¬ goal d')
    (steady : ∀ {d d'}, Move cfg.queueCapacity d .pick d' → goal d' → goal d)
    {is : List Input} (run : Run (publisher cfg codec) is l) :
    Always (publisher cfg codec) (fun l => goal l.desk) is ↔
      EachStep (publisher cfg codec) (Guarded cfg codec guard) is := by
  refine always_iff_eachStep
    (I := fun l => Sound cfg.queueCapacity l.desk ∧ inv l.desk)
    ⟨Sound.empty, rule.empty⟩
    (fun s i s' before guard step => rule.step before.1 before.2 guard step)
    (fun s before => gives s.desk before.2) ?_ run
  intro s i s' before unguarded step kept
  simp only [Guarded, not_forall] at unguarded
  obtain ⟨act, isAct, unguarded⟩ := unguarded
  obtain ⟨mid, moves, landing, -⟩ := Ledger.step_moves before.1 step
  rw [isAct] at moves
  apply breaks before.1 before.2 unguarded moves
  rcases landing with same | pick
  · exact same ▸ kept
  · exact steady pick kept

end Step

end EdgeGateway.Mqtt
