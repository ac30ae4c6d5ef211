import EdgeGateway.Mqtt.Session

/-!
The queue drains.

From any reachable state of the publisher, whatever it waits for and however its last
session ended: once the modem is up and every await returns, the queue is empty after
as many returns as it had messages, and four more. What is published meanwhile is the
message in flight and then the queue behind its head, in order.

* `Ledger.smooth_due`: a return moves messages from what is due to what is published.
* `Service.smooth_left`: and brings the empty queue nearer.
* `queue_drains`: the two together, over every run.
-/

namespace EdgeGateway.Mqtt

open EdgeGateway.Lib

/-- The publisher from any state on. -/
def publisherFrom (cfg : Config) (codec : Codec) (start : Ledger) : System Ledger Input :=
  ⟨start, Ledger.step cfg codec⟩

/-- The pending await returns while the modem is up, and nothing is queued with it. -/
def Smooth (cfg : Config) (codec : Codec) (l : Ledger) : Input → Prop
  | .resume lte now (.returned event) =>
      lte.up = true ∧ (l.offers cfg codec (.resume lte now (.returned event))).isNone = true
  | _ => False

instance {cfg : Config} {codec : Codec} {l : Ledger} : DecidablePred (Smooth cfg codec l)
  | .resume _ _ (.returned _) => inferInstanceAs (Decidable (_ ∧ _))
  | .resume _ _ (.raised _) | .enqueue _ _ | .enqueuePriority _ => inferInstanceAs (Decidable False)

/-- What the publisher is going to publish: the message in flight, whose return takes the
head off the queue, and the queue behind. -/
def Desk.due (d : Desk) : List Message :=
  match d.inFlight with
  | some message => message :: d.queue.tail
  | none => d.queue

/-! ### What is due and what was published -/

section Due

variable {cfg : Config} {codec : Codec} {l l' : Ledger} {lte : Lte} {now : Readings}
  {event : Option Text}

/-- Nothing is offered, and what was due is published or still due. -/
structure Moved (d d' : Desk) : Prop where
  offered : d'.history.offered = d.history.offered
  due : d'.history.published ++ d'.due = d.history.published ++ d.due

theorem Move.deliver_moved {capacity : Nat} {d d' : Desk} (move : Move capacity d .deliver d') :
    Moved d d' := by
  cases move with
  | deliver => exact ⟨rfl, by simp [Desk.due, History.deliver]⟩

theorem Move.pick_moved {capacity : Nat} {d d' : Desk} (move : Move capacity d .pick d') :
    Moved d d' := by
  cases move with
  | pick => exact ⟨rfl, rfl⟩

theorem Moved.trans {d d' d'' : Desk} (left : Moved d d') (right : Moved d' d'') : Moved d d'' :=
  ⟨right.offered.trans left.offered, right.due.trans left.due⟩

/-- **A return publishes what is due, and nothing else.** -/
theorem Ledger.smooth_due (sound : Sound cfg.queueCapacity l.desk)
    (smooth : Smooth cfg codec l (.resume lte now (.returned event)))
    (step : l.step cfg codec (.resume lte now (.returned event)) = some l') :
    Moved l.desk l'.desk := by
  obtain ⟨mid, moves, landing, -⟩ := Ledger.step_moves sound step
  have first : Moved l.desk mid := by
    cases flight : l.service.inFlight with
    | some message =>
        have act : l.act? cfg codec (.resume lte now (.returned event)) = some .deliver := by
          simp [Ledger.act?, flight]
        rw [act] at moves
        exact Move.deliver_moved moves
    | none =>
        rw [Ledger.act?_idle flight, Option.isNone_iff_eq_none.mp smooth.2] at moves
        obtain rfl : mid = l.desk := moves
        exact ⟨rfl, rfl⟩
  rcases landing with same | pick
  · rw [same]
    exact first
  · exact first.trans pick.pick_moved

end Due

/-! ### The way to the empty queue -/

section Left

variable {cfg : Config} {codec : Codec} {lte : Lte} {now : Readings} {wrap : String → Numbered}
  {s s' : Service Numbered} {event : Option Text}

/-- The awaits of `_connect`, if there is no session. -/
def MQTTManager.connects (m : MQTTManager Numbered) : Nat :=
  if m.connected then 0 else 2

/-- The returns before the next one of a publish, at most. -/
def Service.ahead (s : Service Numbered) : Nat :=
  match s.pending with
  | .notStarted | .lteSleep | .idleSleep | .backoff => 1 + s.mqtt.connects
  | .provisioning => 2
  | .connecting => 1
  | .publish _ => s.mqtt.connects
  | .readEvent | .cleanup => 2 + s.mqtt.connects

/-- The queue is empty within `n` returns. -/
def Service.DrainsIn (s : Service Numbered) (n : Nat) : Prop :=
  s.mqtt.queue = [] ∨ s.ahead + s.mqtt.queue.length ≤ n

theorem Service.ahead_le (s : Service Numbered) : s.ahead ≤ 4 := by
  have few : s.mqtt.connects ≤ 2 := by
    unfold MQTTManager.connects
    split
    · exact Nat.zero_le 2
    · exact Nat.le_refl 2
  unfold Service.ahead
  split <;> omega

/-- Serving picks the head of the queue. -/
theorem Service.serve_drains {n : Nat} (session : s.mqtt.connected = true)
    (few : s.mqtt.queue.length ≤ n) : s.serve.DrainsIn n := by
  unfold Service.serve
  cases queue : s.mqtt.queue with
  | nil => exact .inl queue
  | cons head rest =>
      refine .inr ?_
      have none : s.mqtt.connects = 0 := if_pos session
      change s.mqtt.connects + s.mqtt.queue.length ≤ n
      rw [none]
      omega

theorem Service.loop_drains {n : Nat} (up : lte.up = true)
    (few : s.mqtt.queue = [] ∨ s.mqtt.connects + s.mqtt.queue.length ≤ n) :
    (s.loop lte).DrainsIn n := by
  have gate : (!lte.responding || !lte.dataActive) = !lte.up := by
    simp [Lte.up]
  unfold Service.loop
  rw [gate, if_neg (by simp [up])]
  by_cases session : s.mqtt.connected = true
  · rw [if_neg (by simp [session])]
    apply Service.serve_drains session
    rcases few with empty | few
    · simp [empty]
    · omega
  · have two : s.mqtt.connects = 2 := if_neg session
    rw [if_pos (by simp [session])]
    rw [two] at few
    exact few

/-- **A return brings the empty queue nearer.** -/
theorem Service.resume_drains {n : Nat} (drains : s.DrainsIn (n + 1)) (up : lte.up = true)
    (none : ∀ text, s.pending = .readEvent → event = some text →
      s.mqtt.reply cfg codec now text = none)
    (ran : s.resume cfg codec lte now wrap (.returned event) = some s') : s'.DrainsIn n := by
  -- what is left once the await itself has returned
  have less {k : Nat} (place : s.ahead = k + 1) :
      s.mqtt.queue = [] ∨ k + s.mqtt.queue.length ≤ n :=
    drains.imp id fun few => by omega
  obtain ⟨m, delay, pending⟩ := s
  cases pending with
  | notStarted =>
      obtain rfl := Option.some.inj ran
      exact Service.loop_drains up (less (Nat.add_comm 1 _))
  | lteSleep =>
      obtain rfl := Option.some.inj ran
      exact Service.loop_drains up (less (Nat.add_comm 1 _))
  | idleSleep =>
      obtain rfl := Option.some.inj ran
      exact Service.loop_drains up (less (Nat.add_comm 1 _))
  | backoff =>
      obtain rfl := Option.some.inj ran
      exact Service.loop_drains up (less (Nat.add_comm 1 _))
  | provisioning =>
      obtain rfl := Option.some.inj ran
      exact less rfl
  | connecting =>
      obtain rfl := Option.some.inj ran
      unfold Service.connectDone
      apply Service.serve_drains rfl
      rcases less rfl with empty | few
      · exact (congrArg List.length empty).le.trans (Nat.zero_le n)
      · exact (Nat.zero_add _).symm.le.trans few
  | publish entry =>
      obtain rfl := Option.some.inj ran
      unfold Service.publishDone
      cases queue : m.queue with
      | nil => exact .inl queue
      | cons head rest =>
          apply Service.loop_drains up
          rcases drains with empty | few
          · cases empty.symm.trans queue
          · right
            have whole : m.connects + m.queue.length ≤ n + 1 := few
            rw [queue, List.length_cons] at whole
            exact Nat.le_of_succ_le_succ whole
  | readEvent =>
      have asleep : m.queue = [] ∨ 1 + m.connects + m.queue.length ≤ n :=
        less (show 2 + m.connects = 1 + m.connects + 1 by omega)
      cases event with
      | none =>
          obtain rfl := Option.some.inj ran
          exact asleep
      | some text =>
          cases text with
          | nil =>
              obtain rfl := Option.some.inj ran
              exact asleep
          | cons c cs =>
              obtain rfl := Option.some.inj ran
              have quiet : m.handleEvent cfg codec now wrap (c :: cs) = m := by
                unfold MQTTManager.handleEvent
                rw [none (c :: cs) rfl rfl]
              rw [quiet]
              apply Service.loop_drains up
              change m.queue = [] ∨ m.connects + m.queue.length ≤ n
              rcases asleep with empty | few
              · exact .inl empty
              · exact .inr (by omega)
  | cleanup =>
      obtain rfl := Option.some.inj ran
      exact less (show 2 + m.connects = 1 + m.connects + 1 by omega)

end Left

/-! ### Every run -/

section Drain

variable {cfg : Config} {codec : Codec} {start l l' : Ledger} {is : List Input} {input : Input}

theorem Ledger.smooth_drains {n : Nat} (drains : l.service.DrainsIn (n + 1))
    (smooth : Smooth cfg codec l input) (step : l.step cfg codec input = some l') :
    l'.service.DrainsIn n := by
  cases input with
  | enqueue payload parsed => exact smooth.elim
  | enqueuePriority payload => exact smooth.elim
  | resume lte now outcome =>
      cases outcome with
      | raised exc => exact smooth.elim
      | returned event =>
          obtain ⟨s', ran, rfl⟩ := Option.map_eq_some_iff.mp step
          refine Service.resume_drains drains smooth.1 ?_ ran
          rintro text reading rfl
          have none := Option.isNone_iff_eq_none.mp smooth.2
          unfold Ledger.offers at none
          dsimp only at none
          rw [if_pos reading] at none
          exact Option.map_eq_none_iff.mp none

/-- **The queue drains.** From every reachable state, after as many returns as there are
messages and four more, everything that was due is published, in order. -/
theorem queue_drains (reach : Reachable (publisher cfg codec) start)
    (run : Run (publisherFrom cfg codec start) is l)
    (smooth : EachStep (publisherFrom cfg codec start) (Smooth cfg codec) is)
    (enough : start.queue.length + 4 ≤ is.length) :
    l.queue = [] ∧ l.service.inFlight = none ∧ l.history.offered = start.history.offered ∧
      l.history.published = start.history.published ++ start.desk.due := by
  have inv : Sound cfg.queueCapacity l.desk ∧ Moved start.desk l.desk ∧
      l.service.DrainsIn (start.queue.length + 4 - is.length) := by
    clear enough
    induction run with
    | start =>
        obtain ⟨js, before⟩ := reach
        have few : start.service.ahead + start.queue.length ≤ start.queue.length + 4 := by
          have := start.service.ahead_le
          omega
        exact ⟨Ledger.sound before, ⟨rfl, rfl⟩, .inr few⟩
    | @next is l l' input run step ih =>
        obtain ⟨sound, moved, drains⟩ := ih (smooth.mono_prefix (List.prefix_append _ _))
        have here := smooth is input l (List.prefix_refl _) run
        refine ⟨Ledger.step_sound sound step, ?_, ?_⟩
        · apply moved.trans
          cases input with
          | enqueue payload parsed => exact here.elim
          | enqueuePriority payload => exact here.elim
          | resume lte now outcome =>
              cases outcome with
              | raised exc => exact here.elim
              | returned event => exact Ledger.smooth_due sound here step
        · refine Ledger.smooth_drains (l := l) (drains.imp id fun few => few.trans ?_) here step
          rw [List.length_append, List.length_singleton]
          omega
  obtain ⟨sound, moved, drains⟩ := inv
  have empty : l.queue = [] := by
    rcases drains with empty | few
    · exact empty
    · have : l.queue.length = 0 := by
        change l.service.ahead + l.queue.length ≤ _ at few
        omega
      exact List.length_eq_zero_iff.mp this
  have idle : l.service.inFlight = none := by
    by_contra flying
    obtain ⟨message, flight⟩ := Option.ne_none_iff_exists'.mp flying
    exact (sound.flying message flight).2 empty
  have nothing : l.desk.due = [] := by
    unfold Desk.due
    rw [show l.desk.inFlight = none from idle]
    exact empty
  refine ⟨empty, idle, moved.offered, ?_⟩
  have due := moved.due
  rw [nothing, List.append_nil] at due
  exact due

theorem queue_drains_rush : ∃ l, Run (publisherFrom .shipped idleCodec rushLedger)
    (List.replicate 8 done) l ∧ rushLedger.queue.length = 4 ∧ l.queue = [] ∧
      l.service.inFlight = none ∧ l.history.offered = rushLedger.history.offered ∧
      l.history.published = rushLedger.history.published ++ rushLedger.desk.due := by
  obtain ⟨l, exec⟩ : ∃ l, (publisherFrom .shipped idleCodec rushLedger).exec
      (List.replicate 8 done) = some l := Option.isSome_iff_exists.mp (by decide)
  exact ⟨l, run_iff_exec.mpr exec, by decide, queue_drains ⟨rush, rush_run⟩
    (run_iff_exec.mpr exec) (eachStep_of_checks (by decide)) (by decide)⟩

end Drain

end EdgeGateway.Mqtt
