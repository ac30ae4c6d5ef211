import EdgeGateway.Mqtt.Discipline
import EdgeGateway.Mqtt.Publication
import EdgeGateway.Mqtt.Session

/-!
The publisher, suspended in single exchanges.

`Detailed` is the publisher of `EdgeGateway.Mqtt.Ledger` with the exchanges of `_connect`,
`_publish` and `_cleanup` as steps of their own: other tasks run, and TCP handlers call
`enqueue`, while any of them is pending. `ledger_of_run` says that it refines the
publisher, so that what holds of all runs of the ledger holds here.

* `at_discipline`: in every run, each exchange is due when it is begun, and behind a failure
  that is the cleanup.
* `delivered_eq_published`: what the modem has reported as published is what the books of
  the ledger say, in their order.
-/

namespace EdgeGateway.Mqtt

open EdgeGateway.Lib

/-! ### The system -/

structure Detailed where
  ledger : Ledger
  /-- what is left of the exchanges behind the pending await -/
  talk : Prog Exchange Exchange.Answer (Except PyError Unit)

inductive Detailed.Input where
  /-- a call of another task, or the end of an await that is no exchange -/
  | call (input : Mqtt.Input)
  /-- an exchange is answered, or a file is read -/
  | exchange (answers : (exchange : Exchange) → exchange.Answer) (lte : Lte) (now : Readings)

/-- How the program behind an await ends it. -/
def Outcome.ofTalk : Except PyError Unit → Outcome
  | .ok () => .returned none
  | .error exc => .raised exc

section System

variable (cfg : Config) (codec : Codec) (broker : Broker)

/-- The task is suspended in its next await. -/
def Detailed.suspend (l : Ledger) : Detailed :=
  ⟨l, l.service.pending.talk cfg broker Numbered.text⟩

/-- No other task runs while a file is read. -/
def Detailed.reading (s : Detailed) : Bool :=
  match s.talk with
  | .perform (.readFile _) _ => true
  | _ => false

def Detailed.talking (s : Detailed) : Bool :=
  match s.talk with
  | .perform _ _ => true
  | .done _ => false

def Detailed.step (s : Detailed) : Detailed.Input → Option Detailed
  | .call (.resume lte now outcome) =>
      if s.talking then none
      else (s.ledger.step cfg codec (.resume lte now outcome)).map (Detailed.suspend cfg broker)
  | .call input =>
      if s.reading then none
      else (s.ledger.step cfg codec input).map fun l => { s with ledger := l }
  | .exchange answers lte now =>
      match s.talk with
      | .done _ => none
      | .perform exchange next =>
          match next (answers exchange) with
          | .done outcome =>
              (s.ledger.step cfg codec (.resume lte now (.ofTalk outcome))).map
                (Detailed.suspend cfg broker)
          | rest => some { s with talk := rest }

def detailed : System Detailed Detailed.Input :=
  ⟨.suspend cfg broker .init, Detailed.step cfg codec broker⟩

/-- The session behind an await that is no exchange, such as a poll for events. -/
def Session.awaited (g : Session) : Outcome → Session
  | .returned _ => g
  | .raised _ => g.broken

/-- The session behind a step. -/
def Detailed.session (s : Detailed) (input : Detailed.Input) (_ : Detailed) (g : Session) :
    Session :=
  match s.talk, input with
  | .perform exchange _, .exchange answers _ _ => g.next exchange (answers exchange)
  | .done _, .call (.resume _ _ outcome) => g.awaited outcome
  | _, _ => g

/-- The publisher beside the session that it asks the modem for. -/
def watched : System (Detailed × Session) Detailed.Input :=
  (detailed cfg codec broker).withBooks .init Detailed.session

end System

variable {cfg : Config} {codec : Codec} {broker : Broker}

/-! ### What a step is -/

/-- A step of the detailed publisher, and the session behind it. -/
inductive Detailed.Steps (cfg : Config) (codec : Codec) (broker : Broker) (s : Detailed)
    (g : Session) : Detailed → Session → Prop where
  /-- another task offers a message -/
  | offers {input : Mqtt.Input} {l : Ledger} :
      (∀ lte now outcome, input ≠ .resume lte now outcome) →
      s.ledger.step cfg codec input = some l → Steps cfg codec broker s g { s with ledger := l } g
  /-- an await that is no exchange ends -/
  | resumes {done : Except PyError Unit} {lte : Lte} {now : Readings} {outcome : Outcome}
      {l : Ledger} :
      s.talk = .done done → s.ledger.step cfg codec (.resume lte now outcome) = some l →
      Steps cfg codec broker s g (.suspend cfg broker l) (g.awaited outcome)
  /-- an exchange ends, and another one follows -/
  | goesOn {exchange exchange' : Exchange}
      {next : exchange.Answer → Prog Exchange Exchange.Answer (Except PyError Unit)}
      {next' : exchange'.Answer → Prog Exchange Exchange.Answer (Except PyError Unit)}
      (answer : exchange.Answer) :
      s.talk = .perform exchange next → next answer = .perform exchange' next' →
      Steps cfg codec broker s g { s with talk := next answer } (g.next exchange answer)
  /-- the last exchange of an await ends -/
  | ends {exchange : Exchange}
      {next : exchange.Answer → Prog Exchange Exchange.Answer (Except PyError Unit)}
      {outcome : Except PyError Unit} {lte : Lte} {now : Readings} {l : Ledger}
      (answer : exchange.Answer) :
      s.talk = .perform exchange next → next answer = .done outcome →
      s.ledger.step cfg codec (.resume lte now (.ofTalk outcome)) = some l →
      Steps cfg codec broker s g (.suspend cfg broker l) (g.next exchange answer)

theorem Detailed.offer_steps {s s' : Detailed} {g : Session} {input : Mqtt.Input}
    (call : ∀ lte now outcome, input ≠ .resume lte now outcome)
    (stepped : (if s.reading then none
      else (s.ledger.step cfg codec input).map fun l => { s with ledger := l }) = some s') :
    Detailed.Steps cfg codec broker s g s' g := by
  split at stepped
  · cases stepped
  · obtain ⟨l, ran, rfl⟩ := Option.map_eq_some_iff.mp stepped
    exact .offers call ran

theorem Detailed.step_cases {s s' : Detailed} {g g' : Session} {input : Detailed.Input}
    (step : (watched cfg codec broker).step (s, g) input = some (s', g')) :
    Detailed.Steps cfg codec broker s g s' g' := by
  obtain ⟨stepped, books⟩ := withBooks_step step
  dsimp only at stepped books
  subst books
  cases input with
  | call input =>
      cases input with
      | enqueue payload parsed =>
          have same : s.session (.call (.enqueue payload parsed)) s' g = g := by
            unfold Detailed.session
            cases s.talk <;> rfl
          rw [same]
          exact offer_steps (by simp) stepped
      | enqueuePriority payload =>
          have same : s.session (.call (.enqueuePriority payload)) s' g = g := by
            unfold Detailed.session
            cases s.talk <;> rfl
          rw [same]
          exact offer_steps (by simp) stepped
      | resume lte now outcome =>
          simp only [detailed, Detailed.step] at stepped
          cases talk : s.talk with
          | perform exchange next =>
              rw [Detailed.talking, talk] at stepped
              cases stepped
          | done ended =>
              have booked : s.session (.call (.resume lte now outcome)) s' g =
                  g.awaited outcome := by
                simp only [Detailed.session, talk]
              rw [booked]
              rw [Detailed.talking, talk] at stepped
              obtain ⟨l, ran, rfl⟩ := Option.map_eq_some_iff.mp stepped
              exact .resumes talk ran
  | exchange answers lte now =>
      simp only [detailed, Detailed.step] at stepped
      cases talk : s.talk with
      | done outcome =>
          rw [talk] at stepped
          cases stepped
      | perform exchange next =>
          have booked : s.session (.exchange answers lte now) s' g =
              g.next exchange (answers exchange) := by
            simp only [Detailed.session, talk]
          rw [booked]
          rw [talk] at stepped
          dsimp only at stepped
          cases rest : next (answers exchange) with
          | done outcome =>
              rw [rest] at stepped
              obtain ⟨l, ran, rfl⟩ := Option.map_eq_some_iff.mp stepped
              exact .ends _ talk rest ran
          | perform exchange' next' =>
              rw [rest] at stepped
              obtain rfl := Option.some.inj stepped
              exact rest ▸ .goesOn _ talk rest

/-- **The detailed publisher refines the publisher of the ledger.** -/
theorem ledger_of_run {inputs : List Detailed.Input} {s : Detailed} {g : Session}
    (run : Run (watched cfg codec broker) inputs (s, g)) :
    Reachable (publisher cfg codec) s.ledger := by
  refine run.invariant (I := fun s : Detailed × Session =>
    Reachable (publisher cfg codec) s.1.ledger) (.init _) ?_
  rintro ⟨s, g⟩ input ⟨s', g'⟩ reach step
  cases Detailed.step_cases step with
  | offers _ ran => exact reach.step ran
  | resumes _ ran => exact reach.step ran
  | goesOn _ _ _ => exact reach
  | ends _ _ _ ran => exact reach.step ran

/-! ### The session behind an await -/

/-- A message as the modem is given it. -/
def Entry.bytes (message : Message) : Bytes × Bytes :=
  (encoded message.topic, encoded message.payload.text)

/-- The publications of the books. -/
def Ledger.delivered (l : Ledger) : List (Bytes × Bytes) :=
  l.history.published.map Entry.bytes

/-- The session is subscribed to the topic of the commands. -/
def Session.Subscribed (cfg : Config) (g : Session) : Prop :=
  g.phase = .subscribed ∧ g.subscription = encoded cfg.commandTopic

/-- The session of a task that is in no exchange. -/
def Ledger.Settled (cfg : Config) (l : Ledger) (g : Session) : Prop :=
  if l.service.mqtt.connected then g.Subscribed cfg else g.phase.Apart

/-- The session that the exchanges of the pending await begin with. -/
def Ledger.Begins (cfg : Config) (l : Ledger) (g : Session) : Prop :=
  match l.service.pending with
  | .provisioning => g.phase.Apart
  | .connecting => g.phase = .secured
  | .publish _ => g.Subscribed cfg
  | .cleanup => True
  | .notStarted | .lteSleep | .readEvent | .idleSleep | .backoff => l.Settled cfg g

/-- The session behind the pending await. -/
def Ledger.Behind (cfg : Config) (l : Ledger) : Except PyError Unit → Session → Prop :=
  match l.service.pending with
  | .provisioning => Outcomes (fun _ g => g.phase = .secured ∧ g.delivered = l.delivered)
      (Undelivered l.delivered)
  | .connecting => Outcomes (fun _ g => g.Subscribed cfg ∧ g.delivered = l.delivered)
      (Undelivered l.delivered)
  | .publish message => Outcomes
      (fun _ g => g.Subscribed cfg ∧ g.delivered = l.delivered ++ [message.bytes])
      (Undelivered l.delivered)
  | .cleanup => Outcomes (fun _ g => g.phase = .closed ∧ g.delivered = l.delivered)
      fun _ _ => False
  | .notStarted | .lteSleep | .readEvent | .idleSleep | .backoff =>
      fun _ g => l.Settled cfg g ∧ g.delivered = l.delivered

/-- **The programs behind the awaits lead from the one to the other.** -/
theorem ensures_suspend {l : Ledger} {g : Session} (begins : l.Begins cfg g)
    (same : g.delivered = l.delivered) :
    (Detailed.suspend cfg broker l).talk.Ensures (sessionWatch broker l.delivered)
      (l.Behind cfg) g := by
  unfold Ledger.Begins at begins
  unfold Detailed.suspend Ledger.Behind
  dsimp only
  cases pending : l.service.pending with
  | provisioning =>
      rw [pending] at begins
      exact secures_provision begins same
  | connecting =>
      rw [pending] at begins
      refine (secures_openSession begins same).mono ?_ fun _ _ kept => kept
      rintro - g' ⟨phase, subscription, same⟩
      exact ⟨⟨phase, subscription⟩, same⟩
  | publish message =>
      rw [pending] at begins
      refine (secures_publish begins.1 same).mono ?_ fun _ _ kept => kept
      rintro - g' ⟨phase, subscription, same⟩
      exact ⟨⟨phase, subscription.trans begins.2⟩, same⟩
  | cleanup =>
      refine (secures_cleanup same).mono ?_ fun _ _ no => no
      rintro - g' rfl
      exact ⟨rfl, same⟩
  | notStarted | lteSleep | readEvent | idleSleep | backoff =>
      rw [pending] at begins
      exact ⟨begins, same⟩

/-! ### Every step -/

/-- How an await ended, for the program behind it. -/
def Outcome.result : Outcome → Except PyError Unit
  | .returned _ => .ok ()
  | .raised exc => .error exc

theorem Outcome.result_ofTalk (outcome : Except PyError Unit) :
    (Outcome.ofTalk outcome).result = outcome := by
  cases outcome with
  | ok done => rfl
  | error exc => rfl

/-- An await with no exchange behind it. -/
def Await.Quiet {α : Type} : Await α → Prop
  | .provisioning | .connecting | .publish _ | .cleanup => False
  | .notStarted | .lteSleep | .readEvent | .idleSleep | .backoff => True

theorem talking_suspend (l : Ledger) :
    (Detailed.suspend cfg broker l).talking = true ↔ ¬ l.service.pending.Quiet := by
  unfold Detailed.talking Detailed.suspend
  dsimp only
  cases l.service.pending with
  | provisioning | connecting | publish | cleanup => exact ⟨fun _ => not_false, fun _ => rfl⟩
  | notStarted | lteSleep | readEvent | idleSleep | backoff =>
      exact ⟨nofun, fun loud => absurd trivial loud⟩

/-- A call of another task publishes nothing. -/
theorem Ledger.published_offer {l l' : Ledger} {input : Mqtt.Input}
    (call : ∀ lte now outcome, input ≠ .resume lte now outcome)
    (step : l.step cfg codec input = some l') : l'.history.published = l.history.published := by
  obtain ⟨s', -, rfl⟩ := Option.map_eq_some_iff.mp step
  have acts : l.act? cfg codec input = (l.offers cfg codec input).map .offer :=
    Ledger.act?_call call
  have booked : ∀ act, (l.offers cfg codec input).map Act.offer = act →
      (History.act cfg l.desk act).published = l.history.published := by
    rintro act rfl
    cases l.offers cfg codec input <;> rfl
  cases input with
  | resume lte now outcome => exact absurd rfl (call lte now outcome)
  | enqueue payload parsed => exact booked _ acts.symm
  | enqueuePriority payload => exact booked _ acts.symm

/-- The message that the end of the await publishes. -/
def Ledger.publishes (l : Ledger) (outcome : Outcome) : List Message :=
  match l.service.inFlight, outcome with
  | some message, .returned _ => [message]
  | some _, .raised _ => []
  | none, _ => []

theorem Ledger.published_resume {l l' : Ledger} {lte : Lte} {now : Readings} {outcome : Outcome}
    (step : l.step cfg codec (.resume lte now outcome) = some l') :
    l'.history.published = l.history.published ++ l.publishes outcome := by
  obtain ⟨s', -, rfl⟩ := Option.map_eq_some_iff.mp step
  have picks : ∀ h : History, (h.picks s'.inFlight).published = h.published := by
    intro h
    cases s'.inFlight <;> rfl
  have offers : ∀ offered : Option Message,
      (History.act cfg l.desk (offered.map Act.offer)).published = l.history.published := by
    intro offered
    cases offered <;> rfl
  unfold Ledger.book Ledger.act? Ledger.publishes
  dsimp only
  rw [picks]
  cases flight : l.service.inFlight with
  | some message =>
      cases outcome with
      | returned event => simp [History.act, Ledger.desk, flight, History.deliver]
      | raised exc => simp [History.act, Ledger.desk]
  | none =>
      rw [List.append_nil]
      exact offers _

/-- The deliveries of the session are those of the books, behind every await. -/
theorem Ledger.Behind.delivered {l l' : Ledger} {g : Session} {lte : Lte} {now : Readings}
    {outcome : Outcome} (behind : l.Behind cfg outcome.result g)
    (step : l.step cfg codec (.resume lte now outcome) = some l') :
    g.delivered = l'.delivered := by
  have published : l'.delivered = l.delivered ++ (l.publishes outcome).map Entry.bytes := by
    unfold Ledger.delivered
    rw [Ledger.published_resume step, List.map_append]
  have unpublished (idle : l.service.inFlight = none) : l'.delivered = l.delivered := by
    rw [published]
    unfold Ledger.publishes
    rw [idle]
    exact List.append_nil _
  unfold Ledger.Behind at behind
  cases pending : l.service.pending with
  | publish message =>
      rw [pending] at behind
      have flight : l.service.inFlight = some message := by simp [Service.inFlight, pending]
      rw [published]
      unfold Ledger.publishes
      rw [flight]
      cases outcome with
      | returned event => exact behind.2
      | raised exc => exact behind.2.trans (List.append_nil _).symm
  | provisioning | connecting =>
      rw [pending] at behind
      rw [unpublished (by simp [Service.inFlight, pending])]
      cases outcome with
      | returned event => exact behind.2
      | raised exc => exact behind.2
  | cleanup =>
      rw [pending] at behind
      rw [unpublished (by simp [Service.inFlight, pending])]
      cases outcome with
      | returned event => exact behind.2
      | raised exc => exact behind.elim
  | notStarted | lteSleep | readEvent | idleSleep | backoff =>
      rw [pending] at behind
      rw [unpublished (by simp [Service.inFlight, pending])]
      exact behind.2

/-- When `connected` is set, and when it is not. -/
structure Service.Tracked {α : Type} (s : Service α) : Prop where
  up : s.serving = true → s.mqtt.connected = true
  down : s.pending = .provisioning ∨ s.pending = .connecting ∨ s.pending = .cleanup →
    s.mqtt.connected = false

theorem Service.Tracked.turn {lte : Lte} {s s' : Service Numbered} {outcome : Outcome}
    (tracked : s.Tracked) (turn : Turn cfg lte s outcome s') : s'.Tracked := by
  cases turn with
  | waits _ _ _ _ _ pending => constructor <;> simp [Service.serving, pending]
  | connects _ _ _ off _ _ pending => constructor <;> simp [Service.serving, pending, off]
  | serves _ _ _ connected _ _ serving | connected _ _ connected _ _ serving =>
      refine ⟨fun _ => connected, fun other => ?_⟩
      rcases other with pending | pending | pending <;> simp [Service.serving, pending] at serving
  | provisioned pending _ connected _ _ pending' =>
      have off := connected.trans (tracked.down (.inl pending))
      constructor <;> simp [Service.serving, pending', off]
  | failed _ off _ _ pending => constructor <;> simp [Service.serving, pending, off]
  | idles _ _ _ _ _ _ pending => constructor <;> simp [Service.serving, pending]
  | cleaned _ _ _ _ pending => constructor <;> simp [Service.serving, pending]

/-- The session of a task that gets to the LTE gate. -/
theorem Ledger.Behind.settled {l : Ledger} {g : Session} {outcome : Outcome}
    (behind : l.Behind cfg outcome.result g) (tracked : l.service.Tracked)
    (gates : l.service.gates outcome = true) : l.Settled cfg g := by
  unfold Ledger.Behind at behind
  cases pending : l.service.pending with
  | publish message =>
      rw [pending] at behind
      have up := tracked.up (by simp [Service.serving, pending])
      unfold Ledger.Settled
      rw [if_pos up]
      cases outcome with
      | returned event => exact behind.1
      | raised exc => cases gates
  | provisioning | connecting | cleanup =>
      cases outcome <;> simp [Service.gates, pending] at gates
  | notStarted | lteSleep | readEvent | idleSleep | backoff =>
      rw [pending] at behind
      exact behind.1

/-- A task that serves has a session. -/
theorem Ledger.begins_serving {l : Ledger} {g : Session} (serving : l.service.serving = true)
    (connected : l.service.mqtt.connected = true) (subscribed : g.Subscribed cfg) :
    l.Begins cfg g := by
  unfold Ledger.Begins
  cases pending : l.service.pending with
  | publish message => exact subscribed
  | readEvent =>
      dsimp only
      unfold Ledger.Settled
      rwa [if_pos connected]
  | provisioning | connecting | cleanup | notStarted | lteSleep | idleSleep | backoff =>
      simp [Service.serving, pending] at serving

/-- **The session behind one await is the one that the next await begins with.** -/
theorem Ledger.Behind.begins {l l' : Ledger} {g : Session} {lte : Lte} {outcome : Outcome}
    (behind : l.Behind cfg outcome.result g) (tracked : l.service.Tracked)
    (turn : Turn cfg lte l.service outcome l'.service) : l'.Begins cfg g := by
  have same (connected : l'.service.mqtt.connected = l.service.mqtt.connected)
      (settled : l.Settled cfg g) : l'.Settled cfg g := by
    unfold Ledger.Settled
    rwa [connected]
  cases turn with
  | waits gates _ connected _ _ pending =>
      unfold Ledger.Begins
      rw [pending]
      exact same connected (behind.settled tracked gates)
  | connects gates _ off _ _ _ pending =>
      have settled := behind.settled tracked gates
      unfold Ledger.Settled at settled
      rw [if_neg (by simp [off])] at settled
      unfold Ledger.Begins
      rw [pending]
      exact settled
  | serves gates _ on connected _ _ serving =>
      have settled := behind.settled tracked gates
      unfold Ledger.Settled at settled
      rw [if_pos on] at settled
      exact Ledger.begins_serving serving connected settled
  | provisioned pending calm _ _ _ pending' =>
      unfold Ledger.Behind at behind
      rw [pending] at behind
      unfold Ledger.Begins
      rw [pending']
      cases outcome with
      | returned event => exact behind.1
      | raised exc => simp [Service.fails, pending] at calm
  | connected pending calm connected _ _ serving =>
      unfold Ledger.Behind at behind
      rw [pending] at behind
      cases outcome with
      | returned event => exact Ledger.begins_serving serving connected behind.1
      | raised exc => simp [Service.fails, pending] at calm
  | failed _ _ _ _ pending =>
      unfold Ledger.Begins
      rw [pending]
      trivial
  | idles pending _ _ connected _ _ pending' =>
      unfold Ledger.Behind at behind
      rw [pending] at behind
      unfold Ledger.Begins
      rw [pending']
      exact same connected behind.1
  | cleaned pending connected _ _ pending' =>
      have off := connected.trans (tracked.down (.inr (.inr pending)))
      unfold Ledger.Behind at behind
      rw [pending] at behind
      unfold Ledger.Begins
      rw [pending']
      dsimp only
      unfold Ledger.Settled
      rw [if_neg (by simp [off])]
      cases outcome with
      | returned event => exact .inr behind.1
      | raised exc => exact behind.elim

/-! ### Every run -/

structure Detailed.Disciplined (cfg : Config) (broker : Broker) (s : Detailed) (g : Session) :
    Prop where
  talk : s.talk.Ensures (sessionWatch broker s.ledger.delivered) (s.ledger.Behind cfg) g
  tracked : s.ledger.service.Tracked
  talking : s.talking = true ↔ ¬ s.ledger.service.pending.Quiet

theorem Detailed.Disciplined.init : Disciplined cfg broker (.suspend cfg broker .init) .init where
  talk := ensures_suspend (.inl rfl) rfl
  tracked := by
    constructor <;> simp [Detailed.suspend, Ledger.init, Service.init, Service.serving]
  talking := talking_suspend _

/-- The program behind an await ended, and the task runs on to the next one. -/
theorem Detailed.Disciplined.resumed {l l' : Ledger} {g : Session} {lte : Lte} {now : Readings}
    {outcome : Outcome} (behind : l.Behind cfg outcome.result g) (tracked : l.service.Tracked)
    (step : l.step cfg codec (.resume lte now outcome) = some l') :
    Disciplined cfg broker (.suspend cfg broker l') g := by
  obtain ⟨s', ran, rfl⟩ := Option.map_eq_some_iff.mp step
  have turn : Turn cfg lte l.service outcome s' := Service.resume_turn ran
  exact ⟨ensures_suspend (behind.begins tracked turn) (behind.delivered step), tracked.turn turn,
    talking_suspend _⟩

/-- An await with no exchange raised. Only a poll for events does, and then the cleanup
begins. -/
theorem Detailed.Disciplined.broken {l l' : Ledger} {g : Session} {lte : Lte} {now : Readings}
    {exc : PyError} (behind : l.Behind cfg (.error exc) g) (quiet : l.service.pending.Quiet)
    (tracked : l.service.Tracked)
    (step : l.step cfg codec (.resume lte now (.raised exc)) = some l') :
    Disciplined cfg broker (.suspend cfg broker l') g.broken := by
  have same : g.delivered = l'.delivered := behind.delivered step
  obtain ⟨s', ran, booked⟩ := Option.map_eq_some_iff.mp step
  have service : l'.service = s' := booked ▸ rfl
  have turn : Turn cfg lte l.service (.raised exc) s' := Service.resume_turn ran
  have pending : s'.pending = .cleanup := by
    cases turn with
    | failed _ _ _ _ pending => exact pending
    | waits gates | connects gates | serves gates => cases gates
    | provisioned here | connected here | cleaned here =>
        rw [here] at quiet
        exact quiet.elim
    | idles polls _ calm => simp [Service.fails, polls] at calm
  have begins : l'.Begins cfg g.broken := by
    unfold Ledger.Begins
    rw [service, pending]
    trivial
  exact ⟨ensures_suspend begins same, service ▸ tracked.turn turn, talking_suspend _⟩

/-- Behind an await with no exchange, it does not matter how the await ended. -/
theorem Ledger.Behind.quiet {l : Ledger} {g : Session} {one other : Except PyError Unit}
    (behind : l.Behind cfg one g) (quiet : l.service.pending.Quiet) : l.Behind cfg other g := by
  unfold Ledger.Behind at behind ⊢
  cases pending : l.service.pending with
  | provisioning | connecting | publish | cleanup =>
      rw [pending] at quiet
      exact quiet.elim
  | notStarted | lteSleep | readEvent | idleSleep | backoff =>
      rw [pending] at behind
      exact behind

/-- A call of another task leaves the session and its await alone. -/
theorem Detailed.Disciplined.offered {s : Detailed} {g : Session} {l : Ledger}
    {input : Mqtt.Input} (disciplined : Disciplined cfg broker s g)
    (call : ∀ lte now outcome, input ≠ .resume lte now outcome)
    (step : s.ledger.step cfg codec input = some l) :
    Disciplined cfg broker { s with ledger := l } g := by
  have published := Ledger.published_offer call step
  obtain ⟨s', ran, rfl⟩ := Option.map_eq_some_iff.mp step
  rcases Service.step_turn ran with ⟨lte, now, outcome, isResume, -⟩ | ⟨-, connected, -, -, pending⟩
  · exact absurd isResume (call lte now outcome)
  · have same : ∀ l : Ledger, l.service = s' → l.history.published = s.ledger.history.published →
        l.delivered = s.ledger.delivered ∧ l.Behind cfg = s.ledger.Behind cfg := by
      rintro l rfl published
      have delivered : l.delivered = s.ledger.delivered := congrArg (List.map Entry.bytes) published
      have settled : l.Settled cfg = s.ledger.Settled cfg := by
        unfold Ledger.Settled
        rw [connected]
      refine ⟨delivered, ?_⟩
      unfold Ledger.Behind
      rw [pending, delivered, settled]
    obtain ⟨delivered, behind⟩ := same _ rfl published
    refine ⟨?_, ?_, ?_⟩
    · rw [delivered, behind]
      exact disciplined.talk
    · have serving : s'.serving = s.ledger.service.serving := by simp [Service.serving, pending]
      exact ⟨by rw [serving, connected]; exact disciplined.tracked.up,
        by rw [pending, connected]; exact disciplined.tracked.down⟩
    · rw [pending]
      exact disciplined.talking

theorem Detailed.talking_perform {s : Detailed} {exchange : Exchange}
    {next : exchange.Answer → Prog Exchange Exchange.Answer (Except PyError Unit)}
    (talk : s.talk = .perform exchange next) : s.talking = true := by
  rw [Detailed.talking, talk]

/-- A task in no exchange. -/
theorem Detailed.Disciplined.behind {s : Detailed} {g : Session} {done : Except PyError Unit}
    (disciplined : Disciplined cfg broker s g) (talk : s.talk = .done done) :
    s.ledger.service.pending.Quiet ∧ ∀ outcome, s.ledger.Behind cfg outcome g := by
  have quiet : s.ledger.service.pending.Quiet := by
    by_contra loud
    have talking := disciplined.talking.mpr loud
    rw [Detailed.talking, talk] at talking
    cases talking
  have behind := disciplined.talk
  rw [talk] at behind
  exact ⟨quiet, fun _ => behind.quiet quiet⟩

theorem Detailed.Disciplined.step {s s' : Detailed} {g g' : Session} {input : Detailed.Input}
    (disciplined : Disciplined cfg broker s g)
    (step : (watched cfg codec broker).step (s, g) input = some (s', g')) :
    Disciplined cfg broker s' g' := by
  cases Detailed.step_cases step with
  | offers call ran => exact disciplined.offered call ran
  | @resumes _ _ _ outcome _ talk ran =>
      obtain ⟨quiet, behind⟩ := disciplined.behind talk
      cases outcome with
      | returned event => exact .resumed (behind _) disciplined.tracked ran
      | raised exc => exact .broken (behind _) quiet disciplined.tracked ran
  | goesOn answer talk rest =>
      have ensures := disciplined.talk
      rw [talk] at ensures
      have loud := disciplined.talking.mp (Detailed.talking_perform talk)
      exact ⟨ensures.2 answer trivial, disciplined.tracked,
        ⟨fun _ => loud, fun _ => Detailed.talking_perform rest⟩⟩
  | ends answer talk rest ran =>
      have ensures := disciplined.talk
      rw [talk] at ensures
      have behind := ensures.2 answer trivial
      rw [rest] at behind
      exact .resumed (Outcome.result_ofTalk _ ▸ behind) disciplined.tracked ran

theorem disciplined_of_run {inputs : List Detailed.Input} {s : Detailed} {g : Session}
    (run : Run (watched cfg codec broker) inputs (s, g)) : s.Disciplined cfg broker g :=
  run.invariant (I := fun s : Detailed × Session => s.1.Disciplined cfg broker s.2) .init
    fun _ _ _ disciplined step => disciplined.step step

/-- A session that serves, or none, is not broken. -/
theorem Ledger.Settled.unbroken {l : Ledger} {g : Session} (settled : l.Settled cfg g) :
    g.phase ≠ .failed := by
  intro failed
  unfold Ledger.Settled at settled
  split at settled
  · exact absurd (failed.symm.trans settled.1) (by simp)
  · exact settled.elim (fun unknown => absurd (failed.symm.trans unknown) (by simp))
      fun closed => absurd (failed.symm.trans closed) (by simp)

/-- **In every run, each exchange is due when it is begun**: whatever was answered and
whatever failed before, the commands of the session come in their order, with all
certificates installed before it is started and with uploads of the announced size. Behind
a failure, the first command of the cleanup is what is pending. And the task polls for
events in a session that is subscribed to the topic of the commands. -/
theorem at_discipline {inputs : List Detailed.Input} {s : Detailed} {g : Session}
    (run : Run (watched cfg codec broker) inputs (s, g)) :
    (∀ exchange next, s.talk = .perform exchange next → g.Allows broker exchange) ∧
      (g.phase = .failed → ∃ exchange next, s.talk = .perform exchange next ∧
        exchange.request? = some .disconnect) ∧
      (s.ledger.service.pending = .readEvent → g.Subscribed cfg) := by
  have disciplined := disciplined_of_run run
  have due : ∀ exchange next, s.talk = .perform exchange next → g.Allows broker exchange := by
    intro exchange next talk
    have ensures := disciplined.talk
    rw [talk] at ensures
    exact ensures.1.1
  refine ⟨due, fun failed => ?_, fun polls => ?_⟩
  · cases talk : s.talk with
    | perform exchange next => exact ⟨exchange, next, rfl, (due _ _ talk).of_failed failed⟩
    | done outcome =>
        obtain ⟨quiet, behind⟩ := disciplined.behind talk
        have here := behind (.ok ())
        unfold Ledger.Behind at here
        cases pending : s.ledger.service.pending with
        | provisioning | connecting | publish | cleanup =>
            rw [pending] at quiet
            exact quiet.elim
        | notStarted | lteSleep | readEvent | idleSleep | backoff =>
            rw [pending] at here
            exact absurd failed here.1.unbroken
  · have up := disciplined.tracked.up (by simp [Service.serving, polls])
    cases talk : s.talk with
    | perform exchange next =>
        have loud := disciplined.talking.mp (Detailed.talking_perform talk)
        rw [polls] at loud
        exact absurd trivial loud
    | done outcome =>
        have behind := (disciplined.behind talk).2 (.ok ())
        unfold Ledger.Behind at behind
        rw [polls] at behind
        have settled := behind.1
        unfold Ledger.Settled at settled
        rwa [if_pos up] at settled

/-- The counters of the publisher are those of its books. -/
theorem tallied_of_reachable {l : Ledger} (reach : Reachable (publisher cfg codec) l) :
    Tallied l.history l.service.mqtt := by
  obtain ⟨is, run⟩ := reach
  refine (run.invariant (I := fun l => Sound cfg.queueCapacity l.desk ∧
    Tallied l.history l.service.mqtt) ⟨Sound.empty, ⟨rfl, rfl, rfl, rfl⟩⟩ ?_).2
  intro l input l' before step
  exact ⟨Ledger.step_sound before.1 step, before.2.step before.1 step⟩

/-- **What the modem has reported as published is what the books say**, text by text and in
their order, and is as much as `published` counts; and the books are those of a run of the
publisher. -/
theorem delivered_eq_published {inputs : List Detailed.Input} {s : Detailed} {g : Session}
    (run : Run (watched cfg codec broker) inputs (s, g)) :
    g.delivered = s.ledger.history.published.map Entry.bytes ∧
      s.ledger.service.mqtt.published = g.delivered.length ∧
      Reachable (publisher cfg codec) s.ledger := by
  have disciplined := disciplined_of_run run
  have reach := ledger_of_run run
  have same : g.delivered = s.ledger.delivered := by
    cases talk : s.talk with
    | perform exchange next =>
        have ensures := disciplined.talk
        rw [talk] at ensures
        exact ensures.1.2
    | done outcome =>
        obtain ⟨quiet, behind⟩ := disciplined.behind talk
        have here := behind (.ok ())
        unfold Ledger.Behind at here
        cases pending : s.ledger.service.pending with
        | provisioning | connecting | publish | cleanup =>
            rw [pending] at quiet
            exact quiet.elim
        | notStarted | lteSleep | readEvent | idleSleep | backoff =>
            rw [pending] at here
            exact here.2
  refine ⟨same, ?_, reach⟩
  rw [same, Ledger.delivered, List.length_map]
  exact (tallied_of_reachable reach).published

/-! ### A session -/

/-- A modem that does what it is asked, and lists all certificates. -/
def obliging : (exchange : Exchange) → exchange.Answer
  | .command line _ _ => .ok ((if line = "AT+CCERTLIST" then
      "aws-root.pem aws-device.pem aws-key.pem" else "") ++ "\r\nOK\r\n").toList
  | .commandUntil _ marker _ => .ok (marker ++ " 0,0\r\n").toList
  | .promptUpload _ _ _ => .ok "\r\nOK\r\n".toList
  | .readFile _ => .ok []

def obliged : Detailed.Input :=
  .exchange obliging ⟨true, true⟩ ⟨"2024-01-01T00:00:00Z", 60, 100000, "HOME", some (-71), none⟩

/-- A reading is queued, the session is opened with thirteen exchanges and then three, and
the reading is published with three more. -/
def firstReading : List Detailed.Input :=
  [.call (reading "21.5"), .call done] ++ List.replicate 19 obliged

/-- The next poll for events fails. -/
def pollFails : Detailed.Input :=
  .call (.resume ⟨true, true⟩ ⟨"2024-01-01T00:00:01Z", 61, 100000, "HOME", some (-71), none⟩
    (.raised (.osError "ERROR")))

theorem at_discipline_first :
    (∃ s g, Run (watched .shipped idleCodec .shipped) firstReading (s, g) ∧
      g.Subscribed .shipped) ∧
    ∃ s g, Run (watched .shipped idleCodec .shipped) (firstReading ++ [pollFails]) (s, g) ∧
      ∃ exchange next, s.talk = .perform exchange next ∧
        exchange.request? = some .disconnect := by
  have polls : ∃ t, Run (watched .shipped idleCodec .shipped) firstReading t ∧
      t.1.ledger.service.pending = .readEvent :=
    ⟨_, run_iff_exec.mpr rfl, rfl⟩
  have fails : ∃ t, Run (watched .shipped idleCodec .shipped) (firstReading ++ [pollFails]) t ∧
      t.2.phase = .failed :=
    ⟨_, run_iff_exec.mpr rfl, rfl⟩
  obtain ⟨⟨s, g⟩, run, polls⟩ := polls
  obtain ⟨⟨s', g'⟩, run', failed⟩ := fails
  exact ⟨⟨s, g, run, (at_discipline run).2.2 polls⟩, s', g', run', (at_discipline run').2.1 failed⟩

theorem delivered_eq_published_first :
    ∃ s g, Run (watched .shipped idleCodec .shipped) firstReading (s, g) ∧
      s.ledger.service.mqtt.published = 1 ∧ g.delivered.length = 1 := by
  have exec : ∃ t, Run (watched .shipped idleCodec .shipped) firstReading t ∧
      t.1.ledger.service.mqtt.published = 1 :=
    ⟨_, run_iff_exec.mpr rfl, rfl⟩
  obtain ⟨⟨s, g⟩, run, published⟩ := exec
  exact ⟨s, g, run, published, (delivered_eq_published run).2.1.symm.trans published⟩

end EdgeGateway.Mqtt
