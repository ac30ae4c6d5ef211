import EdgeGateway.Mqtt.Erase
import EdgeGateway.Mqtt.Loss

/-!
The session of `MQTTManager.start`: the LTE gate, the connection and the handler.

`Turn` says what one stretch of the task does to `connected`, `state` and the
local `delay`, and where it suspends next, one constructor per way through the
loop (`Service.resume_turn`). The queue does not matter here.

The dashboard shows `state` and `connected` side by side. They agree as long as
the LTE gate stays open for a connected session (`session_truthful_iff`): the
gate writes `state` and leaves `connected` alone, and nothing writes `state`
back when the gate opens again (`session_untruthful`).
-/

namespace EdgeGateway.Mqtt

open EdgeGateway.Lib

variable {α : Type}

/-! ### Where a stretch goes -/

/-- The LTE gate is open. -/
def Lte.up (lte : Lte) : Bool := lte.responding && lte.dataActive

/-- The stretch runs to the top of the loop, and so to the LTE gate. -/
def Service.gates (s : Service α) : Outcome → Bool
  | .raised _ => false
  | .returned event =>
      match s.pending with
      | .notStarted | .lteSleep | .idleSleep | .backoff => true
      | .publish _ => !s.mqtt.queue.isEmpty
      | .readEvent => !(event.getD []).isEmpty
      | .provisioning | .connecting | .cleanup => false

/-- The stretch runs into the `except Exception` branch. -/
def Service.fails (s : Service α) : Outcome → Bool
  | .raised _ =>
      match s.pending with
      | .provisioning | .connecting | .publish _ | .readEvent => true
      | .notStarted | .lteSleep | .idleSleep | .cleanup | .backoff => false
  | .returned _ =>
      match s.pending with
      -- `pop(0)` on an empty queue
      | .publish _ => s.mqtt.queue.isEmpty
      | _ => false

/-- The local `delay` when the stretch gets to the gate. -/
def Service.delayAtGate (cfg : Config) (s : Service α) : Nat :=
  match s.pending with
  | .notStarted => 5
  | .backoff => min (s.delay * 2) cfg.reconnectMaxSeconds
  | _ => s.delay

/-- The task publishes a message or polls for inbound events. -/
def Service.serving (s : Service α) : Bool :=
  match s.pending with
  | .publish _ | .readEvent => true
  | _ => false

/-- What a stretch does to the session. -/
inductive Turn (cfg : Config) (lte : Lte) (s : Service α) (outcome : Outcome) (s' : Service α) :
    Prop where
  /-- the gate is closed -/
  | waits : s.gates outcome = true → lte.up = false → s'.mqtt.connected = s.mqtt.connected →
      s'.mqtt.state = .waitingForLte → s'.delay = s.delayAtGate cfg → s'.pending = .lteSleep →
      Turn cfg lte s outcome s'
  /-- the gate is open and there is no session -/
  | connects : s.gates outcome = true → lte.up = true → s.mqtt.connected = false →
      s'.mqtt.connected = false → s'.mqtt.state = .provisioning → s'.delay = s.delayAtGate cfg →
      s'.pending = .provisioning → Turn cfg lte s outcome s'
  /-- the gate is open and the session serves -/
  | serves : s.gates outcome = true → lte.up = true → s.mqtt.connected = true →
      s'.mqtt.connected = true → s'.mqtt.state = s.mqtt.state → s'.delay = s.delayAtGate cfg →
      s'.serving = true → Turn cfg lte s outcome s'
  | provisioned : s.pending = .provisioning → s.fails outcome = false →
      s'.mqtt.connected = s.mqtt.connected → s'.mqtt.state = .connecting → s'.delay = s.delay →
        s'.pending = .connecting →
      Turn cfg lte s outcome s'
  | connected : s.pending = .connecting → s.fails outcome = false → s'.mqtt.connected = true →
      s'.mqtt.state = .connected → s'.delay = 5 → s'.serving = true → Turn cfg lte s outcome s'
  | failed : s.fails outcome = true → s'.mqtt.connected = false → s'.mqtt.state = .reconnecting →
      s'.delay = s.delay → s'.pending = .cleanup → Turn cfg lte s outcome s'
  /-- no event was there -/
  | idles : s.pending = .readEvent → s.gates outcome = false → s.fails outcome = false →
      s'.mqtt.connected = s.mqtt.connected → s'.mqtt.state = s.mqtt.state → s'.delay = s.delay →
        s'.pending = .idleSleep →
      Turn cfg lte s outcome s'
  | cleaned : s.pending = .cleanup → s'.mqtt.connected = s.mqtt.connected →
      s'.mqtt.state = s.mqtt.state → s'.delay = s.delay → s'.pending = .backoff →
      Turn cfg lte s outcome s'

/-! ### Every stretch is a turn -/

/-- Serving touches nothing but the await. -/
theorem Service.serve_control (s : Service α) :
    s.serve.mqtt = s.mqtt ∧ s.serve.delay = s.delay ∧ s.serve.serving = true := by
  unfold Service.serve
  split
  · exact ⟨rfl, rfl, rfl⟩
  · exact ⟨rfl, rfl, rfl⟩

/-- The three ways on from the gate, for a stretch that got there as `mid`. -/
theorem Service.loop_turn {cfg : Config} {lte : Lte} {s mid : Service α} {outcome : Outcome}
    (gates : s.gates outcome = true) (connected : mid.mqtt.connected = s.mqtt.connected)
    (state : mid.mqtt.state = s.mqtt.state) (delay : mid.delay = s.delayAtGate cfg) :
    Turn cfg lte s outcome (mid.loop lte) := by
  have gate : (!lte.responding || !lte.dataActive) = !lte.up := by
    simp [Lte.up]
  unfold Service.loop
  rw [gate]
  by_cases up : lte.up = true
  · rw [if_neg (by simp [up])]
    by_cases session : s.mqtt.connected = true
    · rw [if_neg (by simp [connected, session])]
      obtain ⟨same, sameDelay, serving⟩ := mid.serve_control
      refine .serves gates up session ?_ ?_ (sameDelay.trans delay) serving
      · rw [same, connected, session]
      · rw [same, state]
    · have none : s.mqtt.connected = false := Bool.eq_false_iff.mpr session
      rw [if_pos (by simp [connected, none])]
      exact .connects gates up none (connected.trans none) rfl delay rfl
  · have down : lte.up = false := Bool.eq_false_iff.mpr up
    rw [if_pos (by simp [down])]
    exact .waits gates down connected rfl delay rfl

theorem Verdict.count_control (branch : Verdict α) (m : MQTTManager α) :
    (branch.count m).connected = m.connected ∧ (branch.count m).state = m.state := by
  cases branch <;> exact ⟨rfl, rfl⟩

theorem enqueueImportant_control (cfg : Config) (m : MQTTManager α) (topic : String) (payload : α)
    {kind : Kind} (important : kind.important = true) :
    (m.enqueueImportant cfg topic payload kind).1.connected = m.connected ∧
      (m.enqueueImportant cfg topic payload kind).1.state = m.state := by
  obtain ⟨queue', -, result⟩ := enqueueImportant_spec cfg m topic payload important
  rw [result]
  exact Verdict.count_control _ m

theorem enqueueDict_control (cfg : Config) (m : MQTTManager α) (payload : α) (parsed : Dict) :
    (m.enqueueDict cfg payload parsed).1.connected = m.connected ∧
      (m.enqueueDict cfg payload parsed).1.state = m.state := by
  obtain ⟨queue', -, result⟩ := enqueueDict_spec cfg m payload parsed
  rw [result]
  exact Verdict.count_control _ m

theorem handleEvent_control (cfg : Config) (codec : Codec) (now : Readings) (wrap : String → α)
    (m : MQTTManager α) (event : Text) :
    (m.handleEvent cfg codec now wrap event).connected = m.connected ∧
      (m.handleEvent cfg codec now wrap event).state = m.state := by
  unfold MQTTManager.handleEvent
  split
  · exact ⟨rfl, rfl⟩
  · rename_i m' text hit
    obtain ⟨received, rejected, rfl⟩ := reply_eq hit
    exact enqueueImportant_control cfg _ _ _ rfl

/-- A stretch that ends in the handler does not get to the gate. -/
theorem Service.not_gates_of_fails {s : Service α} {outcome : Outcome}
    (fails : s.fails outcome = true) : s.gates outcome ≠ true := by
  cases outcome with
  | raised exc => simp [Service.gates]
  | returned event =>
      unfold Service.fails at fails
      dsimp only at fails
      split at fails
      · rename_i entry pending
        simp [Service.gates, pending, fails]
      · cases fails

/-- **Every stretch is a turn of the session.** -/
theorem Service.resume_turn {cfg : Config} {codec : Codec} {lte : Lte} {now : Readings}
    {wrap : String → α} {s s' : Service α} {outcome : Outcome}
    (step : s.resume cfg codec lte now wrap outcome = some s') : Turn cfg lte s outcome s' := by
  obtain ⟨m, delay, pending⟩ := s
  unfold Service.resume at step
  dsimp only at step
  split at step <;> cases step
  · exact Service.loop_turn rfl rfl rfl rfl
  · exact Service.loop_turn rfl rfl rfl rfl
  · exact .provisioned rfl rfl rfl rfl rfl rfl
  · obtain ⟨same, sameDelay, serving⟩ := Service.serve_control
      { (⟨m, delay, .connecting⟩ : Service α) with
        mqtt := { m with connected := true, state := .connected, lastError := none }
        delay := 5 }
    refine .connected rfl rfl ?_ ?_ sameDelay serving
    · unfold Service.connectDone
      rw [same]
    · unfold Service.connectDone
      rw [same]
  · rename_i entry event
    cases queue : m.queue with
    | nil =>
        simp only [Service.publishDone, queue]
        exact .failed (by simp [Service.fails, queue]) rfl rfl rfl rfl
    | cons head rest =>
        simp only [Service.publishDone, queue]
        exact Service.loop_turn (by simp [Service.gates, queue]) rfl rfl rfl
  · obtain ⟨connected, state⟩ := handleEvent_control cfg codec now wrap m _
    exact Service.loop_turn rfl connected state rfl
  · rename_i event nonempty
    refine .idles rfl ?_ rfl rfl rfl rfl rfl
    cases event with
    | none => rfl
    | some text =>
        cases text with
        | nil => rfl
        | cons c cs => exact absurd rfl (nonempty c cs)
  · exact Service.loop_turn rfl rfl rfl rfl
  · exact .cleaned rfl rfl rfl rfl rfl
  · exact Service.loop_turn rfl rfl rfl rfl
  · exact .failed rfl rfl rfl rfl rfl
  · exact .failed rfl rfl rfl rfl rfl
  · exact .failed rfl rfl rfl rfl rfl
  · exact .failed rfl rfl rfl rfl rfl

/-- Behind `_cleanup` comes the sleep of the handler. -/
theorem Turn.of_cleanup {cfg : Config} {lte : Lte} {s s' : Service α} {outcome : Outcome}
    (turn : Turn cfg lte s outcome s') (pending : s.pending = .cleanup) :
    s'.delay = s.delay ∧ s'.pending = .backoff := by
  have noGate : s.gates outcome ≠ true := by cases outcome <;> simp [Service.gates, pending]
  have calm : s.fails outcome ≠ true := by cases outcome <;> simp [Service.fails, pending]
  have only : ∀ {other : Await α}, s.pending = other → other ≠ .cleanup → False :=
    fun same apart => apart (same.symm.trans pending)
  cases turn with
  | waits gates | connects gates | serves gates => exact absurd gates noGate
  | provisioned other | connected other | idles other => exact (only other (by simp)).elim
  | failed fails => exact absurd fails calm
  | cleaned _ _ _ delay pending' => exact ⟨delay, pending'⟩

/-- A step is a turn, or a call that leaves the session alone. -/
theorem Service.step_turn {cfg : Config} {codec : Codec} {wrap : String → α} {s s' : Service α}
    {input : Input} (step : s.step cfg codec wrap input = some s') :
    (∃ lte now outcome, input = .resume lte now outcome ∧ Turn cfg lte s outcome s') ∨
      ((∀ lte now outcome, input ≠ .resume lte now outcome) ∧
        s'.mqtt.connected = s.mqtt.connected ∧ s'.mqtt.state = s.mqtt.state ∧
        s'.delay = s.delay ∧ s'.pending = s.pending) := by
  cases input with
  | enqueue payload parsed =>
      refine .inr ⟨by simp, ?_⟩
      cases parsed with
      | dict parsed =>
          obtain ⟨connected, state⟩ := enqueueDict_control cfg s.mqtt (wrap payload) parsed
          obtain rfl := Option.some.inj step
          exact ⟨connected, state, rfl, rfl⟩
      | _ =>
          obtain rfl := Option.some.inj step
          exact ⟨rfl, rfl, rfl, rfl⟩
  | enqueuePriority payload =>
      obtain ⟨connected, state⟩ :=
        enqueueImportant_control cfg s.mqtt cfg.responseTopic (wrap payload)
        (show Kind.important .response = true from rfl)
      obtain rfl := Option.some.inj step
      exact .inr ⟨by simp, connected, state, rfl, rfl⟩
  | resume lte now outcome => exact .inl ⟨lte, now, outcome, rfl, Service.resume_turn step⟩

/-! ### What the dashboard shows -/

/-- `state` and `connected` agree: a task that serves is connected and says so,
and a task that waits for LTE or reconnects is not connected. -/
def Truthful (s : Service α) : Prop :=
  (s.serving = true → s.mqtt.connected = true ∧ s.mqtt.state = .connected) ∧
    (s.mqtt.state = .waitingForLte ∨ s.mqtt.state = .reconnecting → s.mqtt.connected = false)

instance (s : Service α) : Decidable (Truthful s) := inferInstanceAs (Decidable (_ ∧ _))

/-- A connected session that gets to the LTE gate finds it open. -/
def GateHeld (s : Service α) : Input → Prop
  | .resume lte _ outcome => s.gates outcome = true → s.mqtt.connected = true → lte.up = true
  | .enqueue _ _ | .enqueuePriority _ => True

instance (s : Service α) (input : Input) : Decidable (GateHeld s input) := by
  cases input <;> unfold GateHeld <;> infer_instance

/-- What held gates keep: `connected` is what `state` says, and what serving needs. -/
structure SessionInv (s : Service α) : Prop where
  shown : s.mqtt.connected = true ↔ s.mqtt.state = .connected
  serving : s.serving = true ∨ s.pending = .idleSleep → s.mqtt.connected = true
  connecting : s.pending = .provisioning ∨ s.pending = .connecting → s.mqtt.connected = false

theorem SessionInv.truthful {s : Service α} (inv : SessionInv s) : Truthful s := by
  constructor
  · intro serving
    have connected := inv.serving (.inl serving)
    exact ⟨connected, inv.shown.mp connected⟩
  · intro other
    by_contra connected
    have state := inv.shown.mp (by simpa using connected)
    rw [state] at other
    simp at other

theorem SessionInv.init : SessionInv (Service.init : Service α) := by
  constructor <;> simp [Service.init, MQTTManager.init, Service.serving]

/-- A turn keeps the invariant when it finds the gate held. -/
theorem SessionInv.turn {cfg : Config} {lte : Lte} {s s' : Service α} {outcome : Outcome}
    (inv : SessionInv s)
    (held : s.gates outcome = true → s.mqtt.connected = true → lte.up = true)
    (turn : Turn cfg lte s outcome s') : SessionInv s' := by
  cases turn with
  | waits gates down connected state _ pending =>
      have off : s'.mqtt.connected = false := by
        rw [connected]
        by_contra session
        rw [held gates (by simpa using session)] at down
        cases down
      constructor <;> simp [off, state, pending, Service.serving]
  | connects _ _ _ off state _ pending =>
      constructor <;> simp [off, state, pending, Service.serving]
  | serves _ _ session connected state _ serving =>
      have shown := inv.shown.mp session
      refine ⟨by simp [connected, state, shown], fun _ => connected, fun pending => ?_⟩
      rcases pending with pending | pending <;> simp [Service.serving, pending] at serving
  | provisioned pending _ connected state _ pending' =>
      have off := connected.trans (inv.connecting (.inl pending))
      constructor <;> simp [off, state, pending', Service.serving]
  | connected _ _ connected state _ serving =>
      refine ⟨by simp [connected, state], fun _ => connected, fun pending => ?_⟩
      rcases pending with pending | pending <;> simp [Service.serving, pending] at serving
  | failed _ off state _ pending =>
      constructor <;> simp [off, state, pending, Service.serving]
  | idles pending _ _ connected state _ pending' =>
      have on := inv.serving (.inl (by simp [Service.serving, pending]))
      refine ⟨by rw [connected, state]; exact inv.shown, fun _ => connected.trans on, ?_⟩
      simp [pending']
  | cleaned _ connected state _ pending =>
      refine ⟨by rw [connected, state]; exact inv.shown, ?_, ?_⟩
      · simp [Service.serving, pending]
      · simp [pending]

theorem SessionInv.step {cfg : Config} {codec : Codec} {wrap : String → α} {s s' : Service α}
    {input : Input} (inv : SessionInv s) (held : GateHeld s input)
    (step : s.step cfg codec wrap input = some s') : SessionInv s' := by
  rcases Service.step_turn step with
    ⟨lte, now, outcome, rfl, turn⟩ | ⟨_, connected, state, _, pending⟩
  · exact inv.turn held turn
  · have serving : s'.serving = s.serving := by simp [Service.serving, pending]
    exact ⟨by rw [connected, state]; exact inv.shown,
      by rw [serving, pending, connected]; exact inv.serving,
      by rw [pending, connected]; exact inv.connecting⟩

/-- A session that finds the gate closed waits for LTE as it is. -/
theorem Turn.closed {cfg : Config} {lte : Lte} {s s' : Service α} {outcome : Outcome}
    (turn : Turn cfg lte s outcome s') (gates : s.gates outcome = true) (closed : lte.up ≠ true) :
    s'.mqtt.connected = s.mqtt.connected ∧ s'.mqtt.state = .waitingForLte := by
  have within : ∀ other : Await α, s.pending = other →
      other = .provisioning ∨ other = .connecting ∨ other = .cleanup → False := by
    rintro other pending (rfl | rfl | rfl) <;> cases outcome <;>
      simp [Service.gates, pending] at gates
  cases turn with
  | waits _ _ connected state => exact ⟨connected, state⟩
  | connects _ up => exact absurd up closed
  | serves _ up => exact absurd up closed
  | provisioned pending => exact (within _ pending (by simp)).elim
  | connected pending => exact (within _ pending (by simp)).elim
  | failed fails => exact (Service.not_gates_of_fails fails gates).elim
  | idles _ inside =>
      rw [inside] at gates
      cases gates
  | cleaned pending => exact (within _ pending (by simp)).elim

/-- A connected session that finds the gate closed waits for LTE while connected. -/
theorem not_truthful_of_not_held {cfg : Config} {codec : Codec} {wrap : String → α}
    {s s' : Service α} {input : Input} (unheld : ¬ GateHeld s input)
    (step : s.step cfg codec wrap input = some s') : ¬ Truthful s' := by
  cases input with
  | enqueue payload parsed => exact absurd trivial unheld
  | enqueuePriority payload => exact absurd trivial unheld
  | resume lte now outcome =>
      simp only [GateHeld, not_forall] at unheld
      obtain ⟨gates, session, closed⟩ := unheld
      obtain ⟨connected, state⟩ := (Service.resume_turn step).closed gates closed
      intro truthful
      have off := truthful.2 (.inl state)
      rw [connected, session] at off
      cases off

variable {cfg : Config} {codec : Codec} {is : List Input} {last : Service String}

/-- **The session status is truthful all along a run exactly when the LTE gate
stays open for a connected session.** -/
theorem session_truthful_iff (run : Run (service cfg codec) is last) :
    Always (service cfg codec) Truthful is ↔ EachStep (service cfg codec) GateHeld is :=
  always_iff_eachStep SessionInv.init (fun _ _ _ inv held step => inv.step held step)
    (fun _ inv => inv.truthful)
      (fun _ _ _ _ unheld step => not_truthful_of_not_held unheld step) run

/-- The pending await returns, with the modem down. -/
def outage : Input :=
  .resume ⟨false, false⟩ ⟨"2024-01-01T00:00:00Z", 60, 100000, "HOME", some (-71), none⟩
    (.returned none)

/-- The modem is down at first. A publish fails while another reading is queued, the modem
goes down behind that, and then both readings are sent. -/
def downTwice : List Input :=
  [reading "21.5", outage, done, done, done, slowReading "7.1", fails, done, outage, done, done,
    done, done, done]

theorem session_truthful_iff_down : Always (service .shipped idleCodec) Truthful downTwice :=
  (session_truthful_iff (run_iff_exec.mpr (Option.some_get (by decide)).symm)).mpr
    (eachStep_of_checks (by decide))

/-- The modem goes down during a publish and comes back: a connected session waits
for LTE, and then publishes while it still says that it waits. -/
theorem session_untruthful :
    (∃ s, Run (service .shipped idleCodec) (flight ++ [outage]) s ∧ s.mqtt.connected = true ∧
        s.mqtt.state = .waitingForLte ∧ ¬ Truthful s) ∧
      ∃ s, Run (service .shipped idleCodec) (flight ++ [outage, reading "22.0", done]) s ∧
        s.serving = true ∧ s.mqtt.state = .waitingForLte ∧ ¬ Truthful s :=
  ⟨⟨_, run_iff_exec.mpr rfl, by decide, by decide, by decide⟩,
    ⟨_, run_iff_exec.mpr rfl, by decide, by decide, by decide⟩⟩

end EdgeGateway.Mqtt
