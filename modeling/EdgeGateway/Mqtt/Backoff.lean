import Mathlib.Algebra.Group.Nat.Defs
import EdgeGateway.Mqtt.Session

/-!
How long the publisher sleeps after a failure.

The local `delay` of `start` doubles after every sleep of the handler, up to a
cap, and falls back to 5 s with every successful `_connect`. So it counts the
failures since the last session began (`PaceInv`), and not the deliveries that
failed in a row: the two agree where no session begins between failed deliveries
(`deliveries_paced_iff`), and a message whose publish keeps failing behind
successful connects is retried every 5 s (`publish_never_backs_off`).
-/

namespace EdgeGateway.Mqtt

open EdgeGateway.Lib

/-! ### Capped doubling -/

/-- `base`, doubled `n` times, up to `cap`. -/
def backoffAfter (base cap n : Nat) : Nat := min (base * 2 ^ n) cap

theorem backoffAfter_succ (base cap n : Nat) :
    min (backoffAfter base cap n * 2) cap = backoffAfter base cap (n + 1) := by
  unfold backoffAfter
  rw [Nat.pow_succ, ← Nat.mul_assoc]
  omega

/-- Different numbers of doublings differ below the cap. -/
theorem backoffAfter_eq_iff {base cap m n : Nat} (positive : 0 < base) :
    backoffAfter base cap m = backoffAfter base cap n ↔
      m = n ∨ cap ≤ base * 2 ^ m ∧ cap ≤ base * 2 ^ n := by
  unfold backoffAfter
  constructor
  · intro same
    by_cases short : base * 2 ^ m < cap
    · left
      have equal : base * 2 ^ m = base * 2 ^ n := by omega
      exact Nat.pow_right_injective (le_refl 2) (Nat.eq_of_mul_eq_mul_left positive equal)
    · right
      omega
  · rintro (rfl | ⟨left, right⟩)
    · rfl
    · omega

/-! ### The failures of a run -/

/-- What a run has to show for its failures. -/
structure Failures where
  /-- the failures handled since the last successful connect -/
  handled : Nat
  /-- the connects and publishes that raised since the last publish that returned -/
  undelivered : Nat
  /-- the last failure handled was one of those -/
  delivery : Bool
deriving DecidableEq, Repr

/-- An attempt to deliver is pending. -/
def Service.delivering {α : Type} (s : Service α) : Bool :=
  match s.pending with
  | .provisioning | .connecting | .publish _ => true
  | _ => false

def Failures.book (s : Service String) (input : Input) (_ : Service String) (f : Failures) :
    Failures :=
  match input with
  | .enqueue _ _ | .enqueuePriority _ => f
  | .resume _ _ outcome =>
      if s.fails outcome then
        { handled := f.handled + 1
          undelivered := if s.delivering then f.undelivered + 1 else f.undelivered
          delivery := s.delivering }
      else
        match s.pending with
        | .connecting => { f with handled := 0 }
        | .publish _ => { f with undelivered := 0 }
        | _ => f

/-- The publisher with the failures of the run so far. -/
def failing (cfg : Config) (codec : Codec) : System (Service String × Failures) Input :=
  (service cfg codec).withBooks ⟨0, 0, false⟩ Failures.book

/-- The sleep after the last of `k` failed deliveries in a row takes
`min(5 * 2^(k-1), MQTT_RECONNECT_MAX_SECONDS)` seconds. -/
def Paced (cfg : Config) (s : Service String × Failures) : Prop :=
  s.1.pending = .backoff → s.2.delivery = true →
    s.1.delay = min (5 * 2 ^ (s.2.undelivered - 1)) cfg.reconnectMaxSeconds

instance (cfg : Config) (s : Service String × Failures) : Decidable (Paced cfg s) :=
  inferInstanceAs (Decidable (_ → _ → _))

/-- When the sleep after a failed delivery begins, as many failures were handled
since the last successful connect as deliveries failed since the last successful
publish, or either number is beyond the cap. -/
def InStep (cfg : Config) (s : Service String × Failures) : Input → Prop
  | .resume _ _ _ =>
      s.1.pending = .cleanup → s.2.delivery = true →
        s.2.handled = s.2.undelivered ∨
          cfg.reconnectMaxSeconds ≤ 5 * 2 ^ (s.2.handled - 1) ∧
            cfg.reconnectMaxSeconds ≤ 5 * 2 ^ (s.2.undelivered - 1)
  | .enqueue _ _ | .enqueuePriority _ => True

/-! ### `delay` counts the failures of a session -/

/-- The handler is at work: it has failures to its name, and `delay` is the sleep
after the last of them. Elsewhere `delay` is the sleep after the next. -/
structure PaceInv (cfg : Config) (s : Service String × Failures) : Prop where
  started : s.1.pending = .notStarted → s.2.handled = 0
  handling : s.1.pending = .cleanup ∨ s.1.pending = .backoff →
    1 ≤ s.2.handled ∧ (s.2.delivery = true → 1 ≤ s.2.undelivered) ∧
      s.1.delay = backoffAfter 5 cfg.reconnectMaxSeconds (s.2.handled - 1)
  running : s.1.pending ≠ .notStarted → s.1.pending ≠ .cleanup → s.1.pending ≠ .backoff →
    s.1.delay = backoffAfter 5 cfg.reconnectMaxSeconds s.2.handled
  paced : Paced cfg s

section Pace

variable {cfg : Config} {codec : Codec} {s s' : Service String × Failures}

theorem PaceInv.init : PaceInv cfg (failing cfg codec).init := by
  have start : (failing cfg codec).init = (Service.init, ⟨0, 0, false⟩) := rfl
  rw [start]
  constructor <;> simp [Service.init, Paced]

/-- The delay when a stretch gets to the gate is the sleep after the next failure. -/
theorem PaceInv.delayAtGate (inv : PaceInv cfg s) (least : 5 ≤ cfg.reconnectMaxSeconds)
    (notCleanup : s.1.pending ≠ .cleanup) :
    s.1.delayAtGate cfg = backoffAfter 5 cfg.reconnectMaxSeconds s.2.handled := by
  by_cases fresh : s.1.pending = .notStarted
  · rw [inv.started fresh]
    simp [Service.delayAtGate, fresh, backoffAfter, least]
  by_cases slept : s.1.pending = .backoff
  · obtain ⟨some, -, delay⟩ := inv.handling (.inr slept)
    have next := backoffAfter_succ 5 cfg.reconnectMaxSeconds (s.2.handled - 1)
    rw [Nat.sub_add_cancel some, ← delay] at next
    simp [Service.delayAtGate, slept, next]
  · rw [← inv.running fresh notCleanup slept]
    unfold Service.delayAtGate
    split
    · exact absurd (by assumption) fresh
    · exact absurd (by assumption) slept
    · rfl

/-- Away from the handler the invariant is about the number of handled failures alone. -/
theorem PaceInv.of_running
    (apart : s'.1.pending ≠ .notStarted ∧ s'.1.pending ≠ .cleanup ∧ s'.1.pending ≠ .backoff)
    (delay : s'.1.delay = backoffAfter 5 cfg.reconnectMaxSeconds s'.2.handled) :
      PaceInv cfg s' where
  started := fun pending => absurd pending apart.1
  handling := fun pending => pending.elim (absurd · apart.2.1) (absurd · apart.2.2)
  running := fun _ _ _ => delay
  paced := fun pending => absurd pending apart.2.2

theorem Service.apart_of_serving {α : Type} {s : Service α} (serving : s.serving = true) :
    s.pending ≠ .notStarted ∧ s.pending ≠ .cleanup ∧ s.pending ≠ .backoff := by
  refine ⟨?_, ?_, ?_⟩ <;> intro pending <;> simp [Service.serving, pending] at serving

/-- A stretch that gets to the gate handled no failure and began no session. -/
theorem Failures.book_gates {s s' : Service String} {lte : Lte} {now : Readings} {outcome : Outcome}
    (gates : s.gates outcome = true) (f : Failures) :
    (f.book s (.resume lte now outcome) s').handled = f.handled := by
  have calm : s.fails outcome = false := by
    by_contra fails
    exact Service.not_gates_of_fails (by simpa using fails) gates
  simp only [Failures.book, calm, Bool.false_eq_true, if_false]
  split
  · rename_i pending
    cases outcome <;> simp [Service.gates, pending] at gates
  · rfl
  · rfl

/-- A turn keeps the count, unless the sleep it begins is out of step. -/
theorem PaceInv.turn {lte : Lte} {now : Readings} {outcome : Outcome} (inv : PaceInv cfg s)
    (least : 5 ≤ cfg.reconnectMaxSeconds) (inStep : InStep cfg s (.resume lte now outcome))
    (turn : Turn cfg lte s.1 outcome s'.1)
    (booked : s'.2 = s.2.book s.1 (.resume lte now outcome) s'.1) : PaceInv cfg s' := by
  have notCleanup : s.1.gates outcome = true → s.1.pending ≠ .cleanup := by
    intro gates pending
    cases outcome <;> simp [Service.gates, pending] at gates
  have calm : ∀ other, s.1.pending = other → s.1.fails outcome = false →
      (∀ entry, other ≠ .publish entry) → other ≠ .connecting → s'.2 = s.2 := by
    intro other pending fails notPublish notConnecting
    rw [booked]
    simp only [Failures.book, fails, Bool.false_eq_true, if_false, pending]
  have atGate : s.1.gates outcome = true → s'.1.delay = s.1.delayAtGate cfg →
      s'.1.delay = backoffAfter 5 cfg.reconnectMaxSeconds s'.2.handled := by
    intro gates delay
    rw [booked, Failures.book_gates gates, delay, inv.delayAtGate least (notCleanup gates)]
  cases turn with
  | waits gates _ _ _ delay pending => exact .of_running (by simp [pending]) (atGate gates delay)
  | connects gates _ _ _ _ delay pending =>
      exact .of_running (by simp [pending]) (atGate gates delay)
  | serves gates _ _ _ _ delay serving =>
      exact .of_running (Service.apart_of_serving serving) (atGate gates delay)
  | provisioned pending fails _ _ delay pending' =>
      refine .of_running (by simp [pending']) ?_
      rw [calm _ pending fails (by simp) (by simp), delay]
      exact inv.running (by simp [pending]) (by simp [pending]) (by simp [pending])
  | connected pending fails _ _ delay serving =>
      refine .of_running (Service.apart_of_serving serving) ?_
      have reset : s'.2.handled = 0 := by
        rw [booked]
        simp only [Failures.book, fails, Bool.false_eq_true, if_false, pending]
      simp [reset, delay, backoffAfter, least]
  | failed fails _ _ delay pending' =>
      have failure : s'.2 = ⟨s.2.handled + 1,
          if s.1.delivering then s.2.undelivered + 1 else s.2.undelivered, s.1.delivering⟩ := by
        rw [booked]
        simp only [Failures.book, fails, if_true]
      have before : s.1.delay = backoffAfter 5 cfg.reconnectMaxSeconds s.2.handled := by
        refine inv.running ?_ ?_ ?_ <;> intro pending <;>
          cases outcome <;> simp [Service.fails, pending] at fails
      refine ⟨by simp [pending'], fun _ => ⟨by simp [failure], ?_, ?_⟩, by simp [pending'],
        fun sleeping => by simp [pending'] at sleeping⟩
      · intro delivery
        rw [failure] at delivery ⊢
        have attempt : s.1.delivering = true := delivery
        simp [attempt]
      · rw [delay, before, failure, Nat.add_sub_cancel]
  | idles pending _ fails _ _ delay pending' =>
      refine .of_running (by simp [pending']) ?_
      rw [calm _ pending fails (by simp) (by simp), delay]
      exact inv.running (by simp [pending]) (by simp [pending]) (by simp [pending])
  | cleaned pending _ _ delay pending' =>
      have fails : s.1.fails outcome = false := by
        cases outcome <;> simp [Service.fails, pending]
      have same := calm _ pending fails (by simp) (by simp)
      obtain ⟨some, someDelivery, asHandled⟩ := inv.handling (.inl pending)
      refine ⟨by simp [pending'], fun _ => ?_, by simp [pending'], fun _ delivery => ?_⟩
      · rw [same, delay]
        exact ⟨some, someDelivery, asHandled⟩
      · rw [same] at delivery ⊢
        rw [delay, asHandled]
        refine (backoffAfter_eq_iff (by decide)).mpr
          ((inStep pending delivery).imp_left fun equal => ?_)
        rw [equal]

theorem PaceInv.step {input : Input} (inv : PaceInv cfg s) (least : 5 ≤ cfg.reconnectMaxSeconds)
    (inStep : InStep cfg s input) (step : (failing cfg codec).step s input = some s') :
    PaceInv cfg s' := by
  obtain ⟨stepped, booked⟩ := withBooks_step step
  rcases Service.step_turn stepped with
    ⟨lte, now, outcome, rfl, turn⟩ | ⟨call, _, _, delay, pending⟩
  · exact inv.turn least inStep turn booked
  · have same : s'.2 = s.2 := by
      rw [booked]
      cases input with
      | enqueue payload parsed => rfl
      | enqueuePriority payload => rfl
      | resume lte now outcome => exact absurd rfl (call _ _ _)
    constructor
    · rw [pending, same]
      exact inv.started
    · rw [pending, same, delay]
      exact inv.handling
    · rw [pending, same, delay]
      exact inv.running
    · unfold Paced
      rw [pending, same, delay]
      exact inv.paced

/-- A sleep that begins out of step has the wrong length. -/
theorem not_paced_of_not_inStep {input : Input} (inv : PaceInv cfg s)
    (out : ¬ InStep cfg s input) (step : (failing cfg codec).step s input = some s') :
    ¬ Paced cfg s' := by
  obtain ⟨stepped, booked⟩ := withBooks_step step
  cases input with
  | enqueue payload parsed => exact absurd trivial out
  | enqueuePriority payload => exact absurd trivial out
  | resume lte now outcome =>
      simp only [InStep, not_forall] at out
      obtain ⟨pending, delivery, apart⟩ := out
      obtain ⟨some, someDelivery, asHandled⟩ := inv.handling (.inl pending)
      have fails : s.1.fails outcome = false := by
        cases outcome <;> simp [Service.fails, pending]
      have same : s'.2 = s.2 := by
        rw [booked]
        simp only [Failures.book, fails, Bool.false_eq_true, if_false, pending]
      obtain ⟨delay, pending'⟩ := (Service.resume_turn stepped).of_cleanup pending
      intro paced
      have length := paced pending' (by rw [same, delivery])
      rw [delay, same, asHandled] at length
      refine apart (((backoffAfter_eq_iff (by decide)).mp length).imp_left fun equal => ?_)
      have := someDelivery delivery
      omega

/-- **The sleeps follow the deliveries that failed in a row, all along a run,
exactly when no session begins between failed deliveries below the cap.** -/
theorem deliveries_paced_iff {is : List Input} {last : Service String}
    (least : 5 ≤ cfg.reconnectMaxSeconds) (run : Run (service cfg codec) is last) :
    Always (failing cfg codec) (Paced cfg) is ↔ EachStep (failing cfg codec) (InStep cfg) is := by
  obtain ⟨failures, booked⟩ := run_withBooks_iff.mp run
  exact always_iff_eachStep .init (fun _ _ _ inv inStep step => inv.step least inStep step)
    (fun _ inv => inv.paced) (fun _ _ _ inv out step => not_paced_of_not_inStep inv out step) booked

end Pace

/-! ### Runs -/

/-- The pending await raises, with the modem up. -/
def broken : Input :=
  .resume ⟨true, true⟩ ⟨"2024-01-01T00:00:00Z", 60, 100000, "HOME", some (-71), none⟩
    (.raised (.osError "modem returned ERROR"))

/-- Two connects fail in a row. -/
def connectsFail : List Input := [done, broken, done, done, broken, done]

theorem deliveries_paced_iff_connects :
    Always (failing .shipped idleCodec) (Paced .shipped) connectsFail ↔
      EachStep (failing .shipped idleCodec) (InStep .shipped) connectsFail :=
  deliveries_paced_iff (by decide) (run_iff_exec.mpr (Option.some_get (by decide)).symm)

/-- A connect succeeds and the publish behind it fails. -/
def publishFails : List Input := [done, done, broken, done]

/-- The publish of the head fails behind every connect: the second failure in a
row sleeps 5 s again, and so does the third. -/
theorem publish_never_backs_off :
    (∃ s f, Run (failing .shipped idleCodec)
        (reading "21.5" :: done :: publishFails ++ done :: publishFails) (s, f) ∧
        s.pending = .backoff ∧ f.undelivered = 2 ∧ s.delay = 5 ∧ ¬ Paced .shipped (s, f)) ∧
      ∃ s f, Run (failing .shipped idleCodec)
        (reading "21.5" :: done :: publishFails ++ done :: publishFails ++ done :: publishFails)
        (s, f) ∧
        s.pending = .backoff ∧ f.undelivered = 3 ∧ s.delay = 5 ∧ ¬ Paced .shipped (s, f) :=
  ⟨⟨_, _, run_iff_exec.mpr rfl, by decide, by decide, by decide, by decide⟩,
    ⟨_, _, run_iff_exec.mpr rfl, by decide, by decide, by decide, by decide⟩⟩

end EdgeGateway.Mqtt
