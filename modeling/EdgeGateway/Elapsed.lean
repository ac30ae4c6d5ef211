import EdgeGateway.Lib.Timed
import EdgeGateway.Modem.Moves
import EdgeGateway.Tcp.Ingest

/-!
Two guards that ask for a time elapsed: `current_rate` and `due`.

Each compares the counter with a reference that is taken again only by traffic or
by a test of the internet, and the reference may become older than the tick
arithmetic can tell. Both guards then hold only while the elapsed time, taken
modulo the period of the counter, is in the first half of it
(`elapsed_guards_iff`).
-/

namespace EdgeGateway

open EdgeGateway.Lib

/-- Once `bound` milliseconds are over, the tick arithmetic still says so. -/
def TicksTell (bound elapsed : Nat) : Prop :=
  bound ≤ elapsed % tickPeriod ∧ elapsed % tickPeriod < tickPeriod / 2

instance (bound elapsed : Nat) : Decidable (TicksTell bound elapsed) :=
  inferInstanceAs (Decidable (_ ∧ _))

/-- What a reference taken at `time` says at `now`. -/
theorem le_ticksDiff_since {time now : Nat} (past : time ≤ now) (bound : Nat) :
    (bound : Int) ≤ ticksDiff (ticksMs now) (ticksMs time) ↔ TicksTell bound (now - time) := by
  obtain ⟨elapsed, rfl⟩ := Nat.exists_eq_add_of_le past
  rw [Nat.add_sub_cancel_left]
  exact le_ticksDiff_iff time elapsed bound

/-! ### `current_rate` -/

section Rate

open EdgeGateway.Tcp

-- `0.0` and `round(count * 1000.0 / elapsed, 2)` are parameters.
variable {ρ : Type} (zero : ρ) (perSecond : Nat → Int → ρ)

/-- `packets_per_second`. -/
def Tcp.TCPServer.rate (s : TCPServer) : ρ :=
  match s.packetsPerSecond with
  | none => zero
  | some (count, elapsed) => perSecond count elapsed

/-- `current_rate`. -/
def Tcp.TCPServer.currentRate (ticks : Nat) (s : TCPServer) : ρ :=
  if 2000 ≤ ticksDiff ticks s.rateStarted then zero else s.rate zero perSecond

/-- The step reads the clock. -/
def Tcp.Step.stamp (now : Nat) : Step → Step
  | .drained conn clock raised => .drained conn { clock with ticks := ticksMs now } raised
  | .accept ip => .accept ip
  | .message conn data write => .message conn data write
  | .raise conn exc => .raise conn exc

/-- `_update_rate` starts the next window. -/
def startsWindow (w : Ingest) (step : Step) (_ : Ingest) : Bool :=
  match step with
  | .drained _ now _ => 1000 ≤ ticksDiff now.ticks w.server.rateStarted
  | .accept _ | .message _ _ _ | .raise _ _ => false

/-- The server beside a clock, with the time at which the current window started. -/
def timedIngest (cfg : Tcp.Config) (codec : Mqtt.Codec) (capacity boot : Nat) :
    System ((Ingest × Nat) × Option Nat) (Timed Step) :=
  (ingest cfg codec capacity (ticksMs boot)).timing boot Step.stamp (some boot) startsWindow

theorem Tcp.Ingest.message_rateStarted (cfg : Tcp.Config) (codec : Mqtt.Codec) (conn : Nat)
    (ip : String) (data : Bytes) (write : Option PyError) (w : Ingest) :
    (w.message cfg codec conn ip data write).server.rateStarted = w.server.rateStarted := by
  rw [← (w.fetch_spec cfg data).2.2]
  unfold Ingest.message Ingest.answer
  split
  · rfl
  · split
    · rfl
    · rename_i received refused _
      cases refused <;> cases write <;> rfl

theorem Tcp.TCPServer.count_rateStarted (ip : String) (received : Received) (now : Clock)
    (s : TCPServer) :
    (s.count ip received now).rateStarted =
      if 1000 ≤ ticksDiff now.ticks s.rateStarted then now.ticks else s.rateStarted := by
  unfold TCPServer.count TCPServer.updateRate
  dsimp only
  split <;> rfl

/-- **The window starts when `_update_rate` says so, and stays otherwise.** -/
theorem Tcp.Ingest.step_rateStarted {cfg : Tcp.Config} {codec : Mqtt.Codec} {w w' : Ingest}
    {now : Nat} {step : Step} (stepped : w.step cfg codec (step.stamp now) = some w') :
    w'.server.rateStarted =
      if startsWindow w (step.stamp now) w' then ticksMs now else w.server.rateStarted := by
  cases step with
  | accept ip =>
      cases stepped
      rfl
  | message conn data write =>
      simp only [Step.stamp, Ingest.step] at stepped
      split at stepped
      · cases stepped
        exact Ingest.message_rateStarted ..
      · cases stepped
  | raise conn exc =>
      simp only [Step.stamp, Ingest.step] at stepped
      split at stepped
      · cases stepped
        rfl
      · cases stepped
        rfl
      · cases stepped
  | drained conn clock raised =>
      simp only [Step.stamp, Ingest.step] at stepped
      split at stepped
      · rename_i ip received _
        cases stepped
        set shown : Clock := { clock with ticks := ticksMs now } with shownEq
        set counted := { w with server := w.server.count ip received shown } with countedEq
        have registered := (counted.register_spec ip received shown).1
        have queued := ((counted.register ip received shown).queue_spec cfg received raised).1
        have server : (w.book cfg conn ip received shown raised).server =
            w.server.count ip received shown := queued.trans registered
        rw [server, TCPServer.count_rateStarted]
        simp [Step.stamp, startsWindow, shownEq]
      · cases stepped

/-- Two seconds into a window the rate is shown as `0.0`. -/
def RateCleared (s : (Ingest × Nat) × Option Nat) : Prop :=
  ∀ start ∈ s.2, 2000 ≤ s.1.2 - start →
    s.1.1.server.currentRate zero perSecond (ticksMs s.1.2) = zero

/-- By then the tick arithmetic tells, or there is no other rate to show. -/
def RateTold (s : (Ingest × Nat) × Option Nat) : Prop :=
  ∀ start ∈ s.2, 2000 ≤ s.1.2 - start →
    TicksTell 2000 (s.1.2 - start) ∨ s.1.1.server.rate zero perSecond = zero

theorem rateStarted_of_run {cfg : Tcp.Config} {codec : Mqtt.Codec} {capacity boot : Nat}
    {is : List (Timed Step)} {s : (Ingest × Nat) × Option Nat}
    (run : Run (timedIngest cfg codec capacity boot) is s) :
    some s.1.1.server.rateStarted = s.2.map ticksMs := by
  refine reference_of_run (fun w => some w.server.rateStarted) ticksMs rfl ?_ run
  intro w now step w' _ stepped
  rw [Ingest.step_rateStarted stepped]
  split <;> rfl

/-- The rate is cleared in time exactly if the tick arithmetic tells. -/
theorem rateCleared_iff {cfg : Tcp.Config} {codec : Mqtt.Codec} {capacity boot : Nat}
    {is : List (Timed Step)} {s : (Ingest × Nat) × Option Nat}
    (run : Run (timedIngest cfg codec capacity boot) is s) :
    RateCleared zero perSecond s ↔ RateTold zero perSecond s := by
  have reading := rateStarted_of_run run
  have past := lastTime_le (fun time first => (Option.some.inj first).symm.le) run
  refine forall_congr' fun start => forall_congr' fun last => imp_congr_right fun _ => ?_
  have started : s.1.1.server.rateStarted = ticksMs start := by
    rw [last] at reading
    exact Option.some.inj reading
  unfold TCPServer.currentRate
  rw [started]
  split
  · rename_i told
    have told := (le_ticksDiff_since (past start last) 2000).mp told
    exact ⟨fun _ => .inl told, fun _ => rfl⟩
  · rename_i untold
    have untold := mt (le_ticksDiff_since (past start last) 2000).mpr untold
    exact ⟨.inr, fun either => either.resolve_left untold⟩

end Rate

/-! ### `due` -/

section Due

open EdgeGateway.Modem

/-- The stretch reads the clock. -/
def Modem.Turn.stamp (now : Nat) : Turn → Turn
  | .monitor clock ending => .monitor { clock with ticks := ticksMs now } ending
  | .test clock ending => .test { clock with ticks := ticksMs now } ending
  | .startInternetTest => .startInternetTest

/-- A test begins, of the monitor or in the background. -/
def beginsTest (s : ModemTasks) (i : Turn) (s' : ModemTasks) : Bool :=
  match i with
  | .monitor _ _ => s'.monitor.pending = .pinging
  | .test _ (.returned _) => s.test = .scheduled
  | .test _ (.raised _) | .startInternetTest => false

/-- The tasks of the modem beside a clock, with the time of the last test. -/
def timedModem (cfg : Modem.Config) (boot : Nat) :
    System ((ModemTasks × Nat) × Option Nat) (Timed Turn) :=
  (modemTasks cfg).timing boot Turn.stamp none beginsTest

/-- The reference behind a stretch of the monitor that began with `last`. -/
def TakesTicks (now : Modem.Clock) (last : Option Nat) (s' : Monitor) : Prop :=
  s'.modem.lastTestTicks = if s'.pending = .pinging then some now.ticks else last

theorem TakesTicks.keeps {now : Modem.Clock} {last : Option Nat} {s' : Monitor}
    (same : s'.modem.lastTestTicks = last) (quiet : s'.pending ≠ .pinging) :
    TakesTicks now last s' := by
  unfold TakesTicks
  rw [if_neg quiet]
  exact same

theorem takesTicks_probe (now : Modem.Clock) (probe : Probe) (deadline : Nat) (m : ModemManager) :
    TakesTicks now m.lastTestTicks (.probe now probe deadline m) := by
  unfold Monitor.probe
  split
  · exact .keeps rfl (by simp)
  · cases probe <;> exact .keeps rfl (by simp [Monitor.unanswered])

/-- A check that completes begins a test, or leaves the reference alone. -/
theorem takesTicks_endCheck (cfg : Modem.Config) (now : Modem.Clock) (startup : Bool)
    {m : ModemManager} (responding : m.responding = true) :
    TakesTicks now m.lastTestTicks (.endCheck cfg now startup m) := by
  obtain ⟨-, -, same⟩ | same := Monitor.endCheck_cases cfg now startup responding
  · rw [same]
    rfl
  · rw [same]
    exact .keeps rfl (by simp)

theorem takesTicks_answered {cfg : Modem.Config} {now : Modem.Clock} {startup : Bool}
    {m : ModemManager} (responding : m.responding = true) (text : Text) (query : Query) :
    TakesTicks now m.lastTestTicks (.answered cfg now startup m text query) := by
  cases query with
  | identity | sim | signal | registration | defineContext | attached | attach | activate =>
      exact .keeps rfl (by simp [Monitor.answered, Monitor.ask])
  | operator =>
      simp only [Monitor.answered]
      split
      · exact .keeps rfl (by simp [Monitor.ask])
      · exact takesTicks_endCheck cfg now startup responding
  | address =>
      simp only [Monitor.answered]
      split
      · exact takesTicks_endCheck cfg now startup responding
      · exact .keeps rfl (by simp [Monitor.ask])
  | addressAgain activationOk => exact takesTicks_endCheck cfg now startup responding

theorem takesTicks_resume {cfg : Modem.Config} {now : Modem.Clock} {s s' : Monitor}
    {ending : Ending} (inv : RespondingInv s) (step : s.resume cfg now ending = some s') :
    TakesTicks now s.modem.lastTestTicks s' := by
  obtain ⟨m, pending⟩ := s
  unfold Monitor.resume at step
  dsimp only at step
  split at step <;> cases step
  · exact takesTicks_probe ..
  · exact .keeps rfl (by simp [Monitor.fail])
  · rename_i probe deadline text
    split
    · cases probe with
      | first => exact takesTicks_probe ..
      | second => exact .keeps rfl (by simp [Monitor.probed, Monitor.beginCheck, Monitor.ask])
      | monitor => exact .keeps rfl (by simp [Monitor.probed, Monitor.beginCheck, Monitor.ask])
    · exact .keeps rfl (by simp)
  · exact .keeps rfl (by simp)
  · exact takesTicks_probe ..
  · exact takesTicks_probe ..
  · exact .keeps rfl (by simp)
  · exact takesTicks_answered (inv.checks rfl) ..
  · rename_i startup query exc
    cases startup <;> exact .keeps rfl (by simp [Monitor.fail])
  · rename_i text
    refine .keeps ?_ (by simp)
    unfold ModemManager.tested
    split <;> rfl
  · exact .keeps rfl (by simp)
  · unfold Monitor.poll
    split
    · exact .keeps rfl (by simp [Monitor.beginCheck, Monitor.ask])
    · exact takesTicks_probe ..

/-- **The reference is taken when a test begins, and stays otherwise.** -/
theorem lastTestTicks_step {cfg : Modem.Config} {now : Nat} {s s' : ModemTasks} {i : Turn}
    (inv : RespondingInv s.monitor) (step : s.step cfg (i.stamp now) = some s') :
    s'.monitor.modem.lastTestTicks =
      if beginsTest s (i.stamp now) s' then some (ticksMs now)
      else s.monitor.modem.lastTestTicks := by
  cases i with
  | monitor clock ending =>
      obtain ⟨monitor, resumed, rfl⟩ := Option.map_eq_some_iff.mp step
      have takes := takesTicks_resume inv resumed
      unfold TakesTicks at takes
      simpa [beginsTest, Turn.stamp] using takes
  | startInternetTest =>
      cases step
      unfold ModemTasks.startInternetTest
      split <;> rfl
  | test clock ending =>
      have beside := ModemTasks.resumeTest_beside step
      unfold Turn.stamp
      cases beside with
      | begins scheduled _ _ taken => simp [beginsTest, scheduled, taken]
      | ends pinging _ _ _ same => cases ending <;> simp [beginsTest, pinging, same]

/-- Once the interval is over since the last test, the next one is due. -/
def TestDue (cfg : Modem.Config) (s : (ModemTasks × Nat) × Option Nat) : Prop :=
  ∀ last ∈ s.2, cfg.internetTestIntervalSeconds * 1000 ≤ s.1.2 - last →
    ∀ text, s.1.1.monitor.modem.testDue cfg ⟨ticksMs s.1.2, text⟩ = true

/-- By then the tick arithmetic tells. -/
def TestTold (cfg : Modem.Config) (s : (ModemTasks × Nat) × Option Nat) : Prop :=
  ∀ last ∈ s.2, cfg.internetTestIntervalSeconds * 1000 ≤ s.1.2 - last →
    TicksTell (cfg.internetTestIntervalSeconds * 1000) (s.1.2 - last)

theorem lastTestTicks_of_run {cfg : Modem.Config} {boot : Nat} {is : List (Timed Turn)}
    {s : (ModemTasks × Nat) × Option Nat} (run : Run (timedModem cfg boot) is s) :
    s.1.1.monitor.modem.lastTestTicks = s.2.map ticksMs := by
  refine reference_of_run (fun s => s.monitor.modem.lastTestTicks) ticksMs rfl ?_ run
  rintro s now i s' ⟨js, reach⟩ step
  refine lastTestTicks_step ?_ step
  exact reach.invariant (I := fun s => RespondingInv s.monitor) .init
    fun _ _ _ inv step => ModemTasks.respondingInv inv step

/-- The next test is due in time exactly if the tick arithmetic tells. -/
theorem testDue_iff {cfg : Modem.Config} {boot : Nat} {is : List (Timed Turn)}
    {s : (ModemTasks × Nat) × Option Nat} (run : Run (timedModem cfg boot) is s) :
    TestDue cfg s ↔ TestTold cfg s := by
  have reading := lastTestTicks_of_run run
  have past := lastTime_le (by simp) run
  refine forall_congr' fun last => forall_congr' fun before => imp_congr_right fun _ => ?_
  rw [before] at reading
  rw [← le_ticksDiff_since (past last before)]
  unfold ModemManager.testDue
  rw [reading]
  simp

end Due

/-- **Both guards are right after any time, exactly if the tick arithmetic still
tells that the time is over.** -/
theorem elapsed_guards_iff {ρ : Type} (zero : ρ) (perSecond : Nat → Int → ρ) (tcp : Tcp.Config)
    (codec : Mqtt.Codec) (capacity : Nat) (modem : Modem.Config) (boot : Nat) :
    (∀ is s, Run (timedIngest tcp codec capacity boot) is s →
      (RateCleared zero perSecond s ↔ RateTold zero perSecond s)) ∧
    (∀ is s, Run (timedModem modem boot) is s → (TestDue modem s ↔ TestTold modem s)) :=
  ⟨fun _ _ run => rateCleared_iff zero perSecond run, fun _ _ run => testDue_iff run⟩

/-- The rate in hundredths of a packet per second. -/
def hundredths (count : Nat) (elapsed : Int) : Int := (count * 200000 + elapsed) / (2 * elapsed)

/-- One message, one second after boot, and then no traffic for half a period. -/
def quietClients : List (Timed Tcp.Step) :=
  [.turn (.accept "10.0.0.5"), .turn (.message 0 (Tcp.frame "1") none), .idle 1000,
    .turn (.drained 0 ⟨0, "2024-01-01 00:00:00"⟩ none), .idle (tickPeriod / 2)]

/-- The monitor is brought up, and its second check begins a test of the internet. -/
def firstTest : List Modem.Turn :=
  [.answer "", .ok, .ok] ++ Modem.Turn.findsNetwork ++ [.ok] ++ Modem.Turn.findsLink ++
    [.answer ""] ++ Modem.Turn.findsNetwork ++ Modem.Turn.findsLink

/-- And then there is no other for half a period. -/
def oneTest : List (Timed Modem.Turn) := firstTest.map .turn ++ [.idle (tickPeriod / 2)]

theorem elapsed_guards_iff_idle :
    (∃ s, Run (timedIngest .shipped Mqtt.idleCodec 50 0) quietClients s ∧
      (RateCleared 0 hundredths s ↔ RateTold 0 hundredths s)) ∧
    (∃ s, Run (timedModem .shipped 0) oneTest s ∧ (TestDue .shipped s ↔ TestTold .shipped s)) := by
  have guards := elapsed_guards_iff 0 hundredths .shipped Mqtt.idleCodec 50 .shipped 0
  have clients : Run (timedIngest .shipped Mqtt.idleCodec 50 0) quietClients _ :=
    run_iff_exec.mpr rfl
  have test : Run (timedModem .shipped 0) oneTest _ := run_iff_exec.mpr rfl
  exact ⟨⟨_, clients, guards.1 _ _ clients⟩, _, test, guards.2 _ _ test⟩

/-- Half a period after the last window started, and after the last test: the rate
is still shown as `1.0`, and no test is due. -/
theorem stale_rate_and_test_not_due :
    (∃ s, Run (timedIngest .shipped Mqtt.idleCodec 50 0) quietClients s ∧
      s.2 = some 1000 ∧ s.1.2 = 1000 + tickPeriod / 2 ∧
      s.1.1.server.currentRate 0 hundredths (ticksMs s.1.2) = 100 ∧
      ¬ RateCleared 0 hundredths s) ∧
    (∃ s, Run (timedModem .shipped 0) oneTest s ∧ s.2 = some 0 ∧ s.1.2 = tickPeriod / 2 ∧
      s.1.1.monitor.modem.testDue .shipped ⟨ticksMs s.1.2, ""⟩ = false ∧
      ¬ TestDue .shipped s) := by
  constructor
  · refine ⟨_, run_iff_exec.mpr rfl, rfl, rfl, by decide, fun cleared => ?_⟩
    exact absurd (cleared 1000 rfl (by decide)) (by decide)
  · refine ⟨_, run_iff_exec.mpr rfl, rfl, rfl, by decide, fun due => ?_⟩
    exact absurd (due 0 rfl (by decide) "") (by decide)

end EdgeGateway
