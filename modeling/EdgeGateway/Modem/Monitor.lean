import EdgeGateway.Modem.Status

/-!
The monitor task `ModemManager.start`.

The task brings the modem up, checks it, and then checks it again after every
sleep. It runs alone between two awaits: `resume` is one such stretch, from the
return (or exception) of the pending await up to the next one. Each exchange with
the modem is one await, and `Query` names those of a health check.

`Stretch` says what a stretch does to the two flags the cloud side reads and to
the health check, one constructor per case (`Monitor.resume_stretch`).
-/

namespace EdgeGateway.Modem

open EdgeGateway.Lib

/-! ### Where the task is suspended -/

/-- The calls of `_wait_for_modem`. -/
inductive Probe where
  /-- the two in the startup block -/
  | first | second
  /-- the one of the monitor loop -/
  | monitor
deriving DecidableEq, Repr

/-- The exchanges of `_configure_and_check`. -/
inductive Query where
  /-- `ATI` -/
  | identity
  /-- `AT+CPIN?` -/
  | sim
  /-- `AT+CSQ` -/
  | signal
  /-- `AT+CEREG?` -/
  | registration
  /-- `AT+COPS?` -/
  | operator
  /-- `AT+CGDCONT=1,"IP",` and the APN -/
  | defineContext
  /-- `AT+CGATT?` -/
  | attached
  /-- `AT+CGATT=1` -/
  | attach
  /-- `AT+CGPADDR=1` -/
  | address
  /-- `AT+CGACT=1,1` -/
  | activate
  /-- `AT+CGPADDR=1` behind the activation, and whether that answered without an error -/
  | addressAgain (activationOk : Bool)
deriving DecidableEq, Repr

inductive Await where
  | notStarted
  /-- `AT`, before a deadline -/
  | probing (probe : Probe) (deadline : Nat)
  /-- `sleep_ms(500)` between two of them -/
  | pausing (probe : Probe) (deadline : Nat)
  /-- the three sleeps of `_power_key_sequence` -/
  | powerKey (left : Nat)
  /-- in a health check, of the startup block or of the loop -/
  | checking (startup : Bool) (query : Query)
  | pinging
  /-- the sleep of the loop -/
  | sleeping
deriving DecidableEq, Repr

/-- The manager together with its monitor task. -/
structure Monitor where
  modem : ModemManager
  pending : Await
deriving DecidableEq, Repr

def Monitor.init : Monitor := ⟨.init, .notStarted⟩

/-- How the pending await ended. Sleeps return no text. -/
inductive Ending where
  | returned (text : Text)
  | raised (exc : PyError)
deriving DecidableEq, Repr

/-! ### `_configure_and_check` -/

/-- Suspend in the next exchange of the check. -/
def Monitor.ask (startup : Bool) (query : Query) (m : ModemManager) : Monitor :=
  ⟨m, .checking startup query⟩

/-- The first line of `_configure_and_check`, and its first exchange. -/
def Monitor.beginCheck (startup : Bool) (m : ModemManager) : Monitor :=
  Monitor.ask startup .identity { m with responding := true }

/-- `due` of the monitor loop. -/
def ModemManager.testDue (cfg : Config) (now : Clock) (m : ModemManager) : Bool :=
  match m.lastTestTicks with
  | none => true
  | some last => decide ((cfg.internetTestIntervalSeconds * 1000 : Int) ≤ ticksDiff now.ticks last)

/-- `test_internet` up to its exchange. -/
def Monitor.beginTest (now : Clock) (m : ModemManager) : Monitor :=
  let m := { m with lastTestTicks := some now.ticks, lastInternetTest := now.text }
  if !m.responding || !m.dataActive then ⟨m.testFailed, .sleeping⟩ else ⟨m, .pinging⟩

/-- The end of `_configure_and_check`, and what follows it up to the next await. -/
def Monitor.endCheck (cfg : Config) (now : Clock) (startup : Bool) (m : ModemManager) : Monitor :=
  let m := { m with lastCheck := now.text, lastError := none }
  if !startup && m.dataActive && m.testDue cfg now then Monitor.beginTest now m
  else ⟨m, .sleeping⟩

/-- A check that finds no network. -/
def ModemManager.offline (m : ModemManager) : ModemManager :=
  { m with dataAttached := false, dataActive := false, mobileIp := none }

/-- From the answer to one exchange of the check to the next await. -/
def Monitor.answered (cfg : Config) (now : Clock) (startup : Bool) (m : ModemManager)
    (text : Text) :
    Query → Monitor
  | .identity => .ask startup .sim { m with model := identityOf text }
  | .sim => .ask startup .signal { m with simStatus := afterColon text "+CPIN:" }
  | .signal => .ask startup .registration (m.setSignal (afterColon text "+CSQ:"))
  | .registration => .ask startup .operator { m with registration := registrationOf text }
  | .operator =>
      let m := { m with operator := operatorOf text }
      if m.simStatus = "READY".toList ∧ m.registration = .registered then
        .ask startup (if m.pdpConfigured then .attached else .defineContext) m
      else .endCheck cfg now startup m.offline
  | .defineContext => .ask startup .attached { m with pdpConfigured := true }
  | .attached =>
      let m := { m with dataAttached := afterColon text "+CGATT:" = "1".toList }
      .ask startup (if m.dataAttached then .address else .attach) m
  | .attach => .ask startup .address { m with dataAttached := true }
  | .address =>
      let m := { m with mobileIp := ipAddress text }
      if m.mobileIp.isSome then .endCheck cfg now startup { m with dataActive := true }
      else .ask startup .activate m
  | .activate => .ask startup (.addressAgain (!contains "ERROR".toList text)) m
  | .addressAgain activationOk =>
      let m := { m with mobileIp := ipAddress text }
      .endCheck cfg now startup { m with dataActive := m.mobileIp.isSome || activationOk }

/-! ### `_wait_for_modem` -/

/-- The probe ends without an answer. -/
def Monitor.unanswered (m : ModemManager) : Probe → Monitor
  | .first => ⟨m, .powerKey 2⟩
  | .second => ⟨m.recordError (.osError "A7670 did not respond to AT commands"), .sleeping⟩
  | .monitor => ⟨{ m with responding := false }, .sleeping⟩

/-- The head of the loop of `_wait_for_modem`. -/
def Monitor.probe (now : Clock) (probe : Probe) (deadline : Nat) (m : ModemManager) : Monitor :=
  if 0 < ticksDiff deadline now.ticks then ⟨m, .probing probe deadline⟩ else .unanswered m probe

/-- `_wait_for_modem` from its first line. -/
def Monitor.beginProbe (cfg : Config) (now : Clock) (probe : Probe) (m : ModemManager) : Monitor :=
  .probe now probe (ticksAdd now.ticks (cfg.startupTimeoutSeconds * 1000)) m

/-- The modem answers the probe. In the loop it may have rebooted and lost its PDP profile. -/
def Monitor.probed (cfg : Config) (now : Clock) (m : ModemManager) : Probe → Monitor
  | .first => .beginProbe cfg now .second m
  | .second => .beginCheck true { m with responding := true }
  | .monitor => .beginCheck false { m with responding := true, pdpConfigured := false }

/-! ### `start` -/

/-- From the end of the sleep of the monitor loop. -/
def Monitor.poll (cfg : Config) (now : Clock) (m : ModemManager) : Monitor :=
  if m.responding then .beginCheck false m
  else .beginProbe cfg now .monitor { m with reconnectCount := m.reconnectCount + 1 }

/-- The `except Exception` branch of the startup block or of the loop. -/
def Monitor.fail (startup : Bool) (exc : PyError) (m : ModemManager) : Monitor :=
  if startup then ⟨m.recordError exc, .sleeping⟩
  else ⟨{ m with responding := false }.recordError exc, .sleeping⟩

/-- One stretch of the task: the pending await ends as `ending`. In the first one
`_initialize_hardware` may raise; the sleeps raise nothing. -/
def Monitor.resume (cfg : Config) (now : Clock) (s : Monitor) (ending : Ending) : Option Monitor :=
  match s.pending, ending with
  | .notStarted, .returned _ => some (.beginProbe cfg now .first { s.modem with running := true })
  | .notStarted, .raised exc => some (.fail true exc { s.modem with running := true })
  | .probing probe deadline, .returned text =>
      some (if contains "OK".toList text then .probed cfg now s.modem probe
        else ⟨s.modem, .pausing probe deadline⟩)
  | .probing probe deadline, .raised _ => some ⟨s.modem, .pausing probe deadline⟩
  | .pausing probe deadline, .returned _ => some (.probe now probe deadline s.modem)
  | .powerKey 0, .returned _ => some (.beginProbe cfg now .second s.modem)
  | .powerKey (left + 1), .returned _ => some ⟨s.modem, .powerKey left⟩
  | .checking startup query, .returned text => some (.answered cfg now startup s.modem text query)
  | .checking startup _, .raised exc => some (.fail startup exc s.modem)
  | .pinging, .returned text => some ⟨s.modem.tested text, .sleeping⟩
  | .pinging, .raised _ => some ⟨s.modem.testFailed, .sleeping⟩
  | .sleeping, .returned _ => some (.poll cfg now s.modem)
  | .pausing _ _, .raised _ | .powerKey _, .raised _ | .sleeping, .raised _ => none

/-! ### What a stretch does -/

/-- In the startup block. -/
def Await.starting : Await → Bool
  | .notStarted | .powerKey _ | .checking true _ => true
  | .probing probe _ | .pausing probe _ => probe ≠ .monitor
  | .checking false _ | .pinging | .sleeping => false

/-- In a health check. -/
def Await.inCheck : Await → Bool
  | .checking _ _ => true
  | .notStarted | .probing _ _ | .pausing _ _ | .powerKey _ | .pinging | .sleeping => false

/-- What a stretch does to the flags and to the health check. -/
inductive Stretch (s : Monitor) (ending : Ending) (s' : Monitor) : Prop where
  /-- outside of a check -/
  | waits (outside : s.pending.inCheck = false) (outside' : s'.pending.inCheck = false)
      (starting : s'.pending.starting = true → s.pending.starting = true)
      (responding : s'.modem.responding = true → s.modem.responding = true)
      (active : s'.modem.dataActive = s.modem.dataActive)
  | begins (startup : Bool) (outside : s.pending.inCheck = false)
      (pending : s'.pending = .checking startup .identity)
      (starting : startup = true → s.pending.starting = true)
      (active : s'.modem.dataActive = s.modem.dataActive)
  /-- from one exchange of a check to the next -/
  | asks {text : Text} (startup : Bool) (query query' : Query) (ended : ending = .returned text)
      (pending : s.pending = .checking startup query)
      (pending' : s'.pending = .checking startup query')
      (responding : s'.modem.responding = s.modem.responding)
      (active : s'.modem.dataActive = s.modem.dataActive)
  | completes {text : Text} (startup : Bool) (query : Query) (ended : ending = .returned text)
      (pending : s.pending = .checking startup query) (outside' : s'.pending.inCheck = false)
      (started : s'.pending.starting = false)
  | raises {exc : PyError} (startup : Bool) (query : Query) (ended : ending = .raised exc)
      (pending : s.pending = .checking startup query) (pending' : s'.pending = .sleeping)
      (responding : startup = false → s'.modem.responding = false)
      (active : s'.modem.dataActive = s.modem.dataActive)

/-- Outside of a check and behind the startup block. -/
theorem Stretch.settles {s s' : Monitor} {ending : Ending} (outside : s.pending.inCheck = false)
    (outside' : s'.pending.inCheck = false) (settled : s'.pending.starting = false)
    (responding : s'.modem.responding = true → s.modem.responding = true)
    (active : s'.modem.dataActive = s.modem.dataActive) : Stretch s ending s' := by
  refine .waits outside outside' ?_ responding active
  intro starting
  rw [settled] at starting
  cases starting

theorem Monitor.endCheck_outside (cfg : Config) (now : Clock) (startup : Bool) (m : ModemManager) :
    (Monitor.endCheck cfg now startup m).pending.inCheck = false ∧
      (Monitor.endCheck cfg now startup m).pending.starting = false := by
  unfold Monitor.endCheck Monitor.beginTest
  dsimp only
  split
  · split <;> exact ⟨rfl, rfl⟩
  · exact ⟨rfl, rfl⟩

/-- An answer within a check leads to the next exchange, or ends the check. -/
theorem Monitor.answered_stretch {cfg : Config} {now : Clock} {startup : Bool} {query : Query}
    {m : ModemManager} (text : Text) :
    Stretch ⟨m, .checking startup query⟩ (.returned text)
      (.answered cfg now startup m text query) := by
  have ends (m' : ModemManager) :
      Stretch ⟨m, .checking startup query⟩ (.returned text) (.endCheck cfg now startup m') := by
    obtain ⟨outside, started⟩ := Monitor.endCheck_outside cfg now startup m'
    exact .completes startup query rfl rfl outside started
  cases query with
  | identity | sim | signal | registration | defineContext | attached | attach | activate =>
      exact .asks startup _ _ rfl rfl rfl rfl rfl
  | operator =>
      simp only [Monitor.answered]
      split
      · exact .asks startup _ _ rfl rfl rfl rfl rfl
      · exact ends _
  | address =>
      simp only [Monitor.answered]
      split
      · exact ends _
      · exact .asks startup _ _ rfl rfl rfl rfl rfl
  | addressAgain activationOk => exact ends _

/-- The head of the loop of `_wait_for_modem` changes the flags only for the worse. -/
theorem Monitor.probe_stretch {now : Clock} {probe : Probe} {deadline : Nat} {s : Monitor}
    {m : ModemManager} {ending : Ending} (outside : s.pending.inCheck = false)
    (starting : probe ≠ .monitor → s.pending.starting = true)
    (responding : m.responding = s.modem.responding) (active : m.dataActive = s.modem.dataActive) :
    Stretch s ending (.probe now probe deadline m) := by
  unfold Monitor.probe
  split
  · exact .waits outside rfl (by simpa [Await.starting] using starting)
      (by simp [responding]) active
  · cases probe with
    | first =>
        apply Stretch.waits outside rfl (fun _ => starting (by simp)) _ active
        simp [Monitor.unanswered, responding]
    | second =>
        apply Stretch.settles outside rfl rfl _ active
        simp [Monitor.unanswered, ModemManager.recordError, responding]
    | monitor =>
        apply Stretch.settles outside rfl rfl _ active
        simp [Monitor.unanswered]

/-- **Every stretch is one of these.** -/
theorem Monitor.resume_stretch {cfg : Config} {now : Clock} {s s' : Monitor} {ending : Ending}
    (step : s.resume cfg now ending = some s') : Stretch s ending s' := by
  obtain ⟨m, pending⟩ := s
  unfold Monitor.resume at step
  dsimp only at step
  split at step <;> cases step
  · exact Monitor.probe_stretch rfl (fun _ => rfl) rfl rfl
  · exact .settles rfl rfl rfl id rfl
  · rename_i probe deadline text
    split
    · cases probe with
      | first => exact Monitor.probe_stretch rfl (fun _ => rfl) rfl rfl
      | second => exact .begins true rfl rfl (fun _ => rfl) rfl
      | monitor => exact .begins false rfl rfl (by simp) rfl
    · exact .waits rfl rfl id id rfl
  · exact .waits rfl rfl id id rfl
  · exact Monitor.probe_stretch rfl (by simp [Await.starting]) rfl rfl
  · exact Monitor.probe_stretch rfl (fun _ => rfl) rfl rfl
  · exact .waits rfl rfl (fun _ => rfl) id rfl
  · exact Monitor.answered_stretch _
  · rename_i startup query exc
    cases startup with
    | true => exact .raises true query rfl rfl rfl (by simp) rfl
    | false => exact .raises false query rfl rfl rfl (fun _ => rfl) rfl
  · rename_i text
    unfold ModemManager.tested
    split
    · exact .settles rfl rfl rfl id rfl
    · exact .settles rfl rfl rfl id rfl
  · exact .settles rfl rfl rfl id rfl
  · unfold Monitor.poll
    split
    · exact .begins false rfl rfl (by simp) rfl
    · exact Monitor.probe_stretch rfl (by simp) rfl rfl

end EdgeGateway.Modem
