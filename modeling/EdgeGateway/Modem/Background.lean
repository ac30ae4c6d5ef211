import EdgeGateway.Lib.Run
import EdgeGateway.Modem.Monitor

/-!
The monitor and the background internet test, side by side.

The web server starts a test with `start_internet_test`. It runs as a task of its
own, next to the monitor and on the same attributes: a step is one stretch of
either task, or a call of `start_internet_test`, and a run is any interleaving.
Both take the lock of the modem for their exchanges, which decides the order in
which pending exchanges end and nothing else.

`Beside` says what a step that is not the monitor's leaves alone, which is all
that a health check writes (`ModemTasks.step_cases`).
-/

namespace EdgeGateway.Modem

open EdgeGateway.Lib

/-! ### The background test -/

/-- The task of `start_internet_test`. -/
inductive TestTask where
  | idle
  /-- created, and not run yet -/
  | scheduled
  /-- in the exchange of `test_internet` -/
  | pinging
deriving DecidableEq, Repr

structure ModemTasks where
  monitor : Monitor
  test : TestTask
deriving DecidableEq, Repr

def ModemTasks.init : ModemTasks := ⟨.init, .idle⟩

/-- `internet_test_running`. -/
def ModemTasks.internetTestRunning (s : ModemTasks) : Bool := s.test ≠ .idle

/-- `start_internet_test`: the tasks, and the returned flag. -/
def ModemTasks.startInternetTest (s : ModemTasks) : ModemTasks × Bool :=
  if s.internetTestRunning then (s, false) else ({ s with test := .scheduled }, true)

/-- The background task moves on, with these attributes. -/
def ModemTasks.testing (test : TestTask) (m : ModemManager) (s : ModemTasks) : ModemTasks :=
  ⟨⟨m, s.monitor.pending⟩, test⟩

/-- `_internet_test_task` up to the exchange of `test_internet`. -/
def ModemTasks.beginTest (now : Clock) (s : ModemTasks) : ModemTasks :=
  let m := { s.monitor.modem with lastTestTicks := some now.ticks, lastInternetTest := now.text }
  if !m.responding || !m.dataActive then s.testing .idle m.testFailed else s.testing .pinging m

/-- One stretch of `_internet_test_task`. -/
def ModemTasks.resumeTest (now : Clock) (s : ModemTasks) (ending : Ending) : Option ModemTasks :=
  match s.test, ending with
  | .scheduled, .returned _ => some (s.beginTest now)
  | .pinging, .returned text => some (s.testing .idle (s.monitor.modem.tested text))
  | .pinging, .raised _ => some (s.testing .idle s.monitor.modem.testFailed)
  | .idle, .returned _ | .idle, .raised _ | .scheduled, .raised _ => none

inductive Turn where
  /-- a stretch of the monitor -/
  | monitor (now : Clock) (ending : Ending)
  /-- the web server calls `start_internet_test` -/
  | startInternetTest
  /-- a stretch of the background test -/
  | test (now : Clock) (ending : Ending)
deriving DecidableEq, Repr

def ModemTasks.step (cfg : Config) (s : ModemTasks) : Turn → Option ModemTasks
  | .monitor now ending => (s.monitor.resume cfg now ending).map fun monitor => ⟨monitor, s.test⟩
  | .startInternetTest => some s.startInternetTest.1
  | .test now ending => s.resumeTest now ending

/-- The two tasks with every interleaving. -/
def modemTasks (cfg : Config) : System ModemTasks Turn := ⟨.init, ModemTasks.step cfg⟩

/-- A turn of the monitor in which the modem answers. -/
def Turn.answer (text : String) : Turn :=
  .monitor ⟨0, "2024-01-01 00:00:00 UTC"⟩ (.returned text.toList)

def Turn.ok : Turn := .answer "\r\nOK\r\n"

/-- A turn of the monitor in which its exchange times out. -/
def Turn.timesOut : Turn :=
  .monitor ⟨0, "2024-01-01 00:00:00 UTC"⟩ (.raised (.osError "AT timed out"))

/-- The answers of a check up to the one to `AT+COPS?`, with the modem registered. -/
def Turn.findsNetwork : List Turn :=
  [.answer "ATI\r\nA7670\r\nOK\r\n", .answer "+CPIN: READY\r\n\r\nOK\r\n",
    .answer "+CSQ: 20,99\r\n\r\nOK\r\n", .answer "+CEREG: 0,1\r\n\r\nOK\r\n",
    .answer "+COPS: 0,0,\"HOME\",7\r\n\r\nOK\r\n"]

/-- The answers of a check that is attached and has an address. -/
def Turn.findsLink : List Turn :=
  [.answer "+CGATT: 1\r\n\r\nOK\r\n", .answer "+CGPADDR: 1,10.0.0.7\r\n\r\nOK\r\n"]

/-! ### What the background test leaves alone -/

/-- The attributes that only the monitor writes. -/
structure SameLink (m m' : ModemManager) : Prop where
  responding : m'.responding = m.responding
  simStatus : m'.simStatus = m.simStatus
  registration : m'.registration = m.registration
  dataActive : m'.dataActive = m.dataActive
  mobileIp : m'.mobileIp = m.mobileIp
  pdpConfigured : m'.pdpConfigured = m.pdpConfigured

theorem SameLink.refl (m : ModemManager) : SameLink m m := ⟨rfl, rfl, rfl, rfl, rfl, rfl⟩

theorem SameLink.testFailed (m : ModemManager) : SameLink m m.testFailed :=
  ⟨rfl, rfl, rfl, rfl, rfl, rfl⟩

theorem SameLink.tested (text : Text) (m : ModemManager) : SameLink m (m.tested text) := by
  unfold ModemManager.tested
  split
  · exact .testFailed m
  · exact ⟨rfl, rfl, rfl, rfl, rfl, rfl⟩

/-- A test ends with `internet_ok` set exactly if there was an echo. -/
theorem internetOk_tested (text : Text) (m : ModemManager) :
    (m.tested text).internetOk = true ↔ latencies text ≠ [] := by
  unfold ModemManager.tested
  split
  · rename_i none
    simp [ModemManager.testFailed, none]
  · rename_i echoes
    exact ⟨fun _ => echoes, fun _ => rfl⟩

/-- A step beside the monitor: it stays where it is, and keeps what it wrote. A
test that begins on a link that is down fails at once, one that ends reports what
it found, and nothing else touches `internet_ok`. -/
inductive Beside (s : ModemTasks) : Turn → ModemTasks → Prop where
  | starts {s' : ModemTasks} : s'.monitor = s.monitor →
      (s'.test = .pinging → s.test = .pinging) → Beside s .startInternetTest s'
  | begins {now : Clock} {text : Text} {s' : ModemTasks} :
      s.test = .scheduled → s'.monitor.pending = s.monitor.pending →
      SameLink s.monitor.modem s'.monitor.modem →
      s'.monitor.modem.lastTestTicks = some now.ticks →
      (s'.test = .pinging → s.monitor.modem.responding = true ∧ s.monitor.modem.dataActive = true) →
      (s'.monitor.modem.internetOk = true → s.monitor.modem.internetOk = true) →
      Beside s (.test now (.returned text)) s'
  | ends {now : Clock} {ending : Ending} {s' : ModemTasks} :
      s.test = .pinging → s'.test = .idle → s'.monitor.pending = s.monitor.pending →
      SameLink s.monitor.modem s'.monitor.modem →
      s'.monitor.modem.lastTestTicks = s.monitor.modem.lastTestTicks →
      (s'.monitor.modem.internetOk = true ↔ ∃ text, ending = .returned text ∧ latencies text ≠ []) →
      Beside s (.test now ending) s'

theorem ModemTasks.resumeTest_beside {now : Clock} {ending : Ending} {s s' : ModemTasks}
    (step : s.resumeTest now ending = some s') : Beside s (.test now ending) s' := by
  obtain ⟨⟨m, pending⟩, test⟩ := s
  unfold ModemTasks.resumeTest at step
  dsimp only at step
  split at step <;> cases step
  · unfold ModemTasks.beginTest ModemTasks.testing
    dsimp only
    split
    · refine .begins rfl rfl ⟨rfl, rfl, rfl, rfl, rfl, rfl⟩ rfl (by simp) ?_
      simp [ModemManager.testFailed]
    · rename_i up
      refine .begins rfl rfl ⟨rfl, rfl, rfl, rfl, rfl, rfl⟩ rfl (fun _ => ?_) id
      simpa using up
  · rename_i text
    refine .ends rfl rfl rfl (.tested text m) ?_ ?_
    · unfold ModemTasks.testing ModemManager.tested
      dsimp only
      split <;> rfl
    · unfold ModemTasks.testing
      rw [internetOk_tested]
      simp
  · refine .ends rfl rfl rfl (.testFailed m) rfl ?_
    simp [ModemTasks.testing, ModemManager.testFailed]

/-- **A step is a stretch of the monitor, or beside it.** -/
theorem ModemTasks.step_cases {cfg : Config} {s s' : ModemTasks} {i : Turn}
    (step : s.step cfg i = some s') :
    (∃ now ending, i = .monitor now ending ∧ s.monitor.resume cfg now ending = some s'.monitor ∧
      s'.test = s.test) ∨ Beside s i s' := by
  cases i with
  | monitor now ending =>
      obtain ⟨monitor, resumed, rfl⟩ := Option.map_eq_some_iff.mp step
      exact .inl ⟨now, ending, rfl, resumed, rfl⟩
  | startInternetTest =>
      right
      cases step
      refine .starts ?_ ?_
      · unfold ModemTasks.startInternetTest
        split <;> rfl
      · unfold ModemTasks.startInternetTest
        split
        · exact id
        · nofun
  | test now ending => exact .inr (ModemTasks.resumeTest_beside step)

end EdgeGateway.Modem
