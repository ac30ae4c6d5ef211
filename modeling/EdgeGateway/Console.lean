import EdgeGateway.Modem.Health
import EdgeGateway.Modem.Tests
import EdgeGateway.Panel

/-!
The page beside its gateway.

A click on the test button makes the gateway start a background test, and the page asks
for the status until no test is running. `status` has no member that says so. So the
first answer ends the wait, and what the button reports is the last test that had ended
when the gateway built it (`verdict_of_first_status`). That is a test from before the
click only while the one asked for is still running, as in `clickedTooEarly`.
-/

namespace EdgeGateway.Panel

open EdgeGateway.Lib EdgeGateway.Modem

/-! ### The console -/

/-- The settings of `config.py` that the modem reads or reports. -/
structure Config where
  modem : Modem.Config
  apn : String
  pingHost : String
deriving DecidableEq, Repr

/-- The values of `config.example.py`. -/
def Config.shipped : Config := ⟨.shipped, "YOUR_SIM_APN", "8.8.8.8"⟩

structure Console where
  page : Page
  modem : ModemTasks

inductive Input where
  /-- a stretch of the modem tasks, or a call of `start_internet_test` for another page -/
  | modem (turn : Turn)
  | page (event : Event)
deriving DecidableEq, Repr

/-- The gateway calls `start_internet_test` for a click. -/
def Page.starts (p : Page) : Event → Bool
  | .handled call =>
      match p.tests[call]? with
      | some (.posting false) => true
      | some (.posting true) | some (.waiting _) | some (.polling _ _) | none => false
  | _ => false

def Console.status (cfg : Config) (w : Console) : Dict :=
  w.modem.monitor.modem.status cfg.apn cfg.pingHost

def Console.step (cfg : Config) (w : Console) : Input → Option Console
  | .modem turn => (w.modem.step cfg.modem turn).map fun modem => { w with modem }
  | .page event => (w.page.step (w.status cfg) event).map fun page =>
      ⟨page, if w.page.starts event then w.modem.startInternetTest.1 else w.modem⟩

def console (cfg : Config) : System Console Input := ⟨⟨.loaded, .init⟩, Console.step cfg⟩

/-! ### The books -/

/-- The tests that had ended when the gateway took the request of a click and when it last
built a status for that, whether a background test was pending then, and how many statuses
it has built for the click. -/
structure Verdict where
  asked : Nat
  read : Nat
  running : Bool
  statuses : Nat
deriving DecidableEq, Repr

structure ConsoleBooks where
  tests : TestBooks
  /-- of the open click -/
  verdict : Verdict
  /-- of the clicks that a status ended -/
  verdicts : List Verdict
deriving DecidableEq, Repr

def ConsoleBooks.empty : ConsoleBooks := ⟨.empty, ⟨0, 0, false, 0⟩, []⟩

/-- The gateway handles the request of a click. -/
def ConsoleBooks.handled (w w' : Console) (call : Nat) (b : ConsoleBooks) : ConsoleBooks :=
  match w.page.tests[call]? with
  | some (.posting false) =>
      { b with
        tests := b.tests.book w.modem .startInternetTest w'.modem
        verdict := { b.verdict with asked := b.tests.found.length, statuses := 0 } }
  | some (.polling _ none) =>
      { b with verdict :=
          { b.verdict with
            read := b.tests.found.length
            running := w.modem.internetTestRunning
            statuses := b.verdict.statuses + 1 } }
  | some (.posting true) | some (.waiting _) | some (.polling _ (some _)) | none => b

/-- The answer to a request for the status ends a click. -/
def ConsoleBooks.answered (w w' : Console) (call : Nat) (b : ConsoleBooks) : ConsoleBooks :=
  match w.page.tests[call]? with
  | some (.polling _ (some _)) =>
      if w'.page.alerts.length = w.page.alerts.length then b
      else { b with verdicts := b.verdicts ++ [b.verdict] }
  | some (.polling _ none) | some (.posting _) | some (.waiting _) | none => b

def ConsoleBooks.book (w : Console) (input : Input) (w' : Console) (b : ConsoleBooks) :
    ConsoleBooks :=
  match input with
  | .modem turn => { b with tests := b.tests.book w.modem turn w'.modem }
  | .page (.handled call) => b.handled w w' call
  | .page (.tested call none) => b.answered w w' call
  | .page .interval | .page .click | .page (.refreshed _ _) | .page (.tested _ (some _)) => b

/-- The console with its books. -/
def bookedConsole (cfg : Config) : System (Console × ConsoleBooks) Input :=
  (console cfg).withBooks .empty ConsoleBooks.book

/-- The report of the last of these tests. -/
def reportOf (host : String) (found : List (Option Int)) : Alert :=
  match found.getLast?.join with
  | some ms => .ok (some (.int ms)) (some (.str host))
  | none => .failed (some (.str host))

/-- The report is one of a status. -/
def Alert.isVerdict : Alert → Bool
  | .ok _ _ | .failed _ => true
  | .timedOut | .raised _ => false

/-! ### What a status says of the tests -/

/-- `status` does not say whether a test is running. -/
theorem lookup_running (apn host : String) (m : ModemManager) :
    (m.status apn host).lookup "internet_test_running" = none := rfl

theorem Alert.of_status (apn host : String) {m : ModemManager} {found : List (Option Int)}
    (shown : m.Shows found) : Alert.of (m.status apn host) = reportOf host found := by
  have ok : (m.status apn host).lookup "internet_ok" = some (.bool m.internetOk) := rfl
  have latency : (m.status apn host).lookup "ping_latency_ms" =
      some (orNull .int m.pingLatencyMs) := rfl
  have pingHost : (m.status apn host).lookup "ping_host" = some (.str host) := rfl
  unfold Alert.of reportOf
  rw [ok, latency, pingHost, shown.ok, shown.latency]
  cases found.getLast?.join with
  | none => rfl
  | some ms => rfl

/-! ### The modem moves on -/

/-- Since the gateway took the request of the open click a test has ended, or one is
pending. -/
structure Behind (asked : Nat) (modem : ModemTasks) (tests : TestBooks) : Prop where
  past : asked ≤ tests.found.length
  running : asked = tests.found.length → modem.internetTestRunning = true

/-- The same at the time of the status, which is the first for the click. -/
structure Verdict.Fair (found : List (Option Int)) (v : Verdict) : Prop where
  asked : v.asked ≤ v.read
  read : v.read ≤ found.length
  running : v.asked = v.read → v.running = true
  first : v.statuses = 1

section Turns

variable {cfg : Modem.Config} {s s' : ModemTasks} {tests : TestBooks} {turn : Turn}

theorem running_started (s : ModemTasks) : s.startInternetTest.1.internetTestRunning = true := by
  unfold ModemTasks.startInternetTest
  split
  · rename_i running
    exact running
  · rfl

/-- A background test is pending until one ends. -/
theorem running_kept (step : s.step cfg turn = some s') (none : s.ends? turn = none)
    (running : s.internetTestRunning = true) : s'.internetTestRunning = true := by
  obtain ⟨⟨m, pending⟩, test⟩ := s
  have busy : test ≠ .idle := of_decide_eq_true running
  cases turn with
  | monitor now ending =>
      obtain ⟨monitor, -, rfl⟩ := Option.map_eq_some_iff.mp step
      exact running
  | startInternetTest =>
      obtain rfl := Option.some.inj step
      unfold ModemTasks.startInternetTest
      rw [if_pos running]
      exact running
  | test now ending =>
      cases test with
      | idle => exact absurd rfl busy
      | pinging => cases none
      | scheduled =>
          have up : (m.responding && m.dataActive) = true := by
            by_contra down
            have ends : ModemTasks.ends? ⟨⟨m, pending⟩, .scheduled⟩ (.test now ending) =
              some Option.none := if_neg down
            rw [ends] at none
            cases none
          cases ending with
          | raised exc => cases step
          | returned text =>
              obtain rfl := Option.some.inj step
              unfold ModemTasks.beginTest ModemTasks.testing
              dsimp only
              have link : (!m.responding || !m.dataActive) = false := by simpa using up
              rw [if_neg (by simp [link])]
              rfl

theorem found_grows (s s' : ModemTasks) (turn : Turn) (tests : TestBooks) :
    tests.found <+: (tests.book s turn s').found :=
  List.prefix_append _ _

theorem Behind.step {asked : Nat} (behind : Behind asked s tests)
    (step : s.step cfg turn = some s') : Behind asked s' (tests.book s turn s') := by
  have grows := (found_grows s s' turn tests).length_le
  refine ⟨behind.past.trans grows, fun same => ?_⟩
  have none : s.ends? turn = none := by
    cases ends : s.ends? turn with
    | none => rfl
    | some found =>
        unfold TestBooks.book at same
        rw [ends, Option.toList_some, List.length_append, List.length_singleton] at same
        have := behind.past
        omega
  rw [TestBooks.book_found none] at same
  exact running_kept step none (behind.running same)

theorem Verdict.Fair.mono {found found' : List (Option Int)} {v : Verdict} (fair : v.Fair found)
    (sub : found <+: found') : v.Fair found' :=
  ⟨fair.asked, fair.read.trans sub.length_le, fair.running, fair.first⟩

/-- The tests that had ended at some time are not changed by those that end later. -/
theorem take_of_part {α : Type} {xs ys : List α} {n : Nat} (sub : xs <+: ys)
    (inside : n ≤ xs.length) : ys.take n = xs.take n := by
  obtain ⟨more, rfl⟩ := sub
  exact List.take_append_of_le_length inside

end Turns

/-! ### Every run -/

/-- Where a click stands. -/
def Stage (cfg : Config) (modem : ModemTasks) (b : ConsoleBooks) : Test → Prop
  | .posting false => True
  | .posting true => b.verdict.statuses = 0 ∧ Behind b.verdict.asked modem b.tests
  | .waiting attempt | .polling attempt none =>
      attempt = 0 ∧ b.verdict.statuses = 0 ∧ Behind b.verdict.asked modem b.tests
  | .polling attempt (some lte) =>
      attempt = 0 ∧ b.verdict.Fair b.tests.found ∧ lte.lookup "internet_test_running" = none ∧
        Alert.of lte = reportOf cfg.pingHost (b.tests.found.take b.verdict.read)

/-- What holds of the console. -/
structure Judged (cfg : Config) (w : Console) (b : ConsoleBooks) : Prop where
  page : w.page.Sound
  monitor : RespondingInv w.modem.monitor
  accounted : Accounted w.modem b.tests
  clicks : ∀ test ∈ w.page.tests, Stage cfg w.modem b test
  alerts : w.page.alerts.filter Alert.isVerdict =
    b.verdicts.map fun v => reportOf cfg.pingHost (b.tests.found.take v.read)
  fair : ∀ v ∈ b.verdicts, v.Fair b.tests.found
  patient : .timedOut ∉ w.page.alerts
  first : b.verdict.statuses ≤ 1

section Judged

variable {cfg : Config} {w w' : Console} {b : ConsoleBooks} {turn : Turn} {call : Nat}

theorem Stage.step {modem modem' : ModemTasks} {test : Test} (stage : Stage cfg modem b test)
    (step : modem.step cfg.modem turn = some modem') :
    Stage cfg modem' { b with tests := b.tests.book modem turn modem' } test := by
  have grows := found_grows modem modem' turn b.tests
  cases test with
  | posting handled =>
      cases handled with
      | false => trivial
      | true => exact ⟨stage.1, stage.2.step step⟩
  | waiting attempt => exact ⟨stage.1, stage.2.1, stage.2.2.step step⟩
  | polling attempt lte =>
      cases lte with
      | none => exact ⟨stage.1, stage.2.1, stage.2.2.step step⟩
      | some lte =>
          obtain ⟨first, fair, silent, report⟩ := stage
          refine ⟨first, fair.mono grows, silent, ?_⟩
          rw [report]
          exact congrArg _ (take_of_part grows fair.read).symm

/-- The modem moves on, whoever caused it. -/
theorem Judged.advance {modem : ModemTasks} (judged : Judged cfg w b) (turn : Turn)
    (step : w.modem.step cfg.modem turn = some modem) :
    Judged cfg { w with modem } { b with tests := b.tests.book w.modem turn modem } where
  page := judged.page
  monitor := ModemTasks.respondingInv judged.monitor step
  accounted := judged.accounted.step judged.monitor step
  clicks := fun test mem => (judged.clicks test mem).step step
  alerts := by
    rw [judged.alerts]
    apply List.map_congr_left
    intro v mem
    exact congrArg _ (take_of_part (found_grows _ _ _ _) (judged.fair v mem).read).symm
  fair := fun v mem => (judged.fair v mem).mono (found_grows _ _ _ _)
  patient := judged.patient
  first := judged.first

/-- The page moves on, and neither its clicks nor its reports change. -/
theorem Judged.same {page : Page} (judged : Judged cfg w b) (sound : page.Sound)
    (clicks : ∀ test ∈ page.tests, test ∈ w.page.tests ∨ test = .posting false)
    (alerts : page.alerts = w.page.alerts) : Judged cfg { w with page } b where
  page := sound
  monitor := judged.monitor
  accounted := judged.accounted
  clicks := fun test mem => by
    rcases clicks test mem with before | rfl
    · exact judged.clicks test before
    · trivial
  alerts := by
    rw [alerts]
    exact judged.alerts
  fair := judged.fair
  patient := by
    rw [alerts]
    exact judged.patient
  first := judged.first

theorem Page.refresh_tests (p : Page) : p.refresh.tests = p.tests := by
  unfold Page.refresh
  split <;> rfl

theorem Page.refresh_alerts (p : Page) : p.refresh.alerts = p.alerts := by
  unfold Page.refresh
  split <;> rfl

/-- The report of a click, and the poll behind it. -/
theorem Judged.tested (judged : Judged cfg w b) {test : Test}
    (at' : w.page.tests[call]? = some test) (alert : Alert) (verdicts : List Verdict)
    (fair : ∀ v ∈ verdicts, v.Fair b.tests.found) (patient : alert ≠ .timedOut)
    (report : [alert].filter Alert.isVerdict =
      verdicts.map fun v => reportOf cfg.pingHost (b.tests.found.take v.read)) :
    Judged cfg { w with page := w.page.tested call alert }
      { b with verdicts := b.verdicts ++ verdicts } where
  page := judged.page.tested at' alert
  monitor := judged.monitor
  accounted := judged.accounted
  clicks := fun other mem => by
    obtain ⟨-, rfl, one⟩ := judged.page.test_eq at'
    unfold Page.tested at mem
    rw [Page.refresh_tests, one] at mem
    cases mem
  alerts := by
    unfold Page.tested
    rw [Page.refresh_alerts, List.filter_append, judged.alerts, report, List.map_append]
  fair := fun v mem => by
    rcases List.mem_append.mp mem with before | new
    · exact judged.fair v before
    · exact fair v new
  patient := by
    unfold Page.tested
    rw [Page.refresh_alerts]
    intro mem
    rcases List.mem_append.mp mem with before | new
    · exact judged.patient before
    · exact patient (List.mem_singleton.mp new).symm
  first := judged.first

/-- A click goes on. -/
theorem Judged.setTest (judged : Judged cfg w b) {test test' : Test}
    (at' : w.page.tests[call]? = some test) {verdict : Verdict} (first : verdict.statuses ≤ 1)
    (stage : Stage cfg w.modem { b with verdict } test') :
    Judged cfg { w with page := { w.page with tests := w.page.tests.set call test' } }
      { b with verdict } where
  page := judged.page.setTest test'
  monitor := judged.monitor
  accounted := judged.accounted
  clicks := fun other mem => by
    obtain ⟨-, rfl, one⟩ := judged.page.test_eq at'
    dsimp only at mem
    rw [one] at mem
    obtain rfl := List.mem_singleton.mp mem
    exact stage
  alerts := judged.alerts
  fair := judged.fair
  patient := judged.patient
  first := first

theorem Page.resumeRefresh_same {p p' : Page} {ok : Bool}
    (step : p.resumeRefresh call ok = some p') : p'.tests = p.tests ∧ p'.alerts = p.alerts := by
  unfold Page.resumeRefresh at step
  split at step <;> cases step
  · exact ⟨rfl, rfl⟩
  · split <;> exact ⟨rfl, rfl⟩
  · exact ⟨rfl, rfl⟩

/-- The gateway handles the request of a click. -/
theorem Judged.handled (judged : Judged cfg w b)
    (step : w.step cfg (.page (.handled call)) = some w') :
    Judged cfg w' (b.handled w w' call) := by
  obtain ⟨page, stepped, rfl⟩ := Option.map_eq_some_iff.mp step
  unfold Page.step at stepped
  dsimp only at stepped
  split at stepped <;> cases stepped
  · rename_i at'
    have starts : w.page.starts (.handled call) = true := by
      unfold Page.starts
      dsimp only
      rw [at']
    rw [starts, if_pos rfl]
    unfold ConsoleBooks.handled
    rw [at']
    have started := judged.advance .startInternetTest rfl
    apply started.setTest at' (Nat.zero_le 1)
    have none := TestBooks.book_found (s := w.modem) (i := .startInternetTest) rfl
    refine ⟨rfl, ?_, fun _ => running_started w.modem⟩
    rw [none]
  · rename_i attempt at'
    have idle : w.page.starts (.handled call) = false := by
      unfold Page.starts
      dsimp only
      rw [at']
    rw [idle, if_neg Bool.false_ne_true]
    unfold ConsoleBooks.handled
    rw [at']
    obtain ⟨first, none, behind⟩ := judged.clicks _ (List.mem_of_getElem? at')
    have once : b.verdict.statuses + 1 = 1 := congrArg (· + 1) none
    apply judged.setTest at' once.le
    refine ⟨first, ⟨behind.past, le_refl _, behind.running, once⟩, lookup_running _ _ _, ?_⟩
    rw [List.take_length]
    exact Alert.of_status _ _ judged.accounted.shown

/-- The status that a click gets says nothing of a running test, and ends it. -/
theorem Judged.ends (judged : Judged cfg w b) {attempt : Nat} {lte : Dict}
    (at' : w.page.tests[call]? = some (.polling attempt (some lte))) :
    w.page.resumeTest call none = some (w.page.tested call (.of lte)) := by
  obtain ⟨-, -, silent, -⟩ := judged.clicks _ (List.mem_of_getElem? at')
  have ends : truthy (lte.lookup "internet_test_running") = false := by
    rw [silent]
    rfl
  unfold Page.resumeTest
  rw [at']
  dsimp only
  rw [ends, if_neg Bool.false_ne_true]

/-- The await of a click returns. -/
theorem Judged.answered (judged : Judged cfg w b) {page : Page}
    (step : w.page.resumeTest call none = some page) :
    Judged cfg { w with page } (b.answered w { w with page } call) := by
  unfold Page.resumeTest at step
  unfold ConsoleBooks.answered
  cases at' : w.page.tests[call]? with
  | none =>
      rw [at'] at step
      cases step
  | some test =>
      rw [at'] at step
      have stage := judged.clicks _ (List.mem_of_getElem? at')
      cases test with
      | posting handled =>
          cases handled with
          | false => cases step
          | true =>
              obtain rfl := Option.some.inj step
              exact judged.setTest at' judged.first ⟨rfl, stage⟩
      | waiting attempt =>
          obtain rfl := Option.some.inj step
          exact judged.setTest at' judged.first stage
      | polling attempt answer =>
          cases answer with
          | none => cases step
          | some lte =>
              obtain ⟨-, fair, -, report⟩ := stage
              have longer : (w.page.tested call (.of lte)).alerts.length ≠
                  w.page.alerts.length := by
                unfold Page.tested
                rw [Page.refresh_alerts, List.length_append]
                exact Nat.succ_ne_self _
              have ends := judged.ends at'
              unfold Page.resumeTest at ends
              rw [at'] at ends
              obtain rfl := Option.some.inj (ends.symm.trans step)
              dsimp only
              rw [if_neg longer]
              have verdict : (Alert.of lte).isVerdict = true ∧ Alert.of lte ≠ .timedOut := by
                unfold Alert.of
                split <;> exact ⟨rfl, nofun⟩
              apply judged.tested at'
              · intro v mem
                obtain rfl := List.mem_singleton.mp mem
                exact fair
              · exact verdict.2
              · rw [List.map_singleton, ← report]
                exact List.filter_cons_of_pos verdict.1

/-- The await of a click raises. -/
theorem Judged.raised (judged : Judged cfg w b) {message : String} {page : Page}
    (step : w.page.resumeTest call (some message) = some page) : Judged cfg { w with page } b := by
  have fails {test : Test} (at' : w.page.tests[call]? = some test) :
      Judged cfg { w with page := w.page.tested call (.raised message) } b := by
    have tested := judged.tested at' (.raised message) [] nofun nofun rfl
    rw [List.append_nil] at tested
    exact tested
  unfold Page.resumeTest at step
  cases at' : w.page.tests[call]? with
  | none =>
      rw [at'] at step
      cases step
  | some test =>
      rw [at'] at step
      cases test with
      | posting handled =>
          obtain rfl : w.page.tested call (.raised message) = page := by
            cases handled <;> exact Option.some.inj step
          exact fails at'
      | waiting attempt => cases step
      | polling attempt answer =>
          obtain rfl : w.page.tested call (.raised message) = page := by
            cases answer <;> exact Option.some.inj step
          exact fails at'

theorem Judged.step {input : Input} (judged : Judged cfg w b)
    (step : w.step cfg input = some w') : Judged cfg w' (b.book w input w') := by
  cases input with
  | modem turn =>
      obtain ⟨modem, turned, rfl⟩ := Option.map_eq_some_iff.mp step
      exact judged.advance turn turned
  | page event =>
      cases event with
      | handled call => exact judged.handled step
      | interval =>
          obtain rfl := Option.some.inj step
          apply judged.same judged.page.refresh
          · intro test mem
            rw [Page.refresh_tests] at mem
            exact .inl mem
          · exact w.page.refresh_alerts
      | click =>
          obtain ⟨page, stepped, rfl⟩ := Option.map_eq_some_iff.mp step
          have sound := judged.page.step stepped
          unfold Page.step at stepped
          dsimp only at stepped
          split at stepped <;> cases stepped
          apply judged.same sound
          · intro test mem
            exact (List.mem_append.mp mem).imp id List.mem_singleton.mp
          · rfl
      | refreshed call ok =>
          obtain ⟨page, stepped, rfl⟩ := Option.map_eq_some_iff.mp step
          obtain ⟨tests, alerts⟩ := Page.resumeRefresh_same stepped
          apply judged.same (judged.page.resumeRefresh stepped)
          · intro test mem
            rw [tests] at mem
            exact .inl mem
          · exact alerts
      | tested call raised =>
          obtain ⟨page, stepped, rfl⟩ := Option.map_eq_some_iff.mp step
          cases raised with
          | none => exact judged.answered stepped
          | some message => exact judged.raised stepped

theorem Judged.init (cfg : Config) : Judged cfg (console cfg).init .empty where
  page := .loaded
  monitor := .init
  accounted := .init
  clicks := nofun
  alerts := rfl
  fair := nofun
  patient := nofun
  first := Nat.zero_le 1

end Judged

/-- **The first status decides**: a click that still waits has seen none, the one that it gets
ends it with its report, none sees a second one, and each click that a status ended had seen
one. -/
theorem verdict_of_first_status {cfg : Config} {inputs : List Input} {s : Console × ConsoleBooks}
    (run : Run (bookedConsole cfg) inputs s) :
    .timedOut ∉ s.1.page.alerts ∧
      (∀ attempt, .waiting attempt ∈ s.1.page.tests → s.2.verdict.statuses = 0) ∧
      (∀ attempt lte, .polling attempt (some lte) ∈ s.1.page.tests →
        ∃ page, s.1.page.resumeTest 0 none = some page ∧ page.tests = [] ∧
          page.alerts = s.1.page.alerts ++ [.of lte]) ∧
      s.2.verdict.statuses ≤ 1 ∧
      s.1.page.alerts.filter Alert.isVerdict =
        s.2.verdicts.map (fun v => reportOf cfg.pingHost (s.2.tests.found.take v.read)) ∧
      ∀ v ∈ s.2.verdicts, v.statuses = 1 ∧ v.asked ≤ v.read ∧
        v.read ≤ s.2.tests.found.length ∧ (v.asked = v.read → v.running = true) := by
  have judged : Judged cfg s.1 s.2 := by
    refine run.invariant (I := fun s => Judged cfg s.1 s.2) (.init cfg) ?_
    intro s input s' judged step
    obtain ⟨stepped, books⟩ := withBooks_step step
    rw [books]
    exact judged.step stepped
  refine ⟨judged.patient, fun attempt waits => (judged.clicks _ waits).2.1,
    fun attempt lte gets => ?_, judged.first, judged.alerts, fun v mem => ?_⟩
  · obtain ⟨call, at'⟩ := List.mem_iff_getElem?.mp gets
    obtain ⟨-, rfl, one⟩ := judged.page.test_eq at'
    refine ⟨_, judged.ends at', ?_, Page.refresh_alerts _⟩
    rw [Page.tested, Page.refresh_tests, one]
    rfl
  · obtain ⟨asked, read, running, first⟩ := judged.fair v mem
    exact ⟨first, asked, read, running⟩

/-- On a link that is up, a click and the first status behind it, and then the test itself,
which finds an echo. -/
def clickedTooEarly : List Input :=
  ([Turn.answer "", .ok, .ok] ++ Turn.findsNetwork ++ [Turn.ok] ++ Turn.findsLink).map .modem ++
    [.page .click, .page (.handled 0), .page (.tested 0 none), .page (.tested 0 none),
      .page (.handled 0), .page (.tested 0 none), .modem (.test ⟨0, ""⟩ (.returned [])),
      .modem (.test ⟨0, ""⟩ (.returned "+CPING: 1,8.8.8.8,32,30,64\r\n".toList))]

theorem verdict_of_first_status_early :
    ∃ s, Run (bookedConsole .shipped) clickedTooEarly s ∧ s.2.verdicts = [⟨0, 0, true, 1⟩] ∧
      s.2.tests.found = [some 30] ∧ .timedOut ∉ s.1.page.alerts ∧
      (∀ attempt, .waiting attempt ∈ s.1.page.tests → s.2.verdict.statuses = 0) ∧
      (∀ attempt lte, .polling attempt (some lte) ∈ s.1.page.tests →
        ∃ page, s.1.page.resumeTest 0 none = some page ∧ page.tests = [] ∧
          page.alerts = s.1.page.alerts ++ [.of lte]) ∧
      s.2.verdict.statuses ≤ 1 ∧
      s.1.page.alerts.filter Alert.isVerdict =
        s.2.verdicts.map (fun v => reportOf "8.8.8.8" (s.2.tests.found.take v.read)) ∧
      ∀ v ∈ s.2.verdicts, v.statuses = 1 ∧ v.asked ≤ v.read ∧
        v.read ≤ s.2.tests.found.length ∧ (v.asked = v.read → v.running = true) :=
  have run := run_iff_exec.mpr rfl
  ⟨_, run, rfl, rfl, verdict_of_first_status run⟩

end EdgeGateway.Panel
