import EdgeGateway.Modem.Moves

/-!
The books of the internet tests.

The monitor tests the link when the last test is old enough, and the web server may
start a test beside it. Both run `test_internet` on the same attributes, and each can
end while the other is in its exchange. `TestBooks` records what every test found, in
the order in which they end.

`tests_accounted` reads the attributes off these books, after any interleaving: the
failure counter counts the tests without an echo, `internet_ok` and `ping_latency_ms`
are those of the last test to end, no test that began is lost, and `start_internet_test`
grants a test only when the one it granted before has ended.
-/

namespace EdgeGateway.Modem

open EdgeGateway.Lib

/-! ### Where a test begins and ends -/

/-- The round trip a test reports, if there was an echo. -/
def roundTrip (response : Text) : Option Int :=
  match latencies response with
  | [] => none
  | times => some (times.sum / times.length)

/-- What a test finds when its exchange ends so. -/
def Ending.found : Ending → Option Int
  | .returned text => roundTrip text
  | .raised _ => none

/-- What the test found that ends in a stretch. On a link that is down it ends where it
begins. -/
def ModemTasks.ends? (s : ModemTasks) : Turn → Option (Option Int)
  | .monitor _ ending => if s.monitor.pending = .pinging then some ending.found else none
  | .startInternetTest => none
  | .test _ ending =>
      match s.test with
      | .idle => none
      | .scheduled =>
          if s.monitor.modem.responding && s.monitor.modem.dataActive then none else some none
      | .pinging => some ending.found

/-- The stretch enters `test_internet`. -/
def ModemTasks.enters (s : ModemTasks) (i : Turn) (s' : ModemTasks) : Bool :=
  match i with
  | .monitor _ _ => s.monitor.pending ≠ .pinging ∧ s'.monitor.pending = .pinging
  | .startInternetTest => false
  | .test _ _ => s.test = .scheduled

/-- The tests that are in their exchange. -/
def ModemTasks.inFlight (s : ModemTasks) : Nat :=
  (decide (s.monitor.pending = .pinging)).toNat + (decide (s.test = .pinging)).toNat

structure TestBooks where
  /-- the tests begun -/
  entered : Nat
  /-- what the tests found, the last one to end last -/
  found : List (Option Int)
  /-- the calls of `start_internet_test` that returned `True` -/
  granted : Nat
  /-- the background tests that ended -/
  ended : Nat
deriving DecidableEq, Repr

def TestBooks.empty : TestBooks := ⟨0, [], 0, 0⟩

def TestBooks.book (s : ModemTasks) (i : Turn) (s' : ModemTasks) (b : TestBooks) : TestBooks where
  entered := b.entered + (s.enters i s').toNat
  found := b.found ++ (s.ends? i).toList
  granted := b.granted + match i with
    | .startInternetTest => s.startInternetTest.2.toNat
    | .monitor _ _ | .test _ _ => 0
  ended := b.ended + match i with
    | .test _ _ => (s.ends? i).isSome.toNat
    | .monitor _ _ | .startInternetTest => 0

theorem TestBooks.book_found {s : ModemTasks} {i : Turn} (none : s.ends? i = none)
    (s' : ModemTasks) (b : TestBooks) : (b.book s i s').found = b.found := by
  unfold TestBooks.book
  rw [none]
  exact List.append_nil b.found

/-- The two tasks with the books. -/
def bookedTasks (cfg : Config) : System (ModemTasks × TestBooks) Turn :=
  (modemTasks cfg).withBooks .empty TestBooks.book

/-! ### What the attributes show of the tests -/

/-- The attributes that only the tests write. -/
structure SameTests (m m' : ModemManager) : Prop where
  internetOk : m'.internetOk = m.internetOk
  pingLatencyMs : m'.pingLatencyMs = m.pingLatencyMs
  internetTestFailures : m'.internetTestFailures = m.internetTestFailures

theorem SameTests.refl (m : ModemManager) : SameTests m m := ⟨rfl, rfl, rfl⟩

theorem SameTests.trans {m m' m'' : ModemManager} (left : SameTests m m')
    (right : SameTests m' m'') : SameTests m m'' where
  internetOk := right.internetOk.trans left.internetOk
  pingLatencyMs := right.pingLatencyMs.trans left.pingLatencyMs
  internetTestFailures := right.internetTestFailures.trans left.internetTestFailures

/-- The attributes show these tests. -/
structure ModemManager.Shows (m : ModemManager) (found : List (Option Int)) : Prop where
  failures : m.internetTestFailures = found.count none
  latency : m.pingLatencyMs = found.getLast?.join
  ok : m.internetOk = found.getLast?.join.isSome

section Shows

variable {m m' : ModemManager} {found : List (Option Int)}

theorem ModemManager.Shows.init : ModemManager.init.Shows [] := ⟨rfl, rfl, rfl⟩

theorem ModemManager.Shows.same (shows' : m.Shows found) (same : SameTests m m') :
    m'.Shows found where
  failures := same.internetTestFailures.trans shows'.failures
  latency := same.pingLatencyMs.trans shows'.latency
  ok := same.internetOk.trans shows'.ok

theorem ModemManager.Shows.testFailed (shows' : m.Shows found) :
    m.testFailed.Shows (found ++ [none]) where
  failures := by
    rw [List.count_append, List.count_singleton_self]
    exact congrArg (· + 1) shows'.failures
  latency := by
    rw [List.getLast?_concat]
    rfl
  ok := by
    rw [List.getLast?_concat]
    rfl

theorem ModemManager.Shows.tested (shows' : m.Shows found) (text : Text) :
    (m.tested text).Shows (found ++ [roundTrip text]) := by
  unfold ModemManager.tested roundTrip
  cases latencies text with
  | nil => exact shows'.testFailed
  | cons first more =>
      constructor
      · rw [List.count_append]
        exact shows'.failures
      · rw [List.getLast?_concat]
        rfl
      · rw [List.getLast?_concat]
        rfl

end Shows

/-! ### The monitor beside the tests -/

section Monitor

variable {cfg : Config} {now : Clock} {m : ModemManager}

theorem Monitor.endCheck_tests (startup : Bool) (responding : m.responding = true) :
    SameTests m (Monitor.endCheck cfg now startup m).modem := by
  obtain ⟨-, -, same⟩ | same := Monitor.endCheck_cases cfg now startup responding
  · rw [same]
    exact ⟨rfl, rfl, rfl⟩
  · rw [same]
    exact ⟨rfl, rfl, rfl⟩

theorem Monitor.answered_tests {startup : Bool} (responding : m.responding = true) (text : Text)
    (query : Query) : SameTests m (Monitor.answered cfg now startup m text query).modem := by
  have ends (m' : ModemManager) (same : SameTests m m') (up : m'.responding = true) :
      SameTests m (Monitor.endCheck cfg now startup m').modem :=
    same.trans (Monitor.endCheck_tests startup up)
  cases query with
  | identity => exact ⟨rfl, rfl, rfl⟩
  | sim => exact ⟨rfl, rfl, rfl⟩
  | signal => exact ⟨rfl, rfl, rfl⟩
  | registration => exact ⟨rfl, rfl, rfl⟩
  | operator =>
      unfold Monitor.answered
      dsimp only
      split
      · exact ⟨rfl, rfl, rfl⟩
      · exact ends _ ⟨rfl, rfl, rfl⟩ responding
  | defineContext => exact ⟨rfl, rfl, rfl⟩
  | attached => exact ⟨rfl, rfl, rfl⟩
  | attach => exact ⟨rfl, rfl, rfl⟩
  | address =>
      unfold Monitor.answered
      dsimp only
      split
      · exact ends _ ⟨rfl, rfl, rfl⟩ responding
      · exact ⟨rfl, rfl, rfl⟩
  | activate => exact ⟨rfl, rfl, rfl⟩
  | addressAgain activationOk => exact ends _ ⟨rfl, rfl, rfl⟩ responding

theorem Monitor.probe_tests {m' : ModemManager} (same : SameTests m m') (probe : Probe)
    (deadline : Nat) : SameTests m (Monitor.probe now probe deadline m').modem := by
  unfold Monitor.probe
  split
  · exact same
  · apply same.trans
    cases probe <;> exact ⟨rfl, rfl, rfl⟩

/-- Outside of its own test the monitor leaves the results alone. -/
theorem Monitor.resume_tests {s s' : Monitor} {ending : Ending} (inv : RespondingInv s)
    (elsewhere : s.pending ≠ .pinging) (step : s.resume cfg now ending = some s') :
    SameTests s.modem s'.modem := by
  obtain ⟨m, pending⟩ := s
  unfold Monitor.resume at step
  dsimp only at step
  split at step <;> cases step
  · apply Monitor.probe_tests
    exact ⟨rfl, rfl, rfl⟩
  · exact ⟨rfl, rfl, rfl⟩
  · rename_i probe deadline text
    split
    · cases probe with
      | first => exact Monitor.probe_tests (.refl m) _ _
      | second => exact ⟨rfl, rfl, rfl⟩
      | monitor => exact ⟨rfl, rfl, rfl⟩
    · exact .refl m
  · exact .refl m
  · exact Monitor.probe_tests (.refl m) _ _
  · exact Monitor.probe_tests (.refl m) _ _
  · exact .refl m
  · exact Monitor.answered_tests (inv.checks rfl) _ _
  · rename_i startup query exc
    cases startup <;> exact ⟨rfl, rfl, rfl⟩
  · exact absurd rfl elsewhere
  · exact absurd rfl elsewhere
  · unfold Monitor.poll
    split
    · exact ⟨rfl, rfl, rfl⟩
    · apply Monitor.probe_tests
      exact ⟨rfl, rfl, rfl⟩

theorem Monitor.resume_pinging {s' : Monitor} {ending : Ending} {found : List (Option Int)}
    (shows' : m.Shows found) (step : Monitor.resume cfg now ⟨m, .pinging⟩ ending = some s') :
    s'.pending = .sleeping ∧ s'.modem.Shows (found ++ [ending.found]) := by
  cases ending with
  | returned text =>
      obtain rfl := Option.some.inj step
      exact ⟨rfl, shows'.tested text⟩
  | raised exc =>
      obtain rfl := Option.some.inj step
      exact ⟨rfl, shows'.testFailed⟩

end Monitor

/-! ### Every run -/

/-- The books agree with the attributes and with the tests on their way. -/
structure Accounted (s : ModemTasks) (b : TestBooks) : Prop where
  shown : s.monitor.modem.Shows b.found
  entered : b.entered = b.found.length + s.inFlight
  background : b.granted = b.ended + s.internetTestRunning.toNat

section Accounted

variable {cfg : Config} {s s' : ModemTasks} {b : TestBooks} {now : Clock} {ending : Ending}

theorem Accounted.init : Accounted .init .empty := ⟨.init, rfl, rfl⟩

theorem Accounted.monitor (acc : Accounted s b) (inv : RespondingInv s.monitor)
    (step : s.step cfg (.monitor now ending) = some s') :
    Accounted s' (b.book s (.monitor now ending) s') := by
  obtain ⟨monitor, resumed, rfl⟩ := Option.map_eq_some_iff.mp step
  obtain ⟨⟨m, pending⟩, test⟩ := s
  by_cases pinging : pending = .pinging
  · subst pinging
    obtain ⟨sleeping, shown⟩ := Monitor.resume_pinging acc.shown resumed
    refine ⟨shown, ?_, acc.background⟩
    have entered := acc.entered
    unfold ModemTasks.inFlight at entered ⊢
    simp only [TestBooks.book, ModemTasks.enters, ModemTasks.ends?, sleeping] at entered ⊢
    simp only [ne_eq, not_true_eq_false, false_and, decide_false, Bool.toNat_false, if_true,
      Option.toList_some, List.length_append, List.length_singleton, decide_true,
      Bool.toNat_true, reduceCtorEq] at entered ⊢
    omega
  · have shown := acc.shown.same (Monitor.resume_tests inv pinging resumed)
    have none : ModemTasks.ends? ⟨⟨m, pending⟩, test⟩ (.monitor now ending) = none :=
      if_neg pinging
    have found := TestBooks.book_found none ⟨monitor, test⟩ b
    refine ⟨?_, ?_, acc.background⟩
    · rw [found]
      exact shown
    · rw [found]
      have entered := acc.entered
      simp only [TestBooks.book, ModemTasks.inFlight, ModemTasks.enters, pinging, ne_eq,
        not_false_eq_true, true_and, decide_false, Bool.toNat_false] at entered ⊢
      omega

theorem Accounted.start (acc : Accounted s b) :
    Accounted s.startInternetTest.1 (b.book s .startInternetTest s.startInternetTest.1) := by
  obtain ⟨monitor, test⟩ := s
  have found := TestBooks.book_found (i := .startInternetTest) (s := ⟨monitor, test⟩) rfl
  by_cases running : test = .idle
  · subst running
    refine ⟨?_, ?_, congrArg (· + 1) acc.background⟩
    · rw [found]
      exact acc.shown
    · rw [found]
      exact acc.entered
  · have busy : ModemTasks.startInternetTest ⟨monitor, test⟩ = (⟨monitor, test⟩, false) :=
      if_pos (decide_eq_true running)
    rw [busy]
    refine ⟨?_, ?_, ?_⟩
    · rw [found]
      exact acc.shown
    · rw [found]
      exact acc.entered
    · unfold TestBooks.book
      rw [busy]
      exact acc.background

theorem Accounted.test (acc : Accounted s b) (step : s.resumeTest now ending = some s') :
    Accounted s' (b.book s (.test now ending) s') := by
  obtain ⟨⟨m, pending⟩, test⟩ := s
  obtain ⟨shown, entered, background⟩ := acc
  -- a background test that ends with `result`
  have ends {m' : ModemManager} (result : Option Int) (leaves : test ≠ .idle)
      (reported : ModemTasks.ends? ⟨⟨m, pending⟩, test⟩ (.test now ending) = some result)
      (shown' : m'.Shows (b.found ++ [result])) :
      Accounted ⟨⟨m', pending⟩, .idle⟩ (b.book ⟨⟨m, pending⟩, test⟩ (.test now ending)
        ⟨⟨m', pending⟩, .idle⟩) := by
    refine ⟨?_, ?_, ?_⟩
    · unfold TestBooks.book
      rw [reported]
      exact shown'
    · unfold TestBooks.book
      rw [reported]
      unfold ModemTasks.inFlight ModemTasks.enters at *
      cases test with
      | idle => exact absurd rfl leaves
      | scheduled =>
          simp at entered ⊢
          omega
      | pinging =>
          simp at entered ⊢
          omega
    · unfold TestBooks.book
      rw [reported]
      have running : ModemTasks.internetTestRunning ⟨⟨m, pending⟩, test⟩ = true :=
        decide_eq_true leaves
      rw [running] at background
      exact background
  cases test with
  | idle => cases ending <;> cases step
  | scheduled =>
      cases ending with
      | raised exc => cases step
      | returned text =>
          obtain rfl := Option.some.inj step
          unfold ModemTasks.beginTest ModemTasks.testing
          dsimp only
          by_cases up : (m.responding && m.dataActive) = true
          · have link : (!m.responding || !m.dataActive) = false := by simpa using up
            rw [if_neg (by simp [link])]
            have none : ModemTasks.ends? ⟨⟨m, pending⟩, .scheduled⟩ (.test now (.returned text)) =
              none := if_pos up
            have found := TestBooks.book_found none
            refine ⟨?_, ?_, ?_⟩
            · rw [found]
              exact shown.same ⟨rfl, rfl, rfl⟩
            · rw [found]
              exact congrArg (· + 1) entered
            · unfold TestBooks.book
              rw [none]
              exact background
          · have link : (!m.responding || !m.dataActive) = true := by
              simpa [Bool.and_eq_true, imp_iff_not_or] using up
            rw [if_pos link]
            apply ends none nofun (if_neg up)
            exact ModemManager.Shows.testFailed (shown.same ⟨rfl, rfl, rfl⟩)
  | pinging =>
      cases ending with
      | returned text =>
          obtain rfl := Option.some.inj step
          exact ends (roundTrip text) nofun rfl (shown.tested text)
      | raised exc =>
          obtain rfl := Option.some.inj step
          exact ends none nofun rfl shown.testFailed

theorem Accounted.step {i : Turn} (acc : Accounted s b) (inv : RespondingInv s.monitor)
    (step : s.step cfg i = some s') : Accounted s' (b.book s i s') := by
  cases i with
  | monitor now ending => exact acc.monitor inv step
  | startInternetTest =>
      obtain rfl := Option.some.inj step
      exact acc.start
  | test now ending => exact acc.test step

theorem accounted {is : List Turn} {s : ModemTasks × TestBooks} (run : Run (bookedTasks cfg) is s) :
    RespondingInv s.1.monitor ∧ Accounted s.1 s.2 := by
  refine run.invariant (I := fun s => RespondingInv s.1.monitor ∧ Accounted s.1 s.2)
    ⟨.init, .init⟩ ?_
  rintro s i s' ⟨inv, acc⟩ step
  obtain ⟨stepped, books⟩ := withBooks_step step
  refine ⟨ModemTasks.respondingInv inv stepped, ?_⟩
  rw [books]
  exact acc.step inv stepped

end Accounted

/-- **No test is lost, and the attributes show the last one to end.** -/
theorem tests_accounted {cfg : Config} {is : List Turn} {s : ModemTasks × TestBooks}
    (run : Run (bookedTasks cfg) is s) :
    s.1.monitor.modem.internetTestFailures = s.2.found.count none ∧
      s.1.monitor.modem.pingLatencyMs = s.2.found.getLast?.join ∧
      s.1.monitor.modem.internetOk = s.2.found.getLast?.join.isSome ∧
      s.2.entered = s.2.found.length + s.1.inFlight ∧
      s.2.granted = s.2.ended + s.1.internetTestRunning.toNat := by
  have inv := (accounted run).2
  exact ⟨inv.shown.failures, inv.shown.latency, inv.shown.ok, inv.entered, inv.background⟩

/-- A background test begins in the exchange of the monitor's, and ends behind it without
an echo. -/
def twoTests : List Turn :=
  [.answer "", .ok, .ok] ++ Turn.findsNetwork ++ [.ok] ++ Turn.findsLink ++ [.answer ""] ++
    Turn.findsNetwork ++ Turn.findsLink ++
    [.startInternetTest, .test ⟨0, "2024-01-01 00:00:00 UTC"⟩ (.returned []),
      .answer "+CPING: 1,8.8.8.8,32,30,64\r\n",
      .test ⟨0, "2024-01-01 00:00:00 UTC"⟩ (.raised (.osError "AT timed out"))]

theorem tests_accounted_two : ∃ s, Run (bookedTasks .shipped) twoTests s ∧
    s.2.found = [some 30, none] ∧ s.1.monitor.modem.internetTestFailures = s.2.found.count none ∧
      s.1.monitor.modem.pingLatencyMs = s.2.found.getLast?.join ∧
      s.1.monitor.modem.internetOk = s.2.found.getLast?.join.isSome ∧
      s.2.entered = s.2.found.length + s.1.inFlight ∧
      s.2.granted = s.2.ended + s.1.internetTestRunning.toNat :=
  have run := run_iff_exec.mpr rfl
  ⟨_, run, rfl, tests_accounted run⟩

end EdgeGateway.Modem
