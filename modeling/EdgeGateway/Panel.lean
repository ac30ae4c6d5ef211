import EdgeGateway.Json
import EdgeGateway.Lib.Run

/-!
The script of the dashboard page.

It polls the gateway every second, and its button asks for an internet test and waits
for the end of that. Between two awaits the script runs alone, so a step is one event
of the browser. Several calls of `refresh` and several clicks could be suspended at a
time; that this never happens is a result (`Page.Sound`), and with it the page keeps
the cadence of its polls whatever its requests are answered by (`page_polls`).
-/

namespace EdgeGateway.Panel

open EdgeGateway.Lib

/-! ### The script -/

/-- Where a call of `refresh` is suspended. -/
inductive Refresh where
  /-- in the request for `/api/snapshot` -/
  | snapshot
  /-- in the request for `/api/details` -/
  | details
deriving DecidableEq, Repr

/-- Where a click on the test button is suspended. -/
inductive Test where
  /-- in the request to `/api/lte/test`, which the gateway has handled or not -/
  | posting (handled : Bool)
  /-- in `wait(1000)` -/
  | waiting (attempt : Nat)
  /-- in the request for `/api/status`, with the `lte` of the answer once that is built -/
  | polling (attempt : Nat) (lte : Option Dict)
deriving Repr

/-- What the button reports. A member that the answer does not have is `undefined`. -/
inductive Alert where
  | ok (latency host : Option Json)
  | failed (host : Option Json)
  /-- `4G test failed: test timeout` -/
  | timedOut
  /-- `4G test failed:` with the message of a request -/
  | raised (message : String)
deriving Repr

structure Page where
  pollingPaused : Bool
  refreshRunning : Bool
  detailRefreshCounter : Int
  /-- `button.disabled` -/
  disabled : Bool
  refreshes : List Refresh
  tests : List Test
  alerts : List Alert
deriving Repr

/-- The truth of a value; `undefined` is `none`. A number is false if it is zero. -/
def truthy : Option Json → Bool
  | none | some .null => false
  | some (.bool value) => value
  | some (.int n) => n ≠ 0
  | some (.float text) => (text.toList.takeWhile (· ≠ 'e')).any fun c => '1' ≤ c ∧ c ≤ '9'
  | some (.str s) => s ≠ ""
  | some (.list _) | some (.dict _) => true

/-- `refresh` up to its first await. -/
def Page.refresh (p : Page) : Page :=
  if p.pollingPaused || p.refreshRunning then p
  else { p with refreshRunning := true, refreshes := p.refreshes ++ [.snapshot] }

/-- The `finally` block of `refresh`. -/
def Page.refreshed (call : Nat) (p : Page) : Page :=
  { p with refreshRunning := false, refreshes := p.refreshes.eraseIdx call }

/-- A request of `refresh` ends, with an answer or not. -/
def Page.resumeRefresh (p : Page) (call : Nat) (ok : Bool) : Option Page :=
  match p.refreshes[call]?, ok with
  | none, _ => none
  | some _, false => some (p.refreshed call)
  | some .snapshot, true =>
      some (if p.detailRefreshCounter ≤ 0 then { p with refreshes := p.refreshes.set call .details }
        else Page.refreshed call { p with detailRefreshCounter := p.detailRefreshCounter - 1 })
  | some .details, true => some (Page.refreshed call { p with detailRefreshCounter := 15 })

/-- The `finally` block of the button, behind its alert. -/
def Page.tested (call : Nat) (alert : Alert) (p : Page) : Page :=
  Page.refresh { p with
    tests := p.tests.eraseIdx call
    pollingPaused := false
    disabled := false
    alerts := p.alerts ++ [alert] }

/-- The head of the loop of the button. -/
def Page.attempt (call attempt : Nat) (p : Page) : Page :=
  if attempt < 20 then { p with tests := p.tests.set call (.waiting attempt) }
  else p.tested call .timedOut

/-- What the button reports of a result. -/
def Alert.of (lte : Dict) : Alert :=
  if truthy (lte.lookup "internet_ok") then
    .ok (lte.lookup "ping_latency_ms") (lte.lookup "ping_host")
  else .failed (lte.lookup "ping_host")

/-- The await of a click ends, with an exception or not. -/
def Page.resumeTest (p : Page) (call : Nat) (raised : Option String) : Option Page :=
  match p.tests[call]?, raised with
  | some (.posting true), none => some (p.attempt call 0)
  | some (.waiting attempt), none =>
      some { p with tests := p.tests.set call (.polling attempt none) }
  | some (.polling attempt (some lte)), none =>
      some (if truthy (lte.lookup "internet_test_running") then p.attempt call (attempt + 1)
        else p.tested call (.of lte))
  | some (.posting _), some message | some (.polling _ _), some message =>
      some (p.tested call (.raised message))
  | some (.posting false), none | some (.polling _ none), none | some (.waiting _), some _
  | none, _ => none

/-- What happens to the page. -/
inductive Event where
  /-- the timer of `setInterval` -/
  | interval
  | click
  | refreshed (call : Nat) (ok : Bool)
  /-- the gateway handles the request of a click -/
  | handled (call : Nat)
  | tested (call : Nat) (raised : Option String)
deriving DecidableEq, Repr

/-- One event, while a request for `/api/status` is answered by `lte`. -/
def Page.step (lte : Dict) (p : Page) : Event → Option Page
  | .interval => some p.refresh
  | .click =>
      if p.disabled then none
      else some { p with
        disabled := true
        pollingPaused := true
        tests := p.tests ++ [.posting false] }
  | .refreshed call ok => p.resumeRefresh call ok
  | .handled call =>
      match p.tests[call]? with
      | some (.posting false) => some { p with tests := p.tests.set call (.posting true) }
      | some (.polling attempt none) =>
          some { p with tests := p.tests.set call (.polling attempt (some lte)) }
      | some (.posting true) | some (.waiting _) | some (.polling _ (some _)) | none => none
  | .tested call raised => p.resumeTest call raised

/-- The page once the script has run: its last lines call `refresh` and set the timer. -/
def Page.loaded : Page := Page.refresh ⟨false, false, 0, false, [], [], []⟩

/-- The page alone, with any answers. -/
def page : System Page (Dict × Event) := ⟨.loaded, fun p (lte, event) => p.step lte event⟩

/-! ### One poll and one test at a time -/

/-- What holds of the page between two events. -/
structure Page.Sound (p : Page) : Prop where
  refreshes : p.refreshes.length = p.refreshRunning.toNat
  tests : p.tests.length = p.disabled.toNat
  paused : p.pollingPaused = p.disabled

section Sound

variable {p p' : Page} {lte : Dict} {event : Event} {call : Nat}

theorem eq_singleton {α : Type} {xs : List α} {flag : Bool} {i : Nat} {x : α}
    (one : xs.length = flag.toNat) (at' : xs[i]? = some x) : flag = true ∧ i = 0 ∧ xs = [x] := by
  obtain ⟨inside, here⟩ := List.getElem?_eq_some_iff.mp at'
  cases flag with
  | false =>
      rw [one] at inside
      exact absurd inside (Nat.not_lt_zero i)
  | true =>
      obtain ⟨y, rfl⟩ := List.length_eq_one_iff.mp one
      obtain rfl : i = 0 := Nat.lt_one_iff.mp inside
      exact ⟨rfl, rfl, congrArg (fun y => [y]) here⟩

/-- What is suspended, with the flags that say so. -/
theorem Page.Sound.refresh_eq (sound : p.Sound) {refresh : Refresh}
    (at' : p.refreshes[call]? = some refresh) :
    p.refreshRunning = true ∧ call = 0 ∧ p.refreshes = [refresh] :=
  eq_singleton sound.refreshes at'

theorem Page.Sound.test_eq (sound : p.Sound) {test : Test} (at' : p.tests[call]? = some test) :
    p.disabled = true ∧ call = 0 ∧ p.tests = [test] :=
  eq_singleton sound.tests at'

/-- No poll begins while a test is open. -/
theorem Page.Sound.refresh_testing (sound : p.Sound) (testing : p.tests ≠ []) : p.refresh = p := by
  have disabled : p.disabled = true := by
    by_contra enabled
    have none := sound.tests
    rw [Bool.eq_false_iff.mpr enabled] at none
    exact testing (List.length_eq_zero_iff.mp none)
  apply if_pos
  rw [sound.paused, disabled, Bool.true_or]

theorem Page.Sound.refresh (sound : p.Sound) : p.refresh.Sound := by
  unfold Page.refresh
  split
  · exact sound
  · rename_i free
    simp only [Bool.or_eq_true, not_or, Bool.not_eq_true] at free
    refine ⟨?_, sound.tests, sound.paused⟩
    have none := sound.refreshes
    rw [free.2] at none
    rw [List.length_append, none]
    rfl

theorem Page.Sound.refreshed (sound : p.Sound) {refresh : Refresh}
    (at' : p.refreshes[call]? = some refresh) : (p.refreshed call).Sound := by
  obtain ⟨-, rfl, one⟩ := sound.refresh_eq at'
  refine ⟨?_, sound.tests, sound.paused⟩
  unfold Page.refreshed
  rw [one]
  rfl

theorem Page.Sound.tested (sound : p.Sound) {test : Test} (at' : p.tests[call]? = some test)
    (alert : Alert) : (p.tested call alert).Sound := by
  obtain ⟨-, rfl, one⟩ := sound.test_eq at'
  apply Page.Sound.refresh
  exact ⟨sound.refreshes, by rw [one]; rfl, rfl⟩

theorem Page.Sound.setTest (sound : p.Sound) (test : Test) :
    ({ p with tests := p.tests.set call test } : Page).Sound :=
  ⟨sound.refreshes, by rw [List.length_set, sound.tests], sound.paused⟩

theorem Page.Sound.attempt (sound : p.Sound) {test : Test} (at' : p.tests[call]? = some test)
    (attempt : Nat) : (p.attempt call attempt).Sound := by
  unfold Page.attempt
  split
  · exact sound.setTest _
  · exact sound.tested at' _

theorem Page.Sound.resumeRefresh (sound : p.Sound) {ok : Bool}
    (step : p.resumeRefresh call ok = some p') : p'.Sound := by
  unfold Page.resumeRefresh at step
  split at step <;> cases step
  · rename_i refresh at'
    exact sound.refreshed at'
  · rename_i at'
    split
    · exact ⟨by rw [List.length_set, sound.refreshes], sound.tests, sound.paused⟩
    · exact Page.Sound.refreshed ⟨sound.refreshes, sound.tests, sound.paused⟩ at'
  · rename_i at'
    exact Page.Sound.refreshed ⟨sound.refreshes, sound.tests, sound.paused⟩ at'

theorem Page.Sound.resumeTest (sound : p.Sound) {raised : Option String}
    (step : p.resumeTest call raised = some p') : p'.Sound := by
  unfold Page.resumeTest at step
  split at step <;> cases step
  · rename_i at'
    exact sound.attempt at' _
  · exact sound.setTest _
  · rename_i at'
    split
    · exact sound.attempt at' _
    · exact sound.tested at' _
  · rename_i at'
    exact sound.tested at' _
  · rename_i at'
    exact sound.tested at' _

theorem Page.Sound.step (sound : p.Sound) (step : p.step lte event = some p') : p'.Sound := by
  cases event with
  | interval =>
      obtain rfl := Option.some.inj step
      exact sound.refresh
  | click =>
      unfold Page.step at step
      dsimp only at step
      by_cases disabled : p.disabled = true
      · rw [if_pos disabled] at step
        cases step
      · rw [if_neg disabled] at step
        obtain rfl := Option.some.inj step
        have none := sound.tests
        rw [Bool.eq_false_iff.mpr disabled] at none
        refine ⟨sound.refreshes, ?_, rfl⟩
        rw [List.length_append, none]
        rfl
  | refreshed call ok => exact sound.resumeRefresh step
  | handled call =>
      unfold Page.step at step
      dsimp only at step
      split at step <;> cases step
      · exact sound.setTest _
      · exact sound.setTest _
  | tested call raised => exact sound.resumeTest step

theorem Page.Sound.loaded : Page.loaded.Sound := Page.Sound.refresh ⟨rfl, rfl, rfl⟩

end Sound

/-! ### The details -/

/-- The polls that succeeded so far, in order: whether they loaded the details. -/
def polls (p : Page) (input : Dict × Event) (p' : Page) (done : List Bool) : List Bool :=
  match input.2 with
  | .refreshed call true =>
      match p.refreshes[call]? with
      | some .snapshot =>
          if p'.refreshes.length < p.refreshes.length then done ++ [false] else done
      | some .details => done ++ [true]
      | none => done
  | .refreshed _ false | .interval | .click | .handled _ | .tested _ _ => done

/-- Every sixteenth poll loaded the details, and the counter of the page counts down to
the next one. -/
structure Cadence (p : Page) (done : List Bool) : Prop where
  counter : p.detailRefreshCounter =
    if done.length % 16 = 0 then 0 else 16 - (done.length % 16 : Nat)
  due : .details ∈ p.refreshes → done.length % 16 = 0
  kept : ∀ i loaded, done[i]? = some loaded → (loaded = true ↔ i % 16 = 0)

section Details

variable {p p' : Page} {done : List Bool} {lte : Dict} {event : Event} {call : Nat}

theorem Cadence.loaded : Cadence .loaded [] := ⟨rfl, fun _ => rfl, nofun⟩

/-- A page on which the polls stand as before. -/
theorem Cadence.same (cadence : Cadence p done)
    (counter : p'.detailRefreshCounter = p.detailRefreshCounter)
    (due : .details ∈ p'.refreshes → .details ∈ p.refreshes) : Cadence p' done where
  counter := counter.trans cadence.counter
  due := fun mem => cadence.due (due mem)
  kept := cadence.kept

/-- One more poll, in its turn. -/
theorem Cadence.append (cadence : Cadence p done) {loaded : Bool}
    (turn : loaded = true ↔ done.length % 16 = 0) :
    ∀ i other, (done ++ [loaded])[i]? = some other → (other = true ↔ i % 16 = 0) := by
  intro i other at'
  rw [List.getElem?_append] at at'
  split at at'
  · exact cadence.kept i other at'
  · obtain ⟨inside, last⟩ := List.getElem?_eq_some_iff.mp at'
    have here : i = done.length := by
      rw [List.length_singleton] at inside
      omega
    rw [List.getElem_singleton] at last
    rw [← last, here]
    exact turn

theorem Cadence.refresh (cadence : Cadence p done) : Cadence p.refresh done := by
  unfold Page.refresh
  split
  · exact cadence
  · refine cadence.same ?_ ?_
    · rfl
    · intro mem
      rcases List.mem_append.mp mem with before | new
      · exact before
      · exact absurd (List.mem_singleton.mp new) (by decide)

theorem Cadence.tested (cadence : Cadence p done) (alert : Alert) :
    Cadence (p.tested call alert) done := by
  apply Cadence.refresh
  refine cadence.same ?_ ?_
  · rfl
  · exact id

theorem Cadence.attempt (cadence : Cadence p done) (attempt : Nat) :
    Cadence (p.attempt call attempt) done := by
  unfold Page.attempt
  split
  · refine cadence.same ?_ ?_
    · rfl
    · exact id
  · exact cadence.tested _

theorem Cadence.resumeTest (cadence : Cadence p done) {raised : Option String}
    (step : p.resumeTest call raised = some p') : Cadence p' done := by
  unfold Page.resumeTest at step
  split at step <;> cases step
  · exact cadence.attempt _
  · refine cadence.same ?_ ?_
    · rfl
    · exact id
  · split
    · exact cadence.attempt _
    · exact cadence.tested _
  · exact cadence.tested _
  · exact cadence.tested _

/-- **A poll that loads no details counts down, and one that does starts again.** -/
theorem Cadence.resumeRefresh (cadence : Cadence p done) (sound : p.Sound) {ok : Bool}
    (step : p.resumeRefresh call ok = some p') :
    Cadence p' (polls p (lte, .refreshed call ok) p' done) := by
  have counter := cadence.counter
  unfold Page.resumeRefresh at step
  split at step <;> cases step
  · rename_i refresh at'
    refine cadence.same ?_ ?_
    · rfl
    · exact fun mem => List.mem_of_mem_eraseIdx mem
  · rename_i at'
    obtain ⟨-, rfl, one⟩ := sound.refresh_eq at'
    unfold polls
    dsimp only
    rw [at', one]
    dsimp only
    by_cases zero : p.detailRefreshCounter ≤ 0
    · have due : done.length % 16 = 0 := by
        split at counter <;> omega
      rw [if_pos zero, if_neg (by simp)]
      exact ⟨counter, fun _ => due, cadence.kept⟩
    · have undue : done.length % 16 ≠ 0 := by
        split at counter <;> omega
      rw [if_neg zero, if_pos (by simp [Page.refreshed])]
      refine ⟨?_, nofun, cadence.append (by simp [undue])⟩
      rw [if_neg undue] at counter
      change p.detailRefreshCounter - 1 = _
      rw [List.length_append, List.length_singleton, counter]
      split <;> omega
  · rename_i at'
    obtain ⟨-, rfl, one⟩ := sound.refresh_eq at'
    have due := cadence.due (by rw [one]; exact List.mem_singleton_self _)
    unfold polls
    dsimp only
    rw [at']
    refine ⟨?_, ?_, cadence.append (by simp [due])⟩
    · change (15 : Int) = _
      rw [List.length_append, List.length_singleton]
      split <;> omega
    · unfold Page.refreshed
      rw [one]
      exact nofun

theorem Cadence.step (cadence : Cadence p done) (sound : p.Sound)
    (step : p.step lte event = some p') : Cadence p' (polls p (lte, event) p' done) := by
  cases event with
  | interval =>
      obtain rfl := Option.some.inj step
      exact cadence.refresh
  | click =>
      unfold Page.step at step
      dsimp only at step
      split at step <;> cases step
      exact ⟨cadence.counter, cadence.due, cadence.kept⟩
  | refreshed call ok => exact cadence.resumeRefresh sound step
  | handled call =>
      unfold Page.step at step
      dsimp only at step
      split at step <;> cases step
      · exact ⟨cadence.counter, cadence.due, cadence.kept⟩
      · exact ⟨cadence.counter, cadence.due, cadence.kept⟩
  | tested call raised => exact cadence.resumeTest step

end Details

/-- **One poll and one test at a time, and details with every sixteenth poll**: of the polls
that succeed, the first loads them, and then every sixteenth. -/
theorem page_polls {inputs : List (Dict × Event)} {s : Page × List Bool}
    (run : Run (page.withBooks [] polls) inputs s) :
    s.1.refreshes.length ≤ 1 ∧ s.1.tests.length ≤ 1 ∧ (s.1.tests ≠ [] → s.1.refresh = s.1) ∧
      (.details ∈ s.1.refreshes → s.2.length % 16 = 0) ∧
      ∀ i loaded, s.2[i]? = some loaded → (loaded = true ↔ i % 16 = 0) := by
  have inv : s.1.Sound ∧ Cadence s.1 s.2 := by
    refine run.invariant (I := fun s => s.1.Sound ∧ Cadence s.1 s.2) ⟨.loaded, .loaded⟩ ?_
    rintro s ⟨lte, event⟩ s' ⟨sound, cadence⟩ step
    obtain ⟨stepped, books⟩ := withBooks_step step
    rw [books]
    exact ⟨sound.step stepped, cadence.step sound stepped⟩
  obtain ⟨sound, cadence⟩ := inv
  refine ⟨?_, ?_, sound.refresh_testing, cadence.due, cadence.kept⟩
  · rw [sound.refreshes]
    exact Bool.toNat_le _
  · rw [sound.tests]
    exact Bool.toNat_le _

/-- A poll that loads the details, with a click in it, fifteen that do not, with one that
fails among them, and the next that does. -/
def polled : List (Dict × Event) :=
  let first : List Event :=
    [.click, .refreshed 0 true, .refreshed 0 true, .interval, .handled 0, .tested 0 none,
      .tested 0 none, .tested 0 (some "500"), .refreshed 0 true, .interval, .refreshed 0 false]
  let plain : List Event := (List.replicate 14 [.interval, .refreshed 0 true]).flatten
  let last : List Event := [.interval, .refreshed 0 true, .refreshed 0 true]
  (first ++ plain ++ last).map fun event => ([], event)

theorem page_polls_gap : ∃ s, Run (page.withBooks [] polls) polled s ∧
    s.2 = true :: (List.replicate 15 false ++ [true]) ∧
      s.1.refreshes.length ≤ 1 ∧ s.1.tests.length ≤ 1 ∧ (s.1.tests ≠ [] → s.1.refresh = s.1) ∧
      (.details ∈ s.1.refreshes → s.2.length % 16 = 0) ∧
      ∀ i loaded, s.2[i]? = some loaded → (loaded = true ↔ i % 16 = 0) :=
  have run := run_iff_exec.mpr rfl
  ⟨_, run, rfl, page_polls run⟩

end EdgeGateway.Panel
