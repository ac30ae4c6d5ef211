import EdgeGateway.Logger

/-!
The loop of `start_gateway`, which watches the heap and releases old log records.

A pass of the loop reads the free memory once. Below 45000 bytes it trims the log to its
newest 25 records; below 55000 bytes it warns, unless it has warned since the memory was
last sufficient. Between the passes the tasks of the gateway log what they like.

`guard_log`: neither the loop nor a task ever meets a missing index, each stretch of
readings under pressure is warned of once, by its first reading, and under critical
pressure the log holds no more than 26 records and what has come since.
-/

namespace EdgeGateway.Guard

open EdgeGateway.Lib EdgeGateway.Logger

/-! ### The loop -/

/-- A pass of the loop, with what `gc.mem_free()` returned: its calls of the log, and
`memory_warning_active`. -/
def pass (now : String) (freeMemory : Nat) (memoryWarningActive : Bool) :
    List Logger.Input × Bool :=
  if freeMemory < 45000 then
    -- A warning of low memory stands for the critical one as well.
    (.trim 25 :: if memoryWarningActive then []
      else [.warning now "Critical heap pressure; old logs released"], true)
  else if freeMemory < 55000 then
    (if memoryWarningActive then []
      else [.warning now ("Low heap memory: " ++ toString freeMemory ++ " bytes")], true)
  else ([], false)

/-- A task calls the log, or the loop comes round. -/
inductive Event where
  | task (call : Logger.Input)
  | pass (now : String) (freeMemory : Nat)
deriving Repr

def Event.calls (memoryWarningActive : Bool) : Event → List Logger.Input × Bool
  | .task call => ([call], memoryWarningActive)
  | .pass now freeMemory => Guard.pass now freeMemory memoryWarningActive

structure Gateway where
  log : GatewayLogger
  memoryWarningActive : Bool
deriving DecidableEq, Repr

def Gateway.step (g : Gateway) (event : Event) : Option Gateway :=
  let (calls, memoryWarningActive) := event.calls g.memoryWarningActive
  (calls.foldlM GatewayLogger.step g.log).map fun log => ⟨log, memoryWarningActive⟩

def gateway (capacity : Nat) : System Gateway Event := ⟨⟨.init capacity, false⟩, Gateway.step⟩

/-! ### Books -/

/-- All calls of the log, and the warnings of the loop. -/
structure LogBooks where
  calls : List Logger.Input
  warnings : List String
deriving Repr

def warning? : Logger.Input → Option String
  | .warning _ message => some message
  | .info _ _ | .error _ _ | .trim _ => none

def Event.warnings (memoryWarningActive : Bool) : Event → List String
  | .task _ => []
  | .pass now freeMemory => (Guard.pass now freeMemory memoryWarningActive).1.filterMap warning?

def LogBooks.book (g : Gateway) (event : Event) (_ : Gateway) (books : LogBooks) : LogBooks where
  calls := books.calls ++ (event.calls g.memoryWarningActive).1
  warnings := books.warnings ++ event.warnings g.memoryWarningActive

def bookedGateway (capacity : Nat) : System (Gateway × LogBooks) Event :=
  (gateway capacity).withBooks ⟨[], []⟩ LogBooks.book

/-! ### Stretches of pressure -/

/-- The readings of the free memory. -/
def readings (events : List Event) : List Nat :=
  events.filterMap fun
    | .task _ => none
    | .pass _ freeMemory => some freeMemory

/-- The first reading of each stretch below 55000 bytes. -/
def onsets (readings : List Nat) : List Nat :=
  (readings.splitOnP (55000 ≤ ·)).filterMap List.head?

/-- What a stretch is warned of with. -/
def notice (freeMemory : Nat) : String :=
  if freeMemory < 45000 then "Critical heap pressure; old logs released"
  else "Low heap memory: " ++ toString freeMemory ++ " bytes"

/-- The onsets, where the reading before was under pressure or not. -/
def onsetsBehind (pressed : Bool) (readings : List Nat) : List Nat :=
  if pressed then (readings.splitOnP (55000 ≤ ·)).tail.filterMap List.head? else onsets readings

theorem onsetsBehind_low {reading : Nat} (low : reading < 55000) (pressed : Bool)
    (rest : List Nat) :
    onsetsBehind pressed (reading :: rest) =
      (if pressed then [] else [reading]) ++ onsetsBehind true rest := by
  have inside : ¬ (decide (55000 ≤ reading)) = true := by
    rw [decide_eq_true_iff]
    omega
  obtain ⟨first, later, split⟩ := List.exists_cons_of_ne_nil
    (List.splitOnP_ne_nil (55000 ≤ ·) rest)
  unfold onsetsBehind onsets
  rw [List.splitOnP_cons_eq_if_modifyHead, if_neg inside, split]
  cases pressed with
  | true => rfl
  | false => rfl

theorem onsetsBehind_high {reading : Nat} (high : 55000 ≤ reading) (pressed : Bool)
    (rest : List Nat) : onsetsBehind pressed (reading :: rest) = onsetsBehind false rest := by
  unfold onsetsBehind onsets
  rw [List.splitOnP_cons_eq_if_modifyHead, if_pos (decide_eq_true high)]
  cases pressed with
  | true => rfl
  | false => rfl

/-- **A pass trims under critical pressure, and warns where pressure begins.** -/
theorem pass_eq (now : String) (freeMemory : Nat) (active : Bool) :
    pass now freeMemory active =
      ((if freeMemory < 45000 then [.trim 25] else []) ++
        (if freeMemory < 55000 ∧ active = false then [.warning now (notice freeMemory)] else []),
        decide (freeMemory < 55000)) := by
  unfold pass notice
  by_cases critical : freeMemory < 45000
  · have low : freeMemory < 55000 := by omega
    cases active with
    | true => simp [critical, low]
    | false => simp [critical, low]
  · by_cases low : freeMemory < 55000
    · cases active with
      | true => simp [critical, low]
      | false => simp [critical, low]
    · simp [critical, low]

/-- The warning of a pass. -/
theorem filterMap_pass (now : String) (freeMemory : Nat) (active : Bool) :
    (pass now freeMemory active).1.filterMap warning? =
      if freeMemory < 55000 ∧ active = false then [notice freeMemory] else [] := by
  have trims : (if freeMemory < 45000 then [Logger.Input.trim 25] else []).filterMap warning? =
      [] := by
    split
    · rfl
    · rfl
  rw [pass_eq]
  dsimp only
  rw [List.filterMap_append, trims, List.nil_append]
  split
  · rfl
  · rfl

/-- The warnings of the loop are those of the onsets. -/
theorem Event.warnings_onsets (event : Event) (active : Bool) (later : List Event) :
    (onsetsBehind active (readings (event :: later))).map notice =
      event.warnings active ++
        (onsetsBehind (event.calls active).2 (readings later)).map notice := by
  cases event with
  | task call => rfl
  | pass now freeMemory =>
      have head : readings (.pass now freeMemory :: later) = freeMemory :: readings later := rfl
      rw [head]
      unfold Event.warnings Event.calls
      dsimp only
      rw [filterMap_pass, pass_eq]
      dsimp only
      by_cases low : freeMemory < 55000
      · rw [onsetsBehind_low low, decide_eq_true low, List.map_append]
        cases active with
        | true => simp
        | false => simp [low]
      · rw [onsetsBehind_high (Nat.le_of_not_lt low), decide_eq_false low,
          if_neg fun both => low both.1]
        rfl

/-! ### The log -/

theorem length_append_le (capacity : Nat) (log : List Entry) (entry : Entry) :
    (Logger.append capacity log entry).length ≤ log.length + 1 := by
  unfold Logger.append
  rw [length_rtake, List.length_append, List.length_singleton]
  exact Nat.min_le_right _ _

/-- What a pass leaves of the log, and its warning. -/
theorem length_pass_le (capacity : Nat) (log : List Entry) (now : String) (freeMemory : Nat)
    (active : Bool) :
    ((pass now freeMemory active).1.foldl (record capacity) log).length ≤
      (if freeMemory < 45000 then min 25 log.length else log.length) + 1 := by
  rw [pass_eq]
  dsimp only
  rw [List.foldl_append]
  have kept : ((if freeMemory < 45000 then [Logger.Input.trim 25] else []).foldl
      (record capacity) log).length =
      if freeMemory < 45000 then min 25 log.length else log.length := by
    by_cases critical : freeMemory < 45000
    · rw [if_pos critical, if_pos critical]
      exact length_rtake log 25
    · rw [if_neg critical, if_neg critical]
      rfl
  rw [← kept]
  by_cases warns : freeMemory < 55000 ∧ active = false
  · rw [if_pos warns]
    exact length_append_le capacity _ _
  · rw [if_neg warns]
    exact Nat.le_succ _

/-- An event adds one record at most. -/
theorem Event.length_le (capacity : Nat) (log : List Entry) (active : Bool) (event : Event) :
    ((event.calls active).1.foldl (record capacity) log).length ≤ log.length + 1 := by
  cases event with
  | pass now freeMemory =>
      have bound := length_pass_le capacity log now freeMemory active
      refine bound.trans (Nat.succ_le_succ ?_)
      split
      · exact Nat.min_le_right _ _
      · exact Nat.le_refl _
  | task call =>
      cases call with
      | trim keep =>
          have shorter : (latest keep log).length ≤ log.length := by
            unfold latest
            rw [length_rtake]
            exact Nat.min_le_right _ _
          exact Nat.le_succ_of_le shorter
      | info now message => exact length_append_le capacity log _
      | warning now message => exact length_append_le capacity log _
      | error now message => exact length_append_le capacity log _

section Runs

variable {capacity : Nat} {g : Gateway} {books : LogBooks}

theorem foldlM_holds {ring : GatewayLogger} {log : List Entry} (calls : List Logger.Input)
    (holds : Holds capacity ring log) :
    ∃ ring', calls.foldlM GatewayLogger.step ring = some ring' ∧
      Holds capacity ring' (calls.foldl (record capacity) log) := by
  induction calls generalizing ring log with
  | nil => exact ⟨ring, rfl, holds⟩
  | cons call calls ih =>
      obtain ⟨ring', stepped, holds'⟩ := holds.step call
      obtain ⟨last, performed, whole⟩ := ih holds'
      refine ⟨last, ?_, whole⟩
      rw [List.foldlM_cons, stepped]
      exact performed

/-- The log is that of the calls in the books. -/
def Booked (capacity : Nat) (s : Gateway × LogBooks) : Prop :=
  Holds capacity s.1.log (records capacity s.2.calls)

theorem start_booked (pos : 1 ≤ capacity) :
    Booked capacity (⟨.init capacity, false⟩, ⟨[], []⟩) :=
  holds_init pos

theorem records_book (event : Event) (g' : Gateway) :
    records capacity (LogBooks.book g event g' books).calls =
      (event.calls g.memoryWarningActive).1.foldl (record capacity)
        (records capacity books.calls) := by
  unfold LogBooks.book records
  rw [List.foldl_append]

/-- Every event is performed, and adds its calls and its warnings. -/
theorem step_booked (event : Event) (booked : Booked capacity (g, books)) :
    ∃ g', (bookedGateway capacity).step (g, books) event =
        some (g', LogBooks.book g event g' books) ∧
      Booked capacity (g', LogBooks.book g event g' books) ∧
      g'.memoryWarningActive = (event.calls g.memoryWarningActive).2 := by
  obtain ⟨ring, performed, holds⟩ :=
    foldlM_holds (event.calls g.memoryWarningActive).1 booked
  have stepped : g.step event = some ⟨ring, (event.calls g.memoryWarningActive).2⟩ :=
    Option.map_eq_some_iff.mpr ⟨ring, performed, rfl⟩
  refine ⟨_, Option.map_eq_some_iff.mpr ⟨_, stepped, rfl⟩, ?_, rfl⟩
  unfold Booked
  rw [records_book]
  exact holds

/-- From any state whose log is that of its books, every sequence of events runs. -/
theorem foldlM_booked (events : List Event) (booked : Booked capacity (g, books)) :
    ∃ g' books', events.foldlM (bookedGateway capacity).step (g, books) = some (g', books') ∧
      Booked capacity (g', books') ∧
      books'.warnings = books.warnings ++
        (onsetsBehind g.memoryWarningActive (readings events)).map notice ∧
      (records capacity books'.calls).length ≤
        (records capacity books.calls).length + events.length := by
  induction events generalizing g books with
  | nil =>
      refine ⟨g, books, rfl, booked, ?_, Nat.le_refl _⟩
      cases active : g.memoryWarningActive with
      | true => exact (List.append_nil _).symm
      | false => exact (List.append_nil _).symm
  | cons event events ih =>
      obtain ⟨g', stepped, booked', active⟩ := step_booked event booked
      obtain ⟨last, books', ran, whole, warnings, length⟩ := ih booked'
      refine ⟨last, books', ?_, whole, ?_, ?_⟩
      · rw [List.foldlM_cons, stepped]
        exact ran
      · rw [warnings, event.warnings_onsets, active, ← List.append_assoc]
        rfl
      · have one := Event.length_le capacity (records capacity books.calls)
          g.memoryWarningActive event
        rw [records_book] at length
        rw [List.length_cons]
        omega

/-- Behind a critical reading. -/
theorem length_behind_critical {now : String} {freeMemory : Nat} {before after : List Event}
    {s : Gateway × LogBooks} (pos : 1 ≤ capacity) (critical : freeMemory < 45000)
    (run : Run (bookedGateway capacity) (before ++ .pass now freeMemory :: after) s) :
    (records capacity s.2.calls).length ≤ 26 + after.length := by
  obtain ⟨g₁, books₁, ran₁, booked₁, -⟩ := foldlM_booked before (start_booked pos)
  obtain ⟨g₂, stepped, booked₂, -⟩ := step_booked (.pass now freeMemory) booked₁
  obtain ⟨g₃, books₃, ran₃, -, -, length⟩ := foldlM_booked after booked₂
  have whole : s = (g₃, books₃) := by
    apply run.unique
    apply run_iff_exec.mpr
    unfold System.exec
    have init : (bookedGateway capacity).init = (⟨.init capacity, false⟩, ⟨[], []⟩) := rfl
    rw [List.foldlM_append, init, ran₁, Option.bind_eq_bind, Option.bind_some, List.foldlM_cons,
      stepped]
    exact ran₃
  have trimmed := length_pass_le capacity (records capacity books₁.calls) now freeMemory
    g₁.memoryWarningActive
  rw [if_pos critical] at trimmed
  rw [whole]
  rw [records_book] at length
  have least : min 25 (records capacity books₁.calls).length ≤ 25 := Nat.min_le_left _ _
  exact length.trans (Nat.add_le_add_right (trimmed.trans (by omega)) _)

end Runs

/-- **The log outlives every pressure, and each stretch of it is warned of once.** -/
theorem guard_log {capacity : Nat} (pos : 1 ≤ capacity) (events : List Event) :
    ∃ s, Run (bookedGateway capacity) events s ∧
      (∀ limit, s.1.log.entries limit =
        some ((latest limit (records capacity s.2.calls)).map Entry.toDict)) ∧
      s.2.warnings = (onsets (readings events)).map notice ∧
      ∀ before now freeMemory after, events = before ++ .pass now freeMemory :: after →
        freeMemory < 45000 → s.1.log.items.length ≤ 26 + after.length := by
  obtain ⟨g, books, ran, booked, warnings, -⟩ := foldlM_booked events (start_booked pos)
  have run : Run (bookedGateway capacity) events (g, books) := run_iff_exec.mpr ran
  refine ⟨(g, books), run, booked.entries, warnings, ?_⟩
  rintro before now freeMemory after rfl critical
  rw [← booked.length_eq]
  exact length_behind_critical pos critical run

/-- Two stretches of pressure, the first of which becomes critical. -/
theorem guard_log_twice :
    let events : List Event := [.task (.info "t1" "TCP server listening on port 5005"),
      .pass "t2" 52000, .pass "t3" 41000, .task (.error "t4" "HTTP request: timeout"),
      .pass "t5" 90000, .pass "t6" 44000]
    1 ≤ 500 ∧ onsets (readings events) = [52000, 44000] ∧
    ∃ s, Run (bookedGateway 500) events s ∧
      (∀ limit, s.1.log.entries limit =
        some ((latest limit (records 500 s.2.calls)).map Entry.toDict)) ∧
      s.2.warnings = (onsets (readings events)).map notice ∧
      ∀ before now freeMemory after, events = before ++ .pass now freeMemory :: after →
        freeMemory < 45000 → s.1.log.items.length ≤ 26 + after.length :=
  ⟨by decide, by decide, guard_log (by decide) _⟩

end EdgeGateway.Guard
