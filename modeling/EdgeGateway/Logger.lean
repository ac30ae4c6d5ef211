import EdgeGateway.Json
import EdgeGateway.Lib.Ring
import EdgeGateway.Lib.Run
import Mathlib.Algebra.Order.Group.Int

/-!
The bounded log of `GatewayLogger`.

`_items` fills up to the capacity and is then overwritten from slot 0 on, the
oldest record standing in slot `_next`. `trim` copies the records it keeps to the
front of a new list. An index that does not exist makes an operation `none`.

`entries_eq_last` compares the log with a plain list of records (`records`), in
which an addition appends and keeps the last `capacity` ones: no operation
meets a missing index, and `entries` returns the end of that list. It rests on one
relation, `Holds`, that every addition and every `trim` keeps (`Holds.step`).
-/

namespace EdgeGateway.Logger

open EdgeGateway.Lib

/-! ### `GatewayLogger` -/

/-- `(iso_time(), level, str(message))`. -/
structure Entry where
  timestamp : String
  level : String
  message : String
deriving DecidableEq, Repr

structure GatewayLogger where
  capacity : Nat
  items : List Entry
  next : Nat
deriving DecidableEq, Repr

def GatewayLogger.init (capacity : Nat) : GatewayLogger := ⟨capacity, [], 0⟩

/-- `_add`, at a time. -/
def GatewayLogger.add (level now message : String) (g : GatewayLogger) : Option GatewayLogger :=
  let entry : Entry := ⟨now, level, message⟩
  if g.items.length < g.capacity then some { g with items := g.items ++ [entry] }
  else if g.next < g.items.length then
    some { g with items := g.items.set g.next entry, next := (g.next + 1) % g.capacity }
  else none

def GatewayLogger.info (now message : String) : GatewayLogger → Option GatewayLogger :=
  GatewayLogger.add "INFO" now message

def GatewayLogger.warning (now message : String) : GatewayLogger → Option GatewayLogger :=
  GatewayLogger.add "WARNING" now message

def GatewayLogger.error (now message : String) : GatewayLogger → Option GatewayLogger :=
  GatewayLogger.add "ERROR" now message

/-- `min(max(0, wanted), len(self._items))`. -/
def GatewayLogger.count (g : GatewayLogger) (wanted : Int) : Nat :=
  min (max 0 wanted).toNat g.items.length

/-- Where the last `count` records begin. -/
def GatewayLogger.start (g : GatewayLogger) (count : Nat) : Nat :=
  let total := g.items.length
  let oldest := if total = g.capacity then g.next else 0
  (oldest + total - count) % total

/-- A record as the API shows it. -/
def Entry.toDict (entry : Entry) : Dict :=
  [("timestamp", .str entry.timestamp), ("level", .str entry.level),
    ("message", .str entry.message)]

def GatewayLogger.entries (limit : Int) (g : GatewayLogger) : Option (List Dict) :=
  let count := g.count limit
  if count = 0 then some []
  else (window g.items (g.start count) count).map fun items => items.map Entry.toDict

def GatewayLogger.trim (keep : Int) (g : GatewayLogger) : Option GatewayLogger :=
  let count := g.count keep
  if count = g.items.length then some g
  else (window g.items (g.start count) count).map fun retained =>
    { g with items := retained, next := 0 }

/-! ### Runs, and the log they stand for -/

/-- A call that changes the log. -/
inductive Input where
  | info (now message : String)
  | warning (now message : String)
  | error (now message : String)
  | trim (keep : Int)
deriving Repr

def GatewayLogger.step (g : GatewayLogger) : Input → Option GatewayLogger
  | .info now message => g.info now message
  | .warning now message => g.warning now message
  | .error now message => g.error now message
  | .trim keep => g.trim keep

def system (capacity : Nat) : System GatewayLogger Input := ⟨.init capacity, GatewayLogger.step⟩

/-- The last `max(0, wanted)` records. -/
def latest (wanted : Int) (log : List Entry) : List Entry := log.rtake (max 0 wanted).toNat

/-- Append a record and keep the last `capacity`. -/
def append (capacity : Nat) (log : List Entry) (entry : Entry) : List Entry :=
  (log ++ [entry]).rtake capacity

/-- What a call does to a plain list of records, the oldest first. -/
def record (capacity : Nat) (log : List Entry) : Input → List Entry
  | .info now message => append capacity log ⟨now, "INFO", message⟩
  | .warning now message => append capacity log ⟨now, "WARNING", message⟩
  | .error now message => append capacity log ⟨now, "ERROR", message⟩
  | .trim keep => latest keep log

def records (capacity : Nat) (is : List Input) : List Entry := is.foldl (record capacity) []

/-! ### The relation between the two -/

/-- The ring `g` holds the records `log`. The write index leaves 0 only while the
ring is full, so it is where the contents begin in either case. -/
structure Holds (capacity : Nat) (g : GatewayLogger) (log : List Entry) : Prop where
  capacity_eq : g.capacity = capacity
  length_le : g.items.length ≤ capacity
  next_lt : g.next < capacity
  next_eq : g.items.length < capacity → g.next = 0
  contents : g.items.rotate g.next = log

section Holds

variable {capacity : Nat} {g : GatewayLogger} {log : List Entry}

theorem holds_init (pos : 1 ≤ capacity) : Holds capacity (.init capacity) [] where
  capacity_eq := rfl
  length_le := Nat.zero_le _
  next_lt := pos
  next_eq _ := rfl
  contents := rfl

theorem Holds.length_eq (holds : Holds capacity g log) : log.length = g.items.length := by
  rw [← holds.contents, List.length_rotate]

/-- A window that ends with the newest record. -/
theorem Holds.window_start (holds : Holds capacity g log) {count : Nat}
    (inside : count ≤ g.items.length) :
    window g.items (g.start count) count = some (log.rtake count) := by
  have oldest : (if g.items.length = g.capacity then g.next else 0) = g.next := by
    by_cases full : g.items.length = g.capacity
    · rw [if_pos full]
    · rw [if_neg full]
      apply (holds.next_eq _).symm
      exact lt_of_le_of_ne holds.length_le fun same => full (same.trans holds.capacity_eq.symm)
  unfold GatewayLogger.start
  dsimp only
  rw [oldest, window_last g.next inside, holds.contents]

theorem Holds.rtake_count (holds : Holds capacity g log) (wanted : Int) :
    log.rtake (g.count wanted) = latest wanted log := by
  unfold GatewayLogger.count latest
  rw [← holds.length_eq, rtake_min_length]

theorem GatewayLogger.count_le (g : GatewayLogger) (wanted : Int) :
    g.count wanted ≤ g.items.length :=
  Nat.min_le_right _ _

/-- An addition appends, and a full ring gives up its oldest record. -/
theorem Holds.add (holds : Holds capacity g log) (level now message : String) :
    ∃ g', g.add level now message = some g' ∧
      Holds capacity g' (append capacity log ⟨now, level, message⟩) := by
  have length := holds.length_eq
  unfold GatewayLogger.add append
  by_cases room : g.items.length < g.capacity
  · have zero : g.next = 0 := holds.next_eq (holds.capacity_eq ▸ room)
    have contents : g.items = log := by
      have same := holds.contents
      rwa [zero, List.rotate_zero] at same
    have fits : (log ++ [(⟨now, level, message⟩ : Entry)]).length ≤ capacity := by
      rw [List.length_append, List.length_singleton, ← holds.capacity_eq, length]
      exact room
    refine ⟨_, if_pos room, ?_⟩
    rw [rtake_of_length_le fits]
    constructor
    · exact holds.capacity_eq
    · rw [contents]
      exact fits
    · exact holds.next_lt
    · exact fun _ => zero
    · rw [zero, List.rotate_zero, contents]
  · have full : g.items.length = capacity := by
      apply le_antisymm holds.length_le
      rw [← holds.capacity_eq]
      exact not_lt.mp room
    have inside : g.next < g.items.length := full ▸ holds.next_lt
    have pos : 0 < capacity := Nat.zero_lt_of_lt holds.next_lt
    refine ⟨_, by rw [if_neg room, if_pos inside], ?_⟩
    rw [rtake_concat (length.trans full) pos]
    constructor
    · exact holds.capacity_eq
    · rw [List.length_set, full]
    · rw [holds.capacity_eq]
      exact Nat.mod_lt _ pos
    · intro short
      rw [List.length_set, full] at short
      exact absurd short (lt_irrefl _)
    · have turn := List.rotate_mod (g.items.set g.next ⟨now, level, message⟩) (g.next + 1)
      rw [List.length_set, full, ← holds.capacity_eq] at turn
      rw [turn, rotate_set_succ inside, holds.contents]

/-- `trim` keeps the last records, and a ring that loses none stays as it is. -/
theorem Holds.trim (holds : Holds capacity g log) (keep : Int) :
    ∃ g', g.trim keep = some g' ∧ Holds capacity g' (latest keep log) := by
  have inside := g.count_le keep
  unfold GatewayLogger.trim
  dsimp only
  rw [← holds.rtake_count keep]
  by_cases whole : g.count keep = g.items.length
  · refine ⟨g, if_pos whole, ?_⟩
    rw [whole, rtake_of_length_le holds.length_eq.le]
    exact holds
  · refine ⟨_, by rw [if_neg whole, holds.window_start inside, Option.map_some], ?_⟩
    constructor
    · exact holds.capacity_eq
    · rw [length_rtake, holds.length_eq]
      exact (Nat.min_le_right _ _).trans holds.length_le
    · exact Nat.zero_lt_of_lt holds.next_lt
    · exact fun _ => rfl
    · exact List.rotate_zero _

theorem Holds.entries (holds : Holds capacity g log) (limit : Int) :
    g.entries limit = some ((latest limit log).map Entry.toDict) := by
  unfold GatewayLogger.entries
  dsimp only
  rw [← holds.rtake_count limit]
  by_cases none : g.count limit = 0
  · rw [if_pos none, none, List.rtake_zero, List.map_nil]
  · rw [if_neg none, holds.window_start (g.count_le limit), Option.map_some]

/-- No call meets a missing index, and each does to the ring what it does to the list. -/
theorem Holds.step (holds : Holds capacity g log) (i : Input) :
    ∃ g', g.step i = some g' ∧ Holds capacity g' (record capacity log i) := by
  cases i with
  | info now message => exact holds.add "INFO" now message
  | warning now message => exact holds.add "WARNING" now message
  | error now message => exact holds.add "ERROR" now message
  | trim keep => exact holds.trim keep

end Holds

/-- Every sequence of calls runs, and leads to a ring that holds its records. -/
theorem run_holds {capacity : Nat} (pos : 1 ≤ capacity) (is : List Input) :
    ∃ g, Run (system capacity) is g ∧ Holds capacity g (records capacity is) := by
  induction is using List.reverseRecOn with
  | nil => exact ⟨_, .start, holds_init pos⟩
  | append_singleton is i ih =>
      obtain ⟨g, run, holds⟩ := ih
      obtain ⟨g', stepped, holds'⟩ := holds.step i
      refine ⟨g', .next run stepped, ?_⟩
      unfold records at holds' ⊢
      rw [List.foldl_append]
      exact holds'

/-- **The ring is a bounded list.** Whatever was logged and trimmed before, no
index is out of range, and `entries` returns the last records, the oldest first. -/
theorem entries_eq_last {capacity : Nat} (pos : 1 ≤ capacity) (is : List Input) (limit : Int) :
    ∃ g, Run (system capacity) is g ∧
      g.entries limit = some ((latest limit (records capacity is)).map Entry.toDict) := by
  obtain ⟨g, run, holds⟩ := run_holds pos is
  exact ⟨g, run, holds.entries limit⟩

/-- A ring of two that wrapped around, was trimmed and filled again. -/
theorem entries_eq_last_wrapped :
    (1 : Nat) ≤ 2 ∧
      ∃ g, Run (system 2) [.info "t1" "a", .error "t2" "b", .warning "t3" "c", .trim 2, .trim 1,
          .info "t4" "d"] g ∧
        g.entries 50 =
          some ([Entry.mk "t3" "WARNING" "c", Entry.mk "t4" "INFO" "d"].map Entry.toDict) :=
  ⟨by decide, entries_eq_last (by decide) _ 50⟩

end EdgeGateway.Logger
