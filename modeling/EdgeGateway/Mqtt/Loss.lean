import EdgeGateway.Mqtt.Custody
import EdgeGateway.Mqtt.Ledger

/-!
What the publisher loses and what it sends twice, over all runs.

`start` picks the head of the queue, suspends in `_publish`, and pops the head
by position. The runs that keep every event and response are exactly those
guarded by `ImportantGuard` (`important_kept_iff`); the runs that keep every
newest value are exactly those guarded by `NewestGuard` (`newest_kept_iff`). A
run in which no publish raises sends every message at most once if it is guarded
by `OnceGuard` (`passed_once`). Each guard is needed: the runs that follow the
theorems break it and lose an event, lose a value, and send a value twice.
-/

namespace EdgeGateway.Mqtt

open EdgeGateway.Lib

variable {cfg : Config} {codec : Codec} {is : List Input} {last : Ledger}

theorem important_rule (capacity : Nat) : Rule capacity ImportantInv ImportantGuard where
  empty := .empty
  keeps := fun sound inv guard move => inv.move sound guard move
  pick := fun _ => trivial

theorem newest_rule (capacity : Nat) : Rule capacity NewestInv NewestGuard where
  empty := .empty
  keeps := fun sound inv guard move => inv.move sound guard move
  pick := fun _ => trivial

theorem once_rule (capacity : Nat) :
    Rule capacity OnceInv fun d act => NoAbandon d act ∧ OnceGuard d act where
  empty := .empty
  keeps := fun sound inv guard move => inv.move sound guard move
  pick := fun _ => ⟨trivial, trivial⟩

/-- A pick does not decide a property that looks past the flight. -/
theorem Move.pick_steady {goal : Desk → Prop}
    (same : ∀ head rest history, goal ⟨head :: rest, some head, History.pick head history⟩ →
      goal ⟨head :: rest, none, history⟩) {capacity : Nat} {d d' : Desk}
    (move : Move capacity d .pick d') (holds : goal d') : goal d := by
  cases move with
  | pick => exact same _ _ _ holds

/-! ### Runs that show the guards are needed -/

/-- The pending await returns, with the modem up. -/
def done : Input :=
  .resume ⟨true, true⟩ ⟨"2024-01-01T00:00:00Z", 60, 100000, "HOME", some (-71), none⟩
    (.returned none)

def reading (payload : String) : Input := .enqueue payload (.dict [("data_class", .str "fast")])

def alarm (payload : String) : Input := .enqueue payload (.dict [("message_type", .str "event")])

/-- A reading is queued, the publisher connects, and the reading is in flight. -/
def flight : List Input := [reading "21.5", done, done, done]

/-- The pending await raises. -/
def fails : Input :=
  .resume ⟨true, true⟩ ⟨"2024-01-01T00:00:00Z", 60, 100000, "HOME", some (-71), none⟩
    (.raised (.osError "+CMQTTPUB: operation failed"))

def slowReading (payload : String) : Input :=
  .enqueue payload (.dict [("data_class", .str "slow")])

/-- Two readings and an alarm are queued. While the alarm is in flight, a newer reading
replaces one of the queued ones, and a second alarm comes in. -/
def rush : List Input :=
  [reading "21.5", alarm "overheat", slowReading "7.1", done, done, done, reading "22.0",
    alarm "restart"]

/-- Everything gets out, with a newer reading in between. -/
def calm : List Input := rush ++ [done, reading "22.5", done, done, done]

/-- The same with a publish that fails, and a new session. -/
def troubled : List Input :=
  rush ++ [fails, done, done, done, done, done, reading "22.5", done, done, done]

/-- The ledger while that alarm is in flight. -/
def rushLedger : Ledger := ((publisher .shipped idleCodec).exec rush).get (by decide)

theorem rush_run : Run (publisher .shipped idleCodec) rush rushLedger :=
  run_iff_exec.mpr (Option.some_get _).symm

def calmLedger : Ledger := ((publisher .shipped idleCodec).exec calm).get (by decide)

def troubledLedger : Ledger := ((publisher .shipped idleCodec).exec troubled).get (by decide)

theorem calm_run : Run (publisher .shipped idleCodec) calm calmLedger :=
  run_iff_exec.mpr (Option.some_get _).symm

theorem troubled_run : Run (publisher .shipped idleCodec) troubled troubledLedger :=
  run_iff_exec.mpr (Option.some_get _).symm

/-! ### Events and responses -/

/-- **Events and responses are kept all along a run exactly when its deliveries
and offers are guarded.** -/
theorem important_kept_iff (run : Run (publisher cfg codec) is last) :
    Always (publisher cfg codec) (fun l => ImportantKept l.desk) is ↔
      EachStep (publisher cfg codec) (Guarded cfg codec ImportantGuard) is :=
  (important_rule cfg.queueCapacity).exact (fun _ inv => inv.kept)
    (fun sound inv unguarded move => ImportantGuard.breaks sound inv unguarded move)
    (Move.pick_steady fun _ _ _ kept => kept) run

theorem important_kept_iff_troubled :
    Always (publisher .shipped idleCodec) (fun l => ImportantKept l.desk) troubled :=
  (important_kept_iff troubled_run).mpr (eachStep_of_checks (by decide))

/-- An alarm goes in ahead of the reading in flight, and the publish of the
reading takes the alarm out. -/
theorem alarm_lost :
    ∃ l, Run (publisher .shipped idleCodec) (flight ++ [alarm "overheat", done]) l ∧
      ¬ ImportantKept l.desk :=
  ⟨_, run_iff_exec.mpr rfl, by decide⟩

/-! ### Latest values -/

/-- **Newest values are kept all along a run exactly when no delivery finds the
head overwritten.** -/
theorem newest_kept_iff (run : Run (publisher cfg codec) is last) :
    Always (publisher cfg codec) (fun l => NewestKept l.desk) is ↔
      EachStep (publisher cfg codec) (Guarded cfg codec NewestGuard) is :=
  (newest_rule cfg.queueCapacity).exact (fun _ inv => inv.kept)
    (fun sound inv unguarded move => NewestGuard.breaks sound inv unguarded move)
    (Move.pick_steady fun _ _ _ kept => kept) run

theorem newest_kept_iff_troubled :
    Always (publisher .shipped idleCodec) (fun l => NewestKept l.desk) troubled :=
  (newest_kept_iff troubled_run).mpr (eachStep_of_checks (by decide))

/-- A second reading is coalesced over the first one in flight, and the publish
of the first takes the second out. -/
theorem reading_lost :
    ∃ l, Run (publisher .shipped idleCodec) (flight ++ [reading "22.0", done]) l ∧
      ¬ NewestKept l.desk :=
  ⟨_, run_iff_exec.mpr rfl, by decide⟩

/-! ### Single transmission -/

/-- **Where no publish raises, a guarded run passes every message to `_publish`
at most once.** -/
theorem passed_once (run : Run (publisher cfg codec) is last)
    (noRaise : EachStep (publisher cfg codec) (Guarded cfg codec NoAbandon) is)
    (guarded : EachStep (publisher cfg codec) (Guarded cfg codec OnceGuard) is) :
    PassedOnce last.desk := by
  have both : EachStep (publisher cfg codec)
      (Guarded cfg codec fun d act => NoAbandon d act ∧ OnceGuard d act) is :=
    fun js i s pre runS act isAct =>
      ⟨noRaise js i s pre runS act isAct, guarded js i s pre runS act isAct⟩
  exact ((once_rule cfg.queueCapacity).holds run both).2.once

theorem passed_once_calm : PassedOnce calmLedger.desk ∧ calmLedger.history.published.length = 4 :=
  ⟨passed_once calm_run (eachStep_of_checks (by decide)) (eachStep_of_checks (by decide)),
    by decide⟩

/-- An alarm goes in ahead of the reading in flight; the publish takes the alarm
out, and the reading is picked again. -/
theorem reading_sent_twice :
    ∃ l, Run (publisher .shipped idleCodec) (flight ++ [alarm "overheat", done]) l ∧
      EachStep (publisher .shipped idleCodec) (Guarded .shipped idleCodec NoAbandon)
        (flight ++ [alarm "overheat", done]) ∧
      ¬ PassedOnce l.desk := by
  exact ⟨_, run_iff_exec.mpr rfl, eachStep_of_checks (by decide), by decide⟩

end EdgeGateway.Mqtt
