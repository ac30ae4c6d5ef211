import EdgeGateway.Lib.Run
import EdgeGateway.Lib.Ticks
import Mathlib.Data.List.GetD

/-!
The telemetry run of a client: `run` of `clients/main.py`, with `sleep_until`.

A run sends a planned number of packets, one in every interval, and then waits for the
end of its duration. It reads the time as ticks, sleeps at most 100 ms at once, and a
sleep may return late. What a send does is in `Tcp.Link`; here it takes any time and is
acknowledged or not.

`cadence_kept`: within half a tick period every packet is sent at its own time, counted
from the start of the run, or as soon as the packet before it is done with. Lateness
does not add up.
-/

namespace EdgeGateway.Simulation

open EdgeGateway.Lib

/-- The settings of `config.py` that the run reads. `planned` is a quotient. -/
structure Config where
  sendIntervalSeconds : Nat
  simulationDurationSeconds : Nat
  positive : 0 < sendIntervalSeconds
deriving DecidableEq, Repr

/-- The values of `config.example.py`. -/
def Config.shipped : Config := ⟨3, 3600, by decide⟩

def Config.intervalMs (cfg : Config) : Nat := cfg.sendIntervalSeconds * 1000

def Config.durationMs (cfg : Config) : Nat := cfg.simulationDurationSeconds * 1000

def Config.planned (cfg : Config) : Nat :=
  cfg.simulationDurationSeconds / cfg.sendIntervalSeconds

/-- From the start to the time of a packet, and behind the last packet to the end. -/
def Config.offset (cfg : Config) (sequence : Nat) : Nat :=
  if sequence ≤ cfg.planned then (sequence - 1) * cfg.intervalMs else cfg.durationMs

inductive Await where
  /-- in `sleep_ms` of `sleep_until`, ahead of a packet or behind the last one -/
  | sleeping (ms : Nat)
  /-- in `send_with_retry` -/
  | sending
  /-- the run is complete, and has logged its duration in seconds -/
  | finished (elapsed : Int)
deriving DecidableEq, Repr

/-- A run at a real time in milliseconds. -/
structure Client where
  now : Nat
  started : Nat
  sequence : Nat
  acknowledged : Nat
  failed : Nat
  pending : Await
deriving DecidableEq, Repr

/-- The head of the loop of `sleep_until`, and what follows it up to the next wait. -/
def Client.sleepUntil (cfg : Config) (s : Client) : Client :=
  let remaining := ticksDiff (ticksAdd s.started (cfg.offset s.sequence)) (ticksMs s.now)
  if remaining ≤ 0 then
    if s.sequence ≤ cfg.planned then { s with pending := .sending }
    else { s with pending := .finished (ticksDiff (ticksMs s.now) s.started / 1000) }
  else { s with pending := .sleeping (min remaining 100).toNat }

/-- The end of a wait. -/
inductive Input where
  /-- `sleep_ms` returns, so many milliseconds late -/
  | wake (late : Nat)
  /-- `send_with_retry` returns -/
  | sent (took : Nat) (ok : Bool)
deriving DecidableEq, Repr

def Client.step (cfg : Config) (s : Client) : Input → Option Client
  | .wake late =>
      match s.pending with
      | .sleeping ms => some (Client.sleepUntil cfg { s with now := s.now + ms + late })
      | .sending | .finished _ => none
  | .sent took ok =>
      match s.pending with
      | .sending => some (Client.sleepUntil cfg { s with
          now := s.now + took
          sequence := s.sequence + 1
          acknowledged := s.acknowledged + ok.toNat
          failed := s.failed + (!ok).toNat })
      | .sleeping _ | .finished _ => none

/-- A run that starts at a real time. -/
def Client.start (cfg : Config) (start : Nat) : Client :=
  Client.sleepUntil cfg ⟨start, ticksMs start, 1, 0, 0, .sending⟩

/-! ### The times of the packets -/

structure Times where
  begun : List Nat
  ended : List Nat
deriving DecidableEq, Repr

/-- The time at which a packet begins. -/
def Client.begins (s : Client) : List Nat :=
  if s.pending = .sending then [s.now] else []

def Times.book (_ : Client) (input : Input) (s' : Client) (b : Times) : Times where
  begun := b.begun ++ s'.begins
  ended := match input with
    | .wake _ => b.ended
    | .sent _ _ => b.ended ++ [s'.now]

/-- The run with the times of its packets. -/
def simulation (cfg : Config) (start : Nat) : System (Client × Times) Input :=
  (⟨Client.start cfg start, Client.step cfg⟩ : System Client Input).withBooks
    ⟨(Client.start cfg start).begins, []⟩ Times.book

/-- No sleep returns later than that. -/
def Prompt (late : Nat) (_ : Client × Times) : Input → Prop
  | .wake l => l ≤ late
  | .sent _ _ => True

instance (late : Nat) (s : Client × Times) : DecidablePred (Prompt late s)
  | .wake _ => inferInstanceAs (Decidable (_ ≤ _))
  | .sent _ _ => inferInstanceAs (Decidable True)

/-! ### One wait -/

section Wait

variable {cfg : Config} {start : Nat} {s : Client}

theorem Config.planned_le (cfg : Config) : cfg.planned * cfg.intervalMs ≤ cfg.durationMs := by
  unfold Config.intervalMs Config.durationMs
  rw [← Nat.mul_assoc]
  exact Nat.mul_le_mul_right _ (Nat.div_mul_le_self _ _)

theorem Config.offset_le (cfg : Config) (sequence : Nat) :
    cfg.offset sequence ≤ cfg.durationMs := by
  unfold Config.offset
  split
  · rename_i planned
    refine le_trans (Nat.mul_le_mul_right _ ?_) cfg.planned_le
    omega
  · exact le_refl _

/-- **A wait is for what is left to the time of the packet, or it is over.** -/
theorem Client.sleepUntil_cases (short : cfg.durationMs < tickPeriod / 2)
    (started : s.started = ticksMs start) (past : start ≤ s.now)
    (brief : s.now < start + tickPeriod / 2) :
    (∃ left, s.now + left = start + cfg.offset s.sequence ∧ 0 < left ∧
      s.sleepUntil cfg = { s with pending := .sleeping (min left 100) }) ∨
    start + cfg.offset s.sequence ≤ s.now ∧
      (s.sequence ≤ cfg.planned ∧ s.sleepUntil cfg = { s with pending := .sending } ∨
        cfg.planned < s.sequence ∧ s.sleepUntil cfg =
          { s with pending := .finished ((s.now - start) / 1000 : Nat) }) := by
  obtain ⟨elapsed, now⟩ := Nat.exists_eq_add_of_le past
  have near : cfg.offset s.sequence < tickPeriod / 2 :=
    Nat.lt_of_le_of_lt (cfg.offset_le _) short
  have remaining := ticksDiff_deadline start near (show elapsed < tickPeriod / 2 by omega)
  rw [← now, ← started] at remaining
  unfold Client.sleepUntil
  rw [remaining]
  by_cases late : cfg.offset s.sequence ≤ elapsed
  · right
    refine ⟨by omega, ?_⟩
    rw [if_pos (by omega)]
    by_cases planned : s.sequence ≤ cfg.planned
    · rw [if_pos planned]
      exact .inl ⟨planned, rfl⟩
    · rw [if_neg planned]
      refine .inr ⟨by omega, ?_⟩
      have duration : ticksDiff (ticksMs s.now) s.started = elapsed := by
        rw [now, started]
        exact (ticksDiff_eq_iff start elapsed).mpr (by omega)
      rw [duration, now, Nat.add_sub_cancel_left]
      rfl
  · left
    refine ⟨cfg.offset s.sequence - elapsed, by omega, by omega, ?_⟩
    rw [if_neg (by omega)]
    have whole : (min ((cfg.offset s.sequence : Int) - elapsed) 100).toNat =
        min (cfg.offset s.sequence - elapsed) 100 := by
      omega
    rw [whole]

end Wait

/-! ### Every run -/

/-- What a place says about the time. -/
def Client.Placed (cfg : Config) (start : Nat) (s : Client) : Prop :=
  match s.pending with
  | .sleeping ms => ∃ left, s.now + left = start + cfg.offset s.sequence ∧ 0 < left ∧
      ms = min left 100
  | .sending => s.sequence ≤ cfg.planned
  | .finished elapsed => cfg.planned < s.sequence ∧ start + cfg.durationMs ≤ s.now ∧
      elapsed = ((s.now - start) / 1000 : Nat)

/-- A packet is neither early nor later than the lateness of one sleep, unless the packet
before it lasts longer. -/
def Paced (cfg : Config) (start late : Nat) (b : Times) : Prop :=
  ∀ (k : Nat) (time : Nat), b.begun[k]? = some time → start + k * cfg.intervalMs ≤ time ∧
    time ≤ max (start + k * cfg.intervalMs + late) ((start :: b.ended).getD k start)

/-- What holds of a run between two waits. -/
structure Kept (cfg : Config) (start late : Nat) (s : Client) (b : Times) : Prop where
  started : s.started = ticksMs start
  past : start ≤ s.now
  sequence : s.sequence = b.ended.length + 1
  counted : s.acknowledged + s.failed = b.ended.length
  within : b.ended.length ≤ cfg.planned
  begun : b.begun.length = b.ended.length + s.begins.length
  placed : s.Placed cfg start
  paced : Paced cfg start late b

/-- The waits that are left, at most. -/
def Client.left (cfg : Config) (start : Nat) (s : Client) : Nat :=
  (start + cfg.durationMs - s.now) + (cfg.planned + 1 - s.sequence)

section Kept

variable {cfg : Config} {start late : Nat} {s s' : Client} {b : Times}

/-- A new wait begins, with the time that the last packet ended and the lateness of the
sleep behind it. -/
theorem Kept.sleepUntil (short : cfg.durationMs < tickPeriod / 2)
    (brief : s.now < start + tickPeriod / 2) (started : s.started = ticksMs start)
    (past : start ≤ s.now) (sequence : s.sequence = b.ended.length + 1)
    (counted : s.acknowledged + s.failed = b.ended.length) (within : b.ended.length ≤ cfg.planned)
    (begun : b.begun.length = b.ended.length) (paced : Paced cfg start late b)
    (prompt : s.now ≤ max (start + cfg.offset s.sequence + late)
      ((start :: b.ended).getD b.ended.length start)) :
    Kept cfg start late (s.sleepUntil cfg)
      { b with begun := b.begun ++ (s.sleepUntil cfg).begins } := by
  have offset : s.sequence ≤ cfg.planned →
      cfg.offset s.sequence = b.ended.length * cfg.intervalMs := by
    intro planned
    unfold Config.offset
    rw [if_pos planned, sequence, Nat.add_sub_cancel]
  obtain ⟨left, whole, positive, same⟩ | ⟨reached, ⟨planned, same⟩ | ⟨behind, same⟩⟩ :=
    Client.sleepUntil_cases short started past brief
  · rw [same]
    have none : Client.begins { s with pending := .sleeping (min left 100) } = [] := rfl
    rw [none, List.append_nil]
    exact ⟨started, past, sequence, counted, within, begun, ⟨left, whole, positive, rfl⟩, paced⟩
  · rw [same]
    have one : Client.begins { s with pending := .sending } = [s.now] := rfl
    rw [one]
    refine ⟨started, past, sequence, counted, within, ?_, planned, ?_⟩
    · rw [List.length_append, begun]
      rfl
    · intro k time at'
      by_cases before : k < b.begun.length
      · rw [List.getElem?_append_left before] at at'
        exact paced k time at'
      · rw [List.getElem?_append_right (by omega)] at at'
        obtain ⟨inside, here⟩ := List.getElem?_eq_some_iff.mp at'
        have last : k = b.ended.length := by
          rw [List.length_singleton] at inside
          omega
        obtain rfl : s.now = time := by simpa using here
        rw [last, ← offset planned]
        exact ⟨reached, prompt⟩
  · rw [same]
    have none : Client.begins
        { s with pending := .finished ((s.now - start) / 1000 : Nat) } = [] := rfl
    rw [none, List.append_nil]
    have ends : cfg.offset s.sequence = cfg.durationMs := if_neg (by omega)
    rw [ends] at reached
    exact ⟨started, past, sequence, counted, within, begun, ⟨behind, reached, rfl⟩, paced⟩

theorem Client.sleepUntil_now (cfg : Config) (s : Client) : (s.sleepUntil cfg).now = s.now := by
  unfold Client.sleepUntil
  dsimp only
  split
  · split <;> rfl
  · rfl

theorem Client.sleepUntil_sequence (cfg : Config) (s : Client) :
    (s.sleepUntil cfg).sequence = s.sequence := by
  unfold Client.sleepUntil
  dsimp only
  split
  · split <;> rfl
  · rfl

/-- Times that go on keep the pace of the packets that have begun. -/
theorem Paced.ended (paced : Paced cfg start late b) (begun : b.begun.length ≤ b.ended.length + 1)
    (time : Nat) : Paced cfg start late { b with ended := b.ended ++ [time] } := by
  intro k t at'
  obtain ⟨inside, -⟩ := List.getElem?_eq_some_iff.mp at'
  have same : (start :: (b.ended ++ [time])).getD k start = (start :: b.ended).getD k start := by
    have before : k < (start :: b.ended).length := by
      rw [List.length_cons]
      exact Nat.lt_of_lt_of_le inside begun
    rw [← List.cons_append, List.getD_append _ _ _ _ before]
  dsimp only
  rw [same]
  exact paced k t at'

theorem Kept.init (short : cfg.durationMs < tickPeriod / 2) :
    Kept cfg start late (Client.start cfg start) ⟨(Client.start cfg start).begins, []⟩ :=
  Kept.sleepUntil (s := ⟨start, ticksMs start, 1, 0, 0, .sending⟩) (b := ⟨[], []⟩) short
    (Nat.lt_add_of_pos_right (by decide)) rfl (le_refl _) rfl rfl (Nat.zero_le _) rfl nofun
    (le_max_right _ _)

/-- A wait ends in its place. -/
theorem Client.step_cases {input : Input} (step : s.step cfg input = some s') :
    (∃ ms l, s.pending = .sleeping ms ∧ input = .wake l ∧
      s' = Client.sleepUntil cfg { s with now := s.now + ms + l }) ∨
    ∃ took ok, s.pending = .sending ∧ input = .sent took ok ∧
      s' = Client.sleepUntil cfg { s with
        now := s.now + took
        sequence := s.sequence + 1
        acknowledged := s.acknowledged + ok.toNat
        failed := s.failed + (!ok).toNat } := by
  unfold Client.step at step
  split at step
  · split at step <;> cases step
    rename_i ms pending
    exact .inl ⟨ms, _, pending, rfl, rfl⟩
  · split at step <;> cases step
    rename_i pending
    exact .inr ⟨_, _, pending, rfl, rfl⟩

theorem Client.now_le {input : Input} (step : s.step cfg input = some s') : s.now ≤ s'.now := by
  obtain ⟨ms, l, -, -, rfl⟩ | ⟨took, ok, -, -, rfl⟩ := Client.step_cases step
  · rw [Client.sleepUntil_now]
    exact Nat.le_trans (Nat.le_add_right _ _) (Nat.le_add_right _ _)
  · rw [Client.sleepUntil_now]
    exact Nat.le_add_right _ _

theorem Kept.begun_le (kept : Kept cfg start late s b) : b.begun.length ≤ cfg.planned := by
  have begun := kept.begun
  have placed := kept.placed
  unfold Client.begins at begun
  by_cases sending : s.pending = .sending
  · unfold Client.Placed at placed
    rw [sending] at placed
    rw [if_pos sending] at begun
    rw [begun, List.length_singleton, ← kept.sequence]
    exact placed
  · rw [if_neg sending] at begun
    rw [begun]
    exact kept.within

/-- **One wait.** It brings the end nearer, and the packet behind it is in time. -/
theorem Kept.step {input : Input} {books : Times} (kept : Kept cfg start late s b)
    (short : cfg.durationMs < tickPeriod / 2) (prompt : Prompt late (s, books) input)
    (step : s.step cfg input = some s') (brief : s'.now < start + tickPeriod / 2) :
    Kept cfg start late s' (b.book s input s') ∧ s'.left cfg start < s.left cfg start := by
  have placed := kept.placed
  have begun := kept.begun
  unfold Client.Placed at placed
  unfold Client.begins at begun
  obtain ⟨ms, l, pending, rfl, rfl⟩ | ⟨took, ok, pending, rfl, rfl⟩ := Client.step_cases step
  · rw [pending] at placed begun
    obtain ⟨left, whole, positive, rfl⟩ := placed
    rw [Client.sleepUntil_now] at brief
    have soon : l ≤ late := prompt
    have ahead := cfg.offset_le s.sequence
    constructor
    · apply Kept.sleepUntil short brief kept.started
      · exact le_trans kept.past (by dsimp only; omega)
      · exact kept.sequence
      · exact kept.counted
      · exact kept.within
      · exact begun
      · exact kept.paced
      · refine le_trans ?_ (le_max_left _ _)
        dsimp only
        omega
    · unfold Client.left
      rw [Client.sleepUntil_now, Client.sleepUntil_sequence]
      dsimp only
      omega
  · rw [pending] at placed begun
    rw [Client.sleepUntil_now] at brief
    have within : b.ended.length + 1 ≤ cfg.planned := kept.sequence ▸ placed
    have sum : ok.toNat + (!ok).toNat = 1 := by
      cases ok <;> rfl
    have started : b.begun.length = b.ended.length + 1 := begun
    constructor
    · unfold Times.book
      rw [Client.sleepUntil_now]
      apply Kept.sleepUntil (b := ⟨b.begun, b.ended ++ [s.now + took]⟩) short brief kept.started
      · exact le_trans kept.past (Nat.le_add_right _ _)
      · rw [List.length_append, kept.sequence]
        rfl
      · rw [List.length_append, List.length_singleton, ← kept.counted]
        dsimp only
        omega
      · rw [List.length_append]
        exact within
      · rw [List.length_append]
        exact started
      · exact kept.paced.ended started.le _
      · refine le_trans (le_of_eq ?_) (le_max_right _ _)
        rw [List.length_append, List.length_singleton, List.getD_cons_succ]
        simp
    · unfold Client.left
      rw [Client.sleepUntil_now, Client.sleepUntil_sequence]
      dsimp only
      omega

end Kept

/-- **No drift.** Within half a tick period, and with sleeps of bounded lateness, every
packet is sent at its time or behind the packet before it; the run ends after a bounded
number of waits, not before its duration, with every planned packet sent once. -/
theorem cadence_kept {cfg : Config} {start late : Nat} {inputs : List Input} {s : Client × Times}
    (short : cfg.durationMs < tickPeriod / 2) (run : Run (simulation cfg start) inputs s)
    (prompt : EachStep (simulation cfg start) (Prompt late) inputs)
    (brief : s.1.now < start + tickPeriod / 2) :
    (∀ (k : Nat) (time : Nat), s.2.begun[k]? = some time → start + k * cfg.intervalMs ≤ time ∧
      time ≤ max (start + k * cfg.intervalMs + late) ((start :: s.2.ended).getD k start)) ∧
    s.1.acknowledged + s.1.failed = s.2.ended.length ∧ s.2.begun.length ≤ cfg.planned ∧
    inputs.length ≤ cfg.durationMs + cfg.planned ∧
    ∀ elapsed, s.1.pending = .finished elapsed → s.2.ended.length = cfg.planned ∧
      start + cfg.durationMs ≤ s.1.now ∧ elapsed = ((s.1.now - start) / 1000 : Nat) := by
  have inv : Kept cfg start late s.1 s.2 ∧
      inputs.length + s.1.left cfg start ≤ cfg.durationMs + cfg.planned := by
    induction run with
    | start =>
        refine ⟨.init short, ?_⟩
        change 0 + Client.left cfg start (Client.start cfg start) ≤ _
        unfold Client.left Client.start
        rw [Client.sleepUntil_now, Client.sleepUntil_sequence]
        dsimp only
        omega
    | @next inputs s s' input run step ih =>
        obtain ⟨stepped, books⟩ := withBooks_step step
        have earlier := Client.now_le stepped
        obtain ⟨kept, bounded⟩ := ih (prompt.mono_prefix (List.prefix_append _ _)) (by omega)
        have here := prompt inputs input s (List.prefix_refl _) run
        obtain ⟨kept', nearer⟩ := kept.step short here stepped brief
        rw [books, List.length_append, List.length_singleton]
        exact ⟨kept', by omega⟩
  obtain ⟨kept, bounded⟩ := inv
  refine ⟨kept.paced, kept.counted, kept.begun_le, by omega, ?_⟩
  intro elapsed finished
  have placed := kept.placed
  unfold Client.Placed at placed
  rw [finished] at placed
  obtain ⟨behind, passed, duration⟩ := placed
  have sequence := kept.sequence
  have within := kept.within
  exact ⟨by omega, passed, duration⟩

/-- Two packets in six seconds, across the end of a tick period. The first one takes longer
than an interval. -/
def twoPackets : List Input := [.sent 4000 true, .sent 1950 false, .wake 3]

theorem cadence_kept_two : ∃ s,
    Run (simulation ⟨3, 6, by decide⟩ (tickPeriod - 1000)) twoPackets s ∧
    s.1.pending = .finished 6 ∧
    (∀ (k : Nat) (time : Nat), s.2.begun[k]? = some time → tickPeriod - 1000 + k * 3000 ≤ time ∧
      time ≤ max (tickPeriod - 1000 + k * 3000 + 3)
        (((tickPeriod - 1000) :: s.2.ended).getD k (tickPeriod - 1000))) ∧
    s.1.acknowledged + s.1.failed = s.2.ended.length ∧ s.2.begun.length ≤ 2 ∧
    twoPackets.length ≤ 6002 ∧
    ∀ elapsed, s.1.pending = .finished elapsed → s.2.ended.length = 2 ∧
      tickPeriod - 1000 + 6000 ≤ s.1.now ∧
      elapsed = ((s.1.now - (tickPeriod - 1000)) / 1000 : Nat) := by
  have exec : ∃ s, Run (simulation ⟨3, 6, by decide⟩ (tickPeriod - 1000)) twoPackets s ∧
      s.1.pending = .finished 6 ∧ s.1.now < tickPeriod - 1000 + tickPeriod / 2 :=
    ⟨_, run_iff_exec.mpr rfl, rfl, by decide⟩
  obtain ⟨s, run, finished, brief⟩ := exec
  have prompt : EachStep (simulation ⟨3, 6, by decide⟩ (tickPeriod - 1000)) (Prompt 3) twoPackets :=
    eachStep_of_checks (by decide)
  exact ⟨s, run, finished, cadence_kept (by decide) run prompt brief⟩

end EdgeGateway.Simulation
