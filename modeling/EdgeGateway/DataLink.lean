import EdgeGateway.Lib.Run
import EdgeGateway.Modem.Monitor
import EdgeGateway.Mqtt.Session

/-!
The monitor and the publisher side by side.

`ModemManager.start` writes two flags and `MQTTManager.start` reads them at the
top of its loop. A step is one stretch of either task, or a call of a TCP handler,
so a run is one interleaving of the two loops at their awaits.

`responding` is set when the modem answers `AT`, and `data_active` at the end of a
health check; a check that raises leaves `data_active` alone. So the gate is open
while the first check behind a failed one is still running, on what an older
check found (`gate_confirmed_iff`).
-/

namespace EdgeGateway

open EdgeGateway.Lib

/-! ### The two tasks -/

structure Settings where
  modem : Modem.Config
  mqtt : Mqtt.Config

def Settings.shipped : Settings := ⟨.shipped, .shipped⟩

structure DataLink where
  monitor : Modem.Monitor
  service : Mqtt.Service String

/-- The flags as the LTE gate reads them. -/
def DataLink.lte (w : DataLink) : Mqtt.Lte :=
    ⟨w.monitor.modem.responding, w.monitor.modem.dataActive⟩

inductive DataLink.Input where
  /-- a stretch of the monitor -/
  | modem (now : Modem.Clock) (ending : Modem.Ending)
  /-- a stretch of the publisher -/
  | mqtt (now : Mqtt.Readings) (outcome : Mqtt.Outcome)
  /-- a handler calls `enqueue` -/
  | enqueue (payload : String) (parsed : Json)

def DataLink.step (cfg : Settings) (codec : Mqtt.Codec) (w : DataLink) :
    DataLink.Input → Option DataLink
  | .modem now ending =>
      (w.monitor.resume cfg.modem now ending).map fun monitor => { w with monitor := monitor }
  | .mqtt now outcome =>
      (w.service.step cfg.mqtt codec id (.resume w.lte now outcome)).map fun service =>
        { w with service := service }
  | .enqueue payload parsed =>
      (w.service.step cfg.mqtt codec id (.enqueue payload parsed)).map fun service =>
        { w with service := service }

def dataLink (cfg : Settings) (codec : Mqtt.Codec) : System DataLink DataLink.Input :=
  ⟨⟨.init, .init⟩, DataLink.step cfg codec⟩

/-! ### The health checks of a run -/

/-- How a health check ended. -/
inductive CheckEnd where
  | raised
  /-- with `data_active` as it is then -/
  | completed (active : Bool)
deriving DecidableEq, Repr

/-- The check that ended in a stretch of the monitor. -/
def checkEnd (s : Modem.Monitor) (ending : Modem.Ending) (s' : Modem.Monitor) : Option CheckEnd :=
  match s.pending, ending with
  | .checking _ _, .raised _ => some .raised
  | .checking _ _, .returned _ =>
      if s'.pending.inCheck then none else some (.completed s'.modem.dataActive)
  | _, _ => none

/-- The ends of the checks so far, the newest first. -/
def checkEnds (w : DataLink) (i : DataLink.Input) (w' : DataLink) (ends : List CheckEnd) :
    List CheckEnd :=
  match i with
  | .modem _ ending => (checkEnd w.monitor ending w'.monitor).toList ++ ends
  | .mqtt _ _ | .enqueue _ _ => ends

/-- The two tasks with the checks of the run. -/
def checkedLink (cfg : Settings) (codec : Mqtt.Codec) :
    System (DataLink × List CheckEnd) DataLink.Input :=
  (dataLink cfg codec).withBooks [] checkEnds

/-! ### Passing the gate -/

/-- The publisher comes to the LTE gate and finds both flags set. -/
def DataLink.passes (w : DataLink) : DataLink.Input → Bool
  | .mqtt _ outcome => w.service.gates outcome && w.lte.up
  | .modem _ _ | .enqueue _ _ => false

/-- A check that ended with `data_active` set has completed since the last that raised. -/
def Confirmed (ends : List CheckEnd) : Prop :=
  ∃ newer older, ends = newer ++ .completed true :: older ∧ .raised ∉ newer

/-- The monitor is in a health check, and the last one to end raised. -/
def Rechecking (w : DataLink) (ends : List CheckEnd) : Prop :=
  w.monitor.pending.inCheck = true ∧ ends.head? = some .raised

instance (w : DataLink) (ends : List CheckEnd) : Decidable (Rechecking w ends) :=
  inferInstanceAs (Decidable (_ ∧ _))

/-- The gate is passed on a confirmed link only. -/
def PassConfirmed (s : DataLink × List CheckEnd) (i : DataLink.Input) : Prop :=
  s.1.passes i = true → Confirmed s.2

/-- The gate is not passed during the first check behind a failed one. -/
def PassSettled (s : DataLink × List CheckEnd) (i : DataLink.Input) : Prop :=
  s.1.passes i = true → ¬ Rechecking s.1 s.2

instance (s : DataLink × List CheckEnd) (i : DataLink.Input) : Decidable (PassSettled s i) :=
  inferInstanceAs (Decidable (_ → _))

/-! ### What the flags say about the checks -/

/-- `data_active` is what the newest completed check found, and a modem that
responds behind a failed check with it set is being checked. -/
structure FlagsInv (s : Modem.Monitor) (ends : List CheckEnd) : Prop where
  starting : s.pending.starting = true → ends = []
  active : s.modem.dataActive = true → ends.find? (· ≠ .raised) = some (.completed true)
  failed : ends.head? = some .raised → s.modem.dataActive = true → s.modem.responding = true →
    s.pending.inCheck = true

theorem FlagsInv.init : FlagsInv .init [] where
  starting := fun _ => rfl
  active := nofun
  failed := nofun

theorem checkEnd_outside {s s' : Modem.Monitor} {ending : Modem.Ending}
    (outside : s.pending.inCheck = false) : checkEnd s ending s' = none := by
  unfold checkEnd
  split
  · rename_i pending
    rw [pending] at outside
    cases outside
  · rename_i pending
    rw [pending] at outside
    cases outside
  · rfl

theorem FlagsInv.stretch {s s' : Modem.Monitor} {ends : List CheckEnd} {ending : Modem.Ending}
    (inv : FlagsInv s ends) (stretch : Modem.Stretch s ending s') :
    FlagsInv s' ((checkEnd s ending s').toList ++ ends) := by
  cases stretch with
  | waits outside outside' starting responding active =>
      rw [checkEnd_outside outside]
      refine ⟨fun isStarting => inv.starting (starting isStarting),
        fun set => inv.active (active ▸ set), ?_⟩
      intro raised set up
      have inCheck := inv.failed raised (active ▸ set) (responding up)
      rw [outside] at inCheck
      cases inCheck
  | begins startup outside pending starting active =>
      rw [checkEnd_outside outside]
      refine ⟨fun isStarting => inv.starting (starting ?_),
        fun set => inv.active (active ▸ set), ?_⟩
      · rw [pending] at isStarting
        cases startup with
        | true => rfl
        | false => cases isStarting
      · intro _ _ _
        rw [pending]
        rfl
  | asks startup query query' ended pending pending' responding active =>
      have goesOn : checkEnd s ending s' = none := by
        simp only [checkEnd, pending, ended, pending', Modem.Await.inCheck, if_true]
      rw [goesOn]
      refine ⟨fun isStarting => inv.starting ?_, fun set => inv.active (active ▸ set), ?_⟩
      · rw [pending'] at isStarting
        rw [pending]
        cases startup with
        | true => rfl
        | false => cases isStarting
      · intro _ _ _
        rw [pending']
        rfl
  | completes startup query ended pending outside' started =>
      have completed : checkEnd s ending s' = some (.completed s'.modem.dataActive) := by
        simp only [checkEnd, pending, ended, outside', Bool.false_eq_true, if_false]
      rw [completed]
      refine ⟨fun isStarting => ?_, fun set => ?_, nofun⟩
      · rw [started] at isStarting
        cases isStarting
      · rw [set]
        rfl
  | raises startup query ended pending pending' responding active =>
      have raised : checkEnd s ending s' = some .raised := by
        simp only [checkEnd, pending, ended]
      rw [raised]
      refine ⟨fun isStarting => ?_, fun set => inv.active (active ▸ set), fun _ set up => ?_⟩
      · rw [pending'] at isStarting
        cases isStarting
      · cases startup with
        | false =>
            rw [responding rfl] at up
            cases up
        | true =>
            -- Before the first check `data_active` is not set.
            have none := inv.starting (by rw [pending]; rfl)
            have found := inv.active (active ▸ set)
            rw [none] at found
            cases found

/-- The invariant holds in every state of a run. -/
theorem flagsInv_of_run {cfg : Settings} {codec : Mqtt.Codec} {is : List DataLink.Input}
    {s : DataLink × List CheckEnd} (run : Run (checkedLink cfg codec) is s) :
    FlagsInv s.1.monitor s.2 := by
  refine run.invariant (I := fun s => FlagsInv s.1.monitor s.2) FlagsInv.init ?_
  intro s i s' inv step
  obtain ⟨ran, books⟩ := withBooks_step step
  rw [books]
  cases i with
  | modem now ending =>
      obtain ⟨monitor, resumed, same⟩ := Option.map_eq_some_iff.mp ran
      rw [← same]
      exact inv.stretch (Modem.Monitor.resume_stretch resumed)
  | mqtt now outcome =>
      obtain ⟨service, -, same⟩ := Option.map_eq_some_iff.mp ran
      rw [← same]
      exact inv
  | enqueue payload parsed =>
      obtain ⟨service, -, same⟩ := Option.map_eq_some_iff.mp ran
      rw [← same]
      exact inv

/-! ### The gate -/

/-- With both flags set, the link is confirmed unless the monitor checks it again. -/
theorem confirmed_iff_settled {s : Modem.Monitor} {ends : List CheckEnd} (inv : FlagsInv s ends)
    (responding : s.modem.responding = true) (active : s.modem.dataActive = true) :
    Confirmed ends ↔ ¬ (s.pending.inCheck = true ∧ ends.head? = some .raised) := by
  constructor
  · rintro ⟨newer, older, rfl, calm⟩ ⟨-, raised⟩
    cases newer with
    | nil => cases raised
    | cons last newer =>
        obtain rfl := Option.some.inj raised
        exact calm List.mem_cons_self
  · intro settled
    have found := inv.active active
    cases ends with
    | nil => cases found
    | cons last older =>
        cases last with
        | raised => exact absurd ⟨inv.failed rfl active responding, rfl⟩ settled
        | completed set =>
            obtain rfl := CheckEnd.completed.inj (Option.some.inj found)
            exact ⟨[], older, rfl, List.not_mem_nil⟩

/-- **The publisher passes the gate on a confirmed link only, exactly if it does
not pass it during the first check behind a failed one.** -/
theorem gate_confirmed_iff {cfg : Settings} {codec : Mqtt.Codec} (is : List DataLink.Input) :
    EachStep (checkedLink cfg codec) PassConfirmed is ↔
      EachStep (checkedLink cfg codec) PassSettled is := by
  have same {js : List DataLink.Input} {s : DataLink × List CheckEnd}
    (run : Run (checkedLink cfg codec) js s)
      (i : DataLink.Input) : PassConfirmed s i ↔ PassSettled s i := by
    have inv := flagsInv_of_run run
    apply forall_congr'
    intro passes
    have up : s.1.lte.up = true := by
      cases i with
      | mqtt now outcome => exact (Bool.and_eq_true_iff.mp passes).2
      | modem now ending => cases passes
      | enqueue payload parsed => cases passes
    obtain ⟨responding, active⟩ := Bool.and_eq_true_iff.mp up
    exact confirmed_iff_settled inv responding active
  exact ⟨fun each js i s sub run => (same run i).mp (each js i s sub run),
    fun each js i s sub run => (same run i).mpr (each js i s sub run)⟩

/-- The modem answers. -/
def answer (text : String) : DataLink.Input :=
    .modem ⟨0, "2024-01-01 00:00:00 UTC"⟩ (.returned text.toList)

def timeout : DataLink.Input :=
    .modem ⟨0, "2024-01-01 00:00:00 UTC"⟩ (.raised (.osError "ATI timed out"))

/-- The modem is brought up and its first check finds a data link. -/
def bringUp : List DataLink.Input :=
  [answer "", answer "\r\nOK\r\n", answer "\r\nOK\r\n", answer "ATI\r\nA7670\r\nOK\r\n",
    answer "+CPIN: READY\r\n\r\nOK\r\n", answer "+CSQ: 20,99\r\n\r\nOK\r\n",
    answer "+CEREG: 0,1\r\n\r\nOK\r\n", answer "+COPS: 0,0,\"HOME\",7\r\n\r\nOK\r\n",
    answer "\r\nOK\r\n", answer "+CGATT: 1\r\n\r\nOK\r\n",
    answer "+CGPADDR: 1,10.0.0.7\r\n\r\nOK\r\n"]

/-- The next check fails, and the modem answers `AT` again. -/
def comesBack : List DataLink.Input := [answer "", timeout, answer "", answer "\r\nOK\r\n"]

def wakes : DataLink.Input :=
    .mqtt ⟨"2024-01-01T00:00:00Z", 60, 100000, "HOME", some (-71), none⟩ (.returned none)

/-- The publisher passes the gate although the last check raised and none has
completed since. -/
theorem unconfirmed_gate_passed :
    ∃ s, Run (checkedLink .shipped Mqtt.idleCodec) (bringUp ++ comesBack) s ∧
      s.1.passes wakes = true ∧ s.2 = [.raised, .completed true] ∧ ¬ Confirmed s.2 ∧
      ∃ s', Run (checkedLink .shipped Mqtt.idleCodec) (bringUp ++ comesBack ++ [wakes]) s' ∧
        s'.1.service.pending = .provisioning := by
  refine ⟨_, run_iff_exec.mpr rfl, by decide, by decide, ?_, _, run_iff_exec.mpr rfl, by decide⟩
  rintro ⟨newer, older, split, calm⟩
  cases newer with
  | nil => cases split
  | cons last newer =>
      obtain ⟨rfl, -⟩ := List.cons.inj split
      exact calm List.mem_cons_self

end EdgeGateway
