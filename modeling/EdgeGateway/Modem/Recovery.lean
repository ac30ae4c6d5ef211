import EdgeGateway.Modem.Background
import EdgeGateway.Modem.Readout

/-!
The monitor finds its way back.

From any state of the monitor, whatever it believes of the modem and wherever it
waits, a modem that answers from then on is read out within twenty-five turns of
the monitor; and from then on the attributes stay those of the radio. The internet
tests of the dashboard may run beside it at any time.

* `Settled.step`: a monitor that shows its radio goes on to show it.
* `Within.step`: before that, each turn of the monitor brings it nearer.
* `monitor_recovers`: the two together, over every run.
-/

namespace EdgeGateway.Modem

open EdgeGateway.Lib

/-! ### A modem that answers -/

/-- The radio after a turn of the monitor. -/
def Monitor.radioAfter (s : Monitor) (radio : Radio) : Radio :=
  match s.pending with
  | .checking _ query => radio.after query
  | _ => radio

/-- The tasks from any state, with the radio they talk to. -/
def tended (cfg : Config) (start : ModemTasks) (radio : Radio) :
    System (ModemTasks × Radio) Turn where
  init := (start, radio)
  step := fun (s, radio) i => (s.step cfg i).map fun s' =>
    (s', match i with
      | .monitor _ _ => s.monitor.radioAfter radio
      | .startInternetTest | .test _ _ => radio)

/-- The modem answers the monitor, in any chunks: a check truthfully, a probe with `OK`. -/
def Monitor.Attended (apn : String) (radio : Radio) (s : Monitor) (ending : Ending) : Prop :=
  match s.pending with
  | .checking _ query => ∃ text chunks, chunks.flatten = Utf8.encode text ∧
      radio.Tells text query ∧ ending = commandLoop (query.line apn) query.allowsError [] chunks
  | .probing _ _ => ∃ text chunks, chunks.flatten = Utf8.encode text ∧ Accepts text ∧
      ending = commandLoop "AT" false [] chunks
  | .pinging => True
  | _ => ∃ text, ending = .returned text

/-- The turns of the monitor are answered. -/
def Answering (apn : String) (s : ModemTasks × Radio) : Turn → Prop
  | .monitor _ ending => s.1.monitor.Attended apn s.2 ending
  | .startInternetTest | .test _ _ => True

/-- A turn of the monitor. -/
def Turn.ofMonitor : Turn → Bool
  | .monitor _ _ => true
  | .startInternetTest | .test _ _ => false

/-! ### What a check reads stays -/

/-- The attributes that a check reads or finds out. -/
structure SameReadout (m m' : ModemManager) : Prop where
  model : m'.model = m.model
  sim : m'.simStatus = m.simStatus
  csq : m'.signalCsq = m.signalCsq
  dbm : m'.signalDbm = m.signalDbm
  registration : m'.registration = m.registration
  operator : m'.operator = m.operator
  attached : m'.dataAttached = m.dataAttached
  active : m'.dataActive = m.dataActive
  address : m'.mobileIp = m.mobileIp
  error : m'.lastError = m.lastError
  responding : m'.responding = m.responding

theorem SameReadout.testFailed (m : ModemManager) : SameReadout m m.testFailed :=
  ⟨rfl, rfl, rfl, rfl, rfl, rfl, rfl, rfl, rfl, rfl, rfl⟩

theorem SameReadout.tested (text : Text) (m : ModemManager) : SameReadout m (m.tested text) := by
  unfold ModemManager.tested
  split
  · exact .testFailed m
  · exact ⟨rfl, rfl, rfl, rfl, rfl, rfl, rfl, rfl, rfl, rfl, rfl⟩

variable {m m' : ModemManager} {radio now : Radio}

theorem SameReadout.basics (same : SameReadout m m') (basics : Basics radio m) :
    Basics radio m' where
  model := same.model.trans basics.model
  sim := same.sim.trans basics.sim
  csq := same.csq.trans basics.csq
  dbm := same.dbm.trans basics.dbm
  registration := same.registration.trans basics.registration
  operator := same.operator.trans basics.operator

theorem SameReadout.shows (same : SameReadout m m') (shows : Shows radio m) : Shows radio m' where
  basics := same.basics shows.basics
  attached := same.attached.trans shows.attached
  active := same.active.trans shows.active
  address := same.address.trans shows.address
  error := same.error.trans shows.error

theorem SameReadout.knows (same : SameReadout m m') {query : Query}
    (knows : Knows radio now m query) : Knows radio now m' query := by
  cases query with
  | identity => exact knows
  | sim => exact ⟨knows.1, same.model.trans knows.2⟩
  | signal => exact ⟨knows.1, same.model.trans knows.2.1, same.sim.trans knows.2.2⟩
  | registration =>
      obtain ⟨rfl, model, sim, csq, dbm⟩ := knows
      exact ⟨rfl, same.model.trans model, same.sim.trans sim, same.csq.trans csq,
        same.dbm.trans dbm⟩
  | operator =>
      obtain ⟨rfl, model, sim, csq, dbm, registration⟩ := knows
      exact ⟨rfl, same.model.trans model, same.sim.trans sim, same.csq.trans csq,
        same.dbm.trans dbm, same.registration.trans registration⟩
  | defineContext | attached | attach => exact ⟨knows.1, same.basics knows.2.1, knows.2.2⟩
  | address =>
      obtain ⟨rfl, basics, online, attached⟩ := knows
      exact ⟨rfl, same.basics basics, online, same.attached.trans attached⟩
  | activate =>
      obtain ⟨rfl, basics, online, attached, address⟩ := knows
      exact ⟨rfl, same.basics basics, online, same.attached.trans attached, address⟩
  | addressAgain activationOk =>
      obtain ⟨rfl, basics, online, attached, address, ok⟩ := knows
      exact ⟨rfl, same.basics basics, online, same.attached.trans attached, address, ok⟩

/-- A step beside the monitor leaves it where it is, with what it read. -/
theorem ModemTasks.beside_readout {cfg : Config} {s s' : ModemTasks} {i : Turn}
    (beside : i.ofMonitor = false) (step : s.step cfg i = some s') :
    s'.monitor.pending = s.monitor.pending ∧ SameReadout s.monitor.modem s'.monitor.modem := by
  have refl (m : ModemManager) : SameReadout m m :=
    ⟨rfl, rfl, rfl, rfl, rfl, rfl, rfl, rfl, rfl, rfl, rfl⟩
  cases i with
  | monitor clock ending => cases beside
  | startInternetTest =>
      cases step
      unfold ModemTasks.startInternetTest
      split
      · exact ⟨rfl, refl _⟩
      · exact ⟨rfl, refl _⟩
  | test clock ending =>
      change s.resumeTest clock ending = some s' at step
      unfold ModemTasks.resumeTest at step
      split at step <;> cases step
      · unfold ModemTasks.beginTest
        dsimp only
        split
        · exact ⟨rfl, ⟨rfl, rfl, rfl, rfl, rfl, rfl, rfl, rfl, rfl, rfl, rfl⟩⟩
        · exact ⟨rfl, ⟨rfl, rfl, rfl, rfl, rfl, rfl, rfl, rfl, rfl, rfl, rfl⟩⟩
      · exact ⟨rfl, .tested _ _⟩
      · exact ⟨rfl, .testFailed _⟩

/-! ### The radio behind a check -/

theorem Radio.after_basics (radio : Radio) (query : Query) :
    (radio.after query).model = radio.model ∧ (radio.after query).sim = radio.sim ∧
      (radio.after query).csq = radio.csq ∧ (radio.after query).stat = radio.stat ∧
      (radio.after query).operator = radio.operator ∧
      (radio.after query).activation = radio.activation := by
  cases query with
  | activate =>
      unfold Radio.after
      dsimp only
      split
      · exact ⟨rfl, rfl, rfl, rfl, rfl, rfl⟩
      · exact ⟨rfl, rfl, rfl, rfl, rfl, rfl⟩
  | _ => exact ⟨rfl, rfl, rfl, rfl, rfl, rfl⟩

/-- A check leaves the radio with its link. -/
theorem Radio.checked_basics (radio : Radio) :
    radio.checked.model = radio.model ∧ radio.checked.sim = radio.sim ∧
      radio.checked.csq = radio.csq ∧ radio.checked.stat = radio.stat ∧
      radio.checked.operator = radio.operator ∧
      radio.checked.activation = radio.activation := by
  unfold Radio.checked
  split
  · split
    · exact radio.after_basics .attach
    · exact (radio.after .attach).after_basics .activate
  · exact ⟨rfl, rfl, rfl, rfl, rfl, rfl⟩

theorem Radio.online_checked (radio : Radio) : radio.checked.online = radio.online := by
  obtain ⟨-, sim, -, stat, -, -⟩ := radio.checked_basics
  unfold Radio.online
  rw [sim, stat]

/-- The link a check leaves: attached, with the address the radio had or the activation brings. -/
theorem Radio.checked_link {radio : Radio} (online : radio.online = true) :
    radio.checked.attached = true ∧
      radio.checked.address = radio.address.or (radio.activation.getD none) := by
  unfold Radio.checked
  rw [if_pos online]
  cases address : radio.address with
  | some ip => exact ⟨rfl, address⟩
  | none =>
      unfold Radio.after
      dsimp only
      cases activation : radio.activation with
      | some brought => exact ⟨rfl, rfl⟩
      | none => exact ⟨rfl, address⟩

theorem Radio.ext_link {left right : Radio} (basics : left.model = right.model ∧
    left.sim = right.sim ∧ left.csq = right.csq ∧ left.stat = right.stat ∧
    left.operator = right.operator ∧ left.activation = right.activation)
    (attached : left.attached = right.attached) (address : left.address = right.address) :
    left = right := by
  obtain ⟨model, sim, csq, stat, operator, activation⟩ := basics
  cases left
  cases right
  dsimp only at *
  subst model sim csq stat operator activation attached address
  rfl

/-- A second check changes nothing of the radio. -/
theorem Radio.checked_checked (radio : Radio) : radio.checked.checked = radio.checked := by
  by_cases online : radio.online = true
  · have online' : radio.checked.online = true := radio.online_checked.trans online
    obtain ⟨attached, address⟩ := Radio.checked_link online
    obtain ⟨attached', address'⟩ := Radio.checked_link online'
    refine Radio.ext_link radio.checked.checked_basics (attached'.trans attached.symm) ?_
    obtain ⟨-, -, -, -, -, activation⟩ := radio.checked_basics
    rw [address', activation, address]
    cases radio.address with
    | some ip => rfl
    | none => cases radio.activation.getD none <;> rfl
  · have offline : radio.checked = radio := if_neg online
    rw [offline, offline]

/-- What shows the radio a check began with shows the radio it leaves. -/
theorem Shows.checked (shows : Shows radio m) : Shows radio.checked m := by
  obtain ⟨⟨model, sim, csq, dbm, registration, operator⟩, attached, active, address, error⟩ := shows
  obtain ⟨model', sim', csq', stat', operator', activation'⟩ := radio.checked_basics
  have registered : radio.checked.registration = radio.registration := by
    unfold Radio.registration
    rw [stat']
  refine ⟨⟨model.trans model'.symm, sim.trans sim'.symm, by rw [csq', csq], by rw [csq', dbm],
    registration.trans registered.symm, by rw [operator', operator]⟩,
    attached.trans radio.online_checked.symm, ?_, ?_, error⟩
  · rw [active]
    unfold Radio.linked
    rw [radio.online_checked, activation']
    cases online : radio.online with
    | false => rfl
    | true =>
        rw [(Radio.checked_link online).2]
        cases radio.address with
        | some ip => rfl
        | none =>
            cases radio.activation with
            | none => rfl
            | some brought => simp
  · rw [address, radio.online_checked, radio.checked_checked]

/-! ### Closure -/

/-- The monitor shows its radio, between two checks and in one. -/
structure Settled (s : Monitor) (radio : Radio) : Prop where
  shows : Shows radio s.modem
  responding : s.modem.responding = true
  fixed : radio.checked = radio
  place : s.pending = .sleeping ∨ s.pending = .pinging ∨
    ∃ startup query, s.pending = .checking startup query ∧ Knows radio radio s.modem query

theorem Knows.after_fixed {query : Query} (knows : Knows radio radio m query)
    (fixed : radio.checked = radio) : radio.after query = radio := by
  have attaches (online : radio.online = true) : radio.after .attach = radio := by
    obtain ⟨attached, -⟩ := Radio.checked_link online
    rw [fixed] at attached
    exact Radio.ext_link (radio.after_basics .attach) attached.symm rfl
  cases query with
  | attach => exact attaches knows.2.2
  | activate =>
      obtain ⟨-, -, online, -, address⟩ := knows
      have whole : radio.checked = (radio.after .attach).after .activate := by
        rw [Radio.checked, if_pos online, address]
        rfl
      rw [attaches online, fixed] at whole
      exact whole.symm
  | _ => rfl

theorem Monitor.answered_responding (cfg : Config) (clock : Clock) (startup : Bool)
    (m : ModemManager) (text : Text) (query : Query) :
    (Monitor.answered cfg clock startup m text query).modem.responding = m.responding := by
  have ends (m' : ModemManager) :
      (Monitor.endCheck cfg clock startup m').modem.responding = m'.responding := by
    unfold Monitor.endCheck Monitor.beginTest
    dsimp only
    split
    · split <;> rfl
    · rfl
  cases query with
  | operator =>
      unfold Monitor.answered
      dsimp only
      split
      · rfl
      · exact ends _
  | address =>
      unfold Monitor.answered
      dsimp only
      split
      · exact ends _
      · rfl
  | addressAgain activationOk => exact ends _
  | _ => rfl

/-- Reading what is shown already changes nothing. -/
theorem Shows.answered {cfg : Config} {clock : Clock} {startup : Bool} {query query' : Query}
    {heard : Text} (shows : Shows radio m) (knows : Knows radio radio m query)
    (fixed : radio.checked = radio) (read : radio.Read heard query)
    (pending : (Monitor.answered cfg clock startup m heard query).pending =
      .checking startup query') :
    Shows radio (Monitor.answered cfg clock startup m heard query).modem := by
  obtain ⟨⟨model, sim, csq, dbm, registration, operator⟩, attached, active, address, error⟩ := shows
  have rests (m' : ModemManager) :
      (Monitor.endCheck cfg clock startup m').pending ≠ .checking startup query' := by
    intro same
    rcases Monitor.endCheck_rests cfg clock startup m' with rest | rest
    · cases rest.symm.trans same
    · cases rest.symm.trans same
  cases query with
  | identity =>
      exact ⟨⟨read, sim, csq, dbm, registration, operator⟩, attached, active, address, error⟩
  | sim => exact ⟨⟨model, read, csq, dbm, registration, operator⟩, attached, active, address, error⟩
  | signal =>
      exact ⟨⟨model, sim, congrArg Prod.fst read, congrArg Prod.snd read, registration, operator⟩,
        attached, active, address, error⟩
  | registration =>
      exact ⟨⟨model, sim, csq, dbm, read, operator⟩, attached, active, address, error⟩
  | operator =>
      unfold Monitor.answered at pending ⊢
      dsimp only at pending ⊢
      split
      · exact ⟨⟨model, sim, csq, dbm, registration, read⟩, attached, active, address, error⟩
      · rename_i unready
        rw [if_neg unready] at pending
        exact absurd pending (rests _)
  | defineContext =>
      exact ⟨⟨model, sim, csq, dbm, registration, operator⟩, attached, active, address, error⟩
  | attached =>
      obtain ⟨-, -, online⟩ := knows
      obtain ⟨already, -⟩ := Radio.checked_link online
      rw [fixed] at already
      exact ⟨⟨model, sim, csq, dbm, registration, operator⟩,
        (read.trans already).trans online.symm, active, address, error⟩
  | attach =>
      exact ⟨⟨model, sim, csq, dbm, registration, operator⟩, knows.2.2.symm, active, address, error⟩
  | address =>
      obtain ⟨-, -, online, -⟩ := knows
      have same : ipAddress heard = if radio.online then radio.checked.address else none := by
        rw [if_pos online, fixed]
        exact read
      unfold Monitor.answered at pending ⊢
      dsimp only at pending ⊢
      split
      · rename_i up
        rw [if_pos up] at pending
        exact absurd pending (rests _)
      · exact ⟨⟨model, sim, csq, dbm, registration, operator⟩, attached, active, same, error⟩
  | activate =>
      exact ⟨⟨model, sim, csq, dbm, registration, operator⟩, attached, active, address, error⟩
  | addressAgain activationOk => exact absurd pending (rests _)

section Turns

variable {cfg : Config} {apn : String} {s s' : Monitor} {clock : Clock} {ending : Ending}

/-- What the monitor hears in a check. -/
theorem Monitor.Attended.heard {startup : Bool} {query : Query}
    (attended : s.Attended apn radio ending) (pending : s.pending = .checking startup query) :
    ∃ heard, ending = .returned heard ∧ radio.Read heard query := by
  unfold Monitor.Attended at attended
  simp only [pending] at attended
  obtain ⟨text, chunks, whole, tells, rfl⟩ := attended
  exact tells.read _ whole

theorem Monitor.Attended.probed {probe : Probe} {deadline : Nat}
    (attended : s.Attended apn radio ending) (pending : s.pending = .probing probe deadline) :
    ∃ text, ending = .returned text ∧ contains "OK".toList text = true := by
  unfold Monitor.Attended at attended
  simp only [pending] at attended
  obtain ⟨text, chunks, whole, accepts, rfl⟩ := attended
  refine ⟨text, commandLoop_accepts _ _ accepts whole, contains_iff.mpr ?_⟩
  have within : "OK".toList <:+: "\r\nOK\r\n".toList := ⟨['\r', '\n'], ['\r', '\n'], rfl⟩
  exact within.trans (contains_iff.mp accepts.ok)

/-- **A settled monitor stays settled.** -/
theorem Settled.turn (settled : Settled s radio) (attended : s.Attended apn radio ending)
    (resumed : s.resume cfg clock ending = some s') : Settled s' radio := by
  obtain ⟨m, pending⟩ := s
  obtain ⟨shows, responding, fixed, place⟩ := settled
  dsimp only at shows responding place
  rcases place with rfl | rfl | ⟨startup, query, rfl, knows⟩
  · cases ending with
    | raised exc => cases resumed
    | returned text =>
        obtain rfl := Option.some.inj resumed
        unfold Monitor.poll
        rw [if_pos responding]
        have same : SameReadout m { m with responding := true } :=
          ⟨rfl, rfl, rfl, rfl, rfl, rfl, rfl, rfl, rfl, rfl, responding.symm⟩
        exact ⟨same.shows shows, rfl, fixed, .inr (.inr ⟨false, .identity, rfl, rfl⟩)⟩
  · cases ending with
    | raised exc =>
        obtain rfl := Option.some.inj resumed
        exact ⟨(SameReadout.testFailed m).shows shows, responding, fixed, .inl rfl⟩
    | returned text =>
        obtain rfl := Option.some.inj resumed
        have same := SameReadout.tested text m
        exact ⟨same.shows shows, same.responding.trans responding, fixed, .inl rfl⟩
  · obtain ⟨heard, rfl, read⟩ := attended.heard rfl
    obtain rfl := Option.some.inj resumed
    have responds := (Monitor.answered_responding cfg clock startup m heard query).trans responding
    rcases knows.answered cfg clock startup read with ⟨query', pending, -, knows'⟩ | concluded
    · rw [knows.after_fixed fixed] at knows'
      exact ⟨shows.answered knows fixed read pending, responds, fixed,
        .inr (.inr ⟨startup, query', pending, knows'⟩)⟩
    · obtain ⟨rests, shows', -⟩ := concluded
      exact ⟨shows', responds, fixed, rests.imp id .inl⟩

/-! ### Convergence -/

/-- The turns until a check that is still to begin has ended, at most. -/
def Await.turns : Await → Nat
  | .checking _ query => 14 + query.left
  | .pinging => 14
  | .sleeping => 13
  | .notStarted => 14
  | .probing .first _ => 13
  | .probing _ _ => 12
  | .pausing .first _ => 16
  | .pausing _ _ => 14
  | .powerKey left => 13 + left

/-- The monitor is settled within `n` of its turns: it is settled, or in a check whose
readings are those of the radio, or on its way to one. -/
def Within (s : Monitor) (radio : Radio) (n : Nat) : Prop :=
  Settled s radio ∨
    (∃ startup query begun, s.pending = .checking startup query ∧ s.modem.responding = true ∧
      Knows begun radio s.modem query ∧ query.left ≤ n) ∨
    s.pending.turns ≤ n

theorem Within.mono {n n' : Nat} (within : Within s radio n) (le : n ≤ n') : Within s radio n' :=
  within.imp id fun rest => rest.imp
    (fun ⟨startup, query, begun, pending, responding, knows, left⟩ =>
      ⟨startup, query, begun, pending, responding, knows, left.trans le⟩)
    fun few => few.trans le

theorem Within.begins {n : Nat} (startup : Bool) (m : ModemManager) (enough : 11 ≤ n) :
    Within (.beginCheck startup m) radio n :=
  .inr (.inl ⟨startup, .identity, radio, rfl, rfl, rfl, enough⟩)

theorem Within.beginProbe {n : Nat} (positive : 0 < cfg.startupTimeoutSeconds)
    (short : cfg.startupTimeoutSeconds * 1000 < tickPeriod / 2) (probe : Probe) (m : ModemManager)
    (enough : (Await.probing probe 0).turns ≤ n) :
    Within (.beginProbe cfg clock probe m) radio n := by
  have ahead : 0 < ticksDiff (ticksAdd clock.ticks (cfg.startupTimeoutSeconds * 1000))
      clock.ticks := by
    rw [ticksDiff_ticksAdd short]
    omega
  unfold Monitor.beginProbe Monitor.probe
  rw [if_pos ahead]
  cases probe with
  | first => exact .inr (.inr enough)
  | second => exact .inr (.inr enough)
  | monitor => exact .inr (.inr enough)

theorem Within.probe {n : Nat} (probe : Probe) (deadline : Nat) (m : ModemManager)
    (enough : (Await.pausing probe deadline).turns ≤ n + 1) :
    Within (.probe clock probe deadline m) radio n := by
  unfold Monitor.probe
  split
  · cases probe with
    | first =>
        have few : 16 ≤ n + 1 := enough
        exact .inr (.inr (show 13 ≤ n by omega))
    | second =>
        have few : 14 ≤ n + 1 := enough
        exact .inr (.inr (show 12 ≤ n by omega))
    | monitor =>
        have few : 14 ≤ n + 1 := enough
        exact .inr (.inr (show 12 ≤ n by omega))
  · cases probe with
    | first =>
        have few : 16 ≤ n + 1 := enough
        exact .inr (.inr (show 15 ≤ n by omega))
    | second =>
        have few : 14 ≤ n + 1 := enough
        exact .inr (.inr (show 13 ≤ n by omega))
    | monitor =>
        have few : 14 ≤ n + 1 := enough
        exact .inr (.inr (show 13 ≤ n by omega))

/-- An answer takes a check nearer to its end, whatever was read before. -/
theorem Monitor.answered_nearer (cfg : Config) (clock : Clock) (startup : Bool) (m : ModemManager)
    (text : Text) (query : Query) :
    (Monitor.answered cfg clock startup m text query).pending.turns <
      (Await.checking startup query).turns := by
  have rests (m' : ModemManager) :
      (Monitor.endCheck cfg clock startup m').pending.turns <
        (Await.checking startup query).turns := by
    have left := query.left_pos
    have whole : (Await.checking startup query).turns = 14 + query.left := rfl
    rcases Monitor.endCheck_rests cfg clock startup m' with rest | rest
    · rw [rest, whole]
      exact show 13 < 14 + query.left by omega
    · rw [rest, whole]
      exact show 14 < 14 + query.left by omega
  cases query with
  | operator =>
      unfold Monitor.answered
      dsimp only
      split
      · cases m.pdpConfigured
        · exact show 14 + 6 < 14 + 7 by decide
        · exact show 14 + 5 < 14 + 7 by decide
      · exact rests _
  | attached =>
      unfold Monitor.answered
      dsimp only
      split
      · exact show 14 + 3 < 14 + 5 by decide
      · exact show 14 + 4 < 14 + 5 by decide
  | address =>
      unfold Monitor.answered
      dsimp only
      split
      · exact rests _
      · exact show 14 + 2 < 14 + 3 by decide
  | activate => exact show 14 + 1 < 14 + 2 by decide
  | addressAgain activationOk => exact rests _
  | identity => exact show 14 + 10 < 14 + 11 by decide
  | sim => exact show 14 + 9 < 14 + 10 by decide
  | signal => exact show 14 + 8 < 14 + 9 by decide
  | registration => exact show 14 + 7 < 14 + 8 by decide
  | defineContext => exact show 14 + 5 < 14 + 6 by decide
  | attach => exact show 14 + 3 < 14 + 4 by decide

/-- **A turn brings the monitor nearer.** -/
theorem Within.turn {n : Nat} (positive : 0 < cfg.startupTimeoutSeconds)
    (short : cfg.startupTimeoutSeconds * 1000 < tickPeriod / 2) (within : Within s radio (n + 1))
    (attended : s.Attended apn radio ending) (resumed : s.resume cfg clock ending = some s') :
    Within s' (s.radioAfter radio) n := by
  obtain ⟨m, pending⟩ := s
  rcases within with settled | ⟨startup, query, begun, rfl, responding, knows, left⟩ | few
  · have same : Monitor.radioAfter ⟨m, pending⟩ radio = radio := by
      rcases settled.place with rest | rest | ⟨startup, query, rest, knows⟩
      · obtain rfl : pending = .sleeping := rest
        rfl
      · obtain rfl : pending = .pinging := rest
        rfl
      · obtain rfl : pending = .checking startup query := rest
        exact knows.after_fixed settled.fixed
    rw [same]
    exact .inl (settled.turn attended resumed)
  · obtain ⟨heard, rfl, read⟩ := attended.heard rfl
    obtain rfl := Option.some.inj resumed
    have responds := (Monitor.answered_responding cfg clock startup m heard query).trans responding
    rcases knows.answered cfg clock startup read with ⟨query', pending, less, knows'⟩ | concluded
    · exact .inr (.inl ⟨startup, query', begun, pending, responds, knows', by omega⟩)
    · obtain ⟨rests, shows, final⟩ := concluded
      have settled : Settled (.answered cfg clock startup m heard query) (radio.after query) := by
        rw [final]
        exact ⟨shows.checked, responds, begun.checked_checked, rests.imp id .inl⟩
      exact .inl settled
  · have few' : pending.turns ≤ n + 1 := few
    cases pending with
    | checking startup query =>
        obtain ⟨heard, rfl, read⟩ := attended.heard rfl
        obtain rfl := Option.some.inj resumed
        have nearer := Monitor.answered_nearer cfg clock startup m heard query
        exact .inr (.inr (Nat.le_of_lt_succ (Nat.lt_of_lt_of_le nearer few')))
    | probing probe deadline =>
        obtain ⟨text, rfl, ok⟩ := attended.probed rfl
        obtain rfl := Option.some.inj resumed
        rw [if_pos ok]
        cases probe with
        | first =>
            have few : 13 ≤ n + 1 := few'
            exact Within.beginProbe positive short .second m (show 12 ≤ n by omega)
        | second =>
            have few : 12 ≤ n + 1 := few'
            exact Within.begins true _ (by omega)
        | monitor =>
            have few : 12 ≤ n + 1 := few'
            exact Within.begins false _ (by omega)
    | notStarted =>
        obtain ⟨text, rfl⟩ := attended
        obtain rfl := Option.some.inj resumed
        have few : 14 ≤ n + 1 := few'
        exact Within.beginProbe positive short .first _ (show 13 ≤ n by omega)
    | pausing probe deadline =>
        obtain ⟨text, rfl⟩ := attended
        obtain rfl := Option.some.inj resumed
        exact Within.probe probe deadline m few'
    | powerKey left =>
        obtain ⟨text, rfl⟩ := attended
        cases left with
        | zero =>
            obtain rfl := Option.some.inj resumed
            have few : 13 ≤ n + 1 := few'
            exact Within.beginProbe positive short .second m (show 12 ≤ n by omega)
        | succ left =>
            obtain rfl := Option.some.inj resumed
            have few : 13 + (left + 1) ≤ n + 1 := few'
            exact .inr (.inr (show 13 + left ≤ n by omega))
    | pinging =>
        have few : 14 ≤ n + 1 := few'
        cases ending with
        | raised exc =>
            obtain rfl := Option.some.inj resumed
            exact .inr (.inr (show 13 ≤ n by omega))
        | returned text =>
            obtain rfl := Option.some.inj resumed
            exact .inr (.inr (show 13 ≤ n by omega))
    | sleeping =>
        obtain ⟨text, rfl⟩ := attended
        obtain rfl := Option.some.inj resumed
        have few : 13 ≤ n + 1 := few'
        unfold Monitor.poll
        split
        · exact Within.begins false _ (by omega)
        · exact Within.beginProbe positive short .monitor _ (show 12 ≤ n by omega)

/-- What holds of the monitor a step beside it keeps. -/
theorem Within.same {n : Nat} (within : Within s radio n) (pending : s'.pending = s.pending)
    (same : SameReadout s.modem s'.modem) : Within s' radio n := by
  rcases within with settled | ⟨startup, query, begun, place, responding, knows, left⟩ | few
  · refine .inl ⟨same.shows settled.shows, same.responding.trans settled.responding, settled.fixed,
      ?_⟩
    rw [pending]
    exact settled.place.imp id fun place => place.imp id fun ⟨startup, query, place, knows⟩ =>
      ⟨startup, query, place, same.knows knows⟩
  · exact .inr (.inl ⟨startup, query, begun, pending.trans place, same.responding.trans responding,
      same.knows knows, left⟩)
  · exact .inr (.inr (pending ▸ few))

/-- The power key sequence has three sleeps. -/
theorem Monitor.resume_powerKey {left : Nat} (resumed : s.resume cfg clock ending = some s')
    (pending : s'.pending = .powerKey left) : left = 2 ∨ s.pending = .powerKey (left + 1) := by
  have probed (probe : Probe) (deadline : Nat) (m : ModemManager)
      (there : (Monitor.probe clock probe deadline m).pending = .powerKey left) : left = 2 := by
    unfold Monitor.probe at there
    split at there
    · cases there
    · cases probe <;> cases there
      rfl
  have rests (startup : Bool) (m : ModemManager)
      (there : (Monitor.endCheck cfg clock startup m).pending = .powerKey left) : left = 2 := by
    rcases Monitor.endCheck_rests cfg clock startup m with rest | rest
    · cases rest.symm.trans there
    · cases rest.symm.trans there
  obtain ⟨m, place⟩ := s
  unfold Monitor.resume at resumed
  dsimp only at resumed
  split at resumed <;> cases resumed
  · exact .inl (probed _ _ _ pending)
  · cases pending
  · split at pending
    · rename_i probe _ _ _
      cases probe with
      | first => exact .inl (probed _ _ _ pending)
      | second => cases pending
      | monitor => cases pending
    · cases pending
  · cases pending
  · exact .inl (probed _ _ _ pending)
  · exact .inl (probed _ _ _ pending)
  · cases pending
    exact .inr rfl
  · rename_i startup query text
    cases query with
    | operator =>
        unfold Monitor.answered at pending
        dsimp only at pending
        split at pending
        · cases pending
        · exact .inl (rests _ _ pending)
    | address =>
        unfold Monitor.answered at pending
        dsimp only at pending
        split at pending
        · exact .inl (rests _ _ pending)
        · cases pending
    | addressAgain activationOk => exact .inl (rests _ _ pending)
    | _ => cases pending
  · unfold Monitor.fail at pending
    split at pending <;> cases pending
  · cases pending
  · cases pending
  · unfold Monitor.poll at pending
    split at pending
    · cases pending
    · exact .inl (probed _ _ _ pending)

end Turns

/-- Every reachable state is twenty-five turns from a check that has ended, at most. -/
theorem turns_le {cfg : Config} {s : ModemTasks} (reach : Reachable (modemTasks cfg) s) :
    s.monitor.pending.turns ≤ 25 := by
  obtain ⟨is, run⟩ := reach
  have short : ∀ left, s.monitor.pending = .powerKey left → left ≤ 2 := by
    refine run.invariant (I := fun s => ∀ left, s.monitor.pending = .powerKey left → left ≤ 2)
      (fun left pending => by cases pending) ?_
    intro s i s' before step left pending
    cases i with
    | monitor clock ending =>
        obtain ⟨monitor, resumed, rfl⟩ := Option.map_eq_some_iff.mp step
        rcases Monitor.resume_powerKey resumed pending with rfl | above
        · exact Nat.le_refl 2
        · have := before _ above
          omega
    | startInternetTest =>
        change s.step cfg .startInternetTest = some s' at step
        exact before left ((ModemTasks.beside_readout rfl step).1.symm.trans pending)
    | test clock ending =>
        change s.step cfg (.test clock ending) = some s' at step
        exact before left ((ModemTasks.beside_readout rfl step).1.symm.trans pending)
  cases pending : s.monitor.pending with
  | powerKey left =>
      have := short left pending
      exact show 13 + left ≤ 25 by omega
  | checking startup query => cases query <;> simp [Await.turns, Query.left]
  | probing probe deadline => cases probe <;> simp [Await.turns]
  | pausing probe deadline => cases probe <;> simp [Await.turns]
  | _ => simp [Await.turns]

section Recovery

variable {cfg : Config} {apn : String} {start s : ModemTasks} {radio now : Radio} {is : List Turn}

/-- **The monitor recovers.** From every reachable state, once the modem has answered
twenty-five turns of the monitor, the attributes are those of the radio, and stay so. -/
theorem monitor_recovers (reach : Reachable (modemTasks cfg) start)
    (positive : 0 < cfg.startupTimeoutSeconds)
    (short : cfg.startupTimeoutSeconds * 1000 < tickPeriod / 2)
    (run : Run (tended cfg start radio) is (s, now))
    (answering : EachStep (tended cfg start radio) (Answering apn) is)
    (enough : 25 ≤ is.countP Turn.ofMonitor) :
    s.monitor.modem.responding = true ∧ Shows now s.monitor.modem := by
  have within : Within s.monitor now (25 - is.countP Turn.ofMonitor) := by
    clear enough
    generalize final : (s, now) = last at run
    induction run generalizing s now with
    | start =>
        cases final
        exact .inr (.inr (turns_le reach))
    | @next is before last i run step ih =>
        subst final
        obtain ⟨s₀, now₀⟩ := before
        obtain ⟨s', stepped, same⟩ := Option.map_eq_some_iff.mp step
        cases same
        have earlier := ih (answering.mono_prefix (List.prefix_append _ _)) rfl
        have attended := answering is i (s₀, now₀) (List.prefix_refl _) run
        cases i with
        | monitor clock ending =>
            obtain ⟨monitor, resumed, rfl⟩ := Option.map_eq_some_iff.mp stepped
            have more : 25 - is.countP Turn.ofMonitor ≤
                25 - (is ++ [Turn.monitor clock ending]).countP Turn.ofMonitor + 1 := by
              rw [List.countP_append, List.countP_singleton, if_pos (rfl : Turn.ofMonitor _ = true)]
              omega
            exact (earlier.mono more).turn positive short attended resumed
        | startInternetTest =>
            obtain ⟨pending, same⟩ := ModemTasks.beside_readout rfl stepped
            exact (earlier.mono (by simp [Turn.ofMonitor])).same pending same
        | test clock ending =>
            obtain ⟨pending, same⟩ := ModemTasks.beside_readout rfl stepped
            exact (earlier.mono (by simp [Turn.ofMonitor])).same pending same
  rw [Nat.sub_eq_zero_of_le enough] at within
  rcases within with settled | ⟨startup, query, begun, pending, -, -, left⟩ | few
  · exact ⟨settled.responding, settled.shows⟩
  · exact absurd query.left_pos (by omega)
  · have positive : 0 < s.monitor.pending.turns := by
      cases s.monitor.pending with
      | checking startup query => exact show 0 < 14 + query.left by omega
      | probing probe deadline => cases probe <;> exact Nat.succ_pos _
      | pausing probe deadline => cases probe <;> exact Nat.succ_pos _
      | powerKey left => exact show 0 < 13 + left by omega
      | _ => exact Nat.succ_pos _
    exact absurd positive (by omega)

end Recovery

/-- What the monitor hears at an await from `homeRadio`. -/
def Await.homeText : Await → Text
  | .checking _ query => Modem.homeText query
  | .probing _ _ => "\r\nOK\r\n".toList
  | _ => []

theorem homeText_attended (s : Monitor) :
    s.Attended "internet" homeRadio (.returned s.pending.homeText) := by
  obtain ⟨m, pending⟩ := s
  cases pending with
  | checking startup query =>
      refine ⟨Modem.homeText query, [Utf8.encode (Modem.homeText query)], by simp,
        homeText_tells query, ?_⟩
      by_cases refused : query = .activate
      · subst refused
        rfl
      · exact (commandLoop_accepts _ _ (homeText_accepts query refused) (by simp)).symm
  | probing probe deadline =>
      have accepts : Accepts "\r\nOK\r\n".toList := ⟨by decide, by decide⟩
      exact ⟨_, [Utf8.encode "\r\nOK\r\n".toList], by simp, accepts,
        (commandLoop_accepts _ _ accepts (by simp)).symm⟩
  | pinging => trivial
  | _ => exact ⟨_, rfl⟩

/-- `homeRadio` can answer any number of turns. -/
theorem homeTurns (n : Nat) : ∃ is s, Run (tended .shipped .init homeRadio) is (s, homeRadio) ∧
    EachStep (tended .shipped .init homeRadio) (Answering "internet") is ∧
    n ≤ is.countP Turn.ofMonitor := by
  induction n with
  | zero => exact ⟨[], _, .start, .nil, Nat.le_refl 0⟩
  | succ n ih =>
      obtain ⟨is, s, run, answering, count⟩ := ih
      let turn : Turn :=
        .monitor ⟨0, "2024-01-01 00:00:00 UTC"⟩ (.returned s.monitor.pending.homeText)
      have resumes : ∃ monitor, s.monitor.resume .shipped ⟨0, "2024-01-01 00:00:00 UTC"⟩
          (.returned s.monitor.pending.homeText) = some monitor := by
        obtain ⟨⟨m, pending⟩, test⟩ := s
        cases pending with
        | powerKey left => cases left <;> exact ⟨_, rfl⟩
        | _ => exact ⟨_, rfl⟩
      obtain ⟨monitor, resumed⟩ := resumes
      have kept : s.monitor.radioAfter homeRadio = homeRadio := by
        unfold Monitor.radioAfter
        split
        · rename_i query _
          cases query <;> rfl
        · rfl
      have step : (tended .shipped .init homeRadio).step (s, homeRadio) turn =
          some (⟨monitor, s.test⟩, homeRadio) := by
        simp only [tended, ModemTasks.step, turn, resumed, Option.map_some, kept]
      refine ⟨is ++ [turn], _, .next run step, answering.snoc run (homeText_attended s.monitor), ?_⟩
      have counted : turn.ofMonitor = true := rfl
      rw [List.countP_append, List.countP_singleton, if_pos counted]
      omega

theorem monitor_recovers_home : ∃ is s, 25 ≤ is.countP Turn.ofMonitor ∧
    Run (tended .shipped .init homeRadio) is (s, homeRadio) ∧
    s.monitor.modem.responding = true ∧ Shows homeRadio s.monitor.modem := by
  obtain ⟨is, s, run, answering, enough⟩ := homeTurns 25
  exact ⟨is, s, enough, run, monitor_recovers (.init _) (by decide) (by decide) run answering
    enough⟩

end EdgeGateway.Modem
