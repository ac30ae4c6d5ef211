import EdgeGateway.Modem.Moves

/-!
What `status` reports of the link while the monitor loop sleeps.

Three routines write the reported flags. A check that runs to its end sets all of
those of the link, and leaves `internet_ok`; an exception or a modem that stays
silent clears `responding` alone; a test of the internet sets `internet_ok` alone.
So what is reported is fresh as long as each of them ends on flags that the others
have cleared (`health_fresh_iff`).
-/

namespace EdgeGateway.Modem

open EdgeGateway.Lib

/-! ### `status` -/

/-- `registration`. -/
def Registration.text : Registration → String
  | .registered => "REGISTERED"
  | .notRegistered => "NOT REGISTERED"

/-- An attribute that may be `None`. -/
def orNull {α : Type} (value : α → Json) : Option α → Json
  | some x => value x
  | none => .null

/-- `status`, with the two texts it takes from the configuration. -/
def ModemManager.status (apn pingHost : String) (m : ModemManager) : Dict :=
  [("enabled", .bool true), ("responding", .bool m.responding),
    ("model", .str (String.ofList m.model)), ("sim_status", .str (String.ofList m.simStatus)),
    ("operator", .str (String.ofList m.operator)), ("registration", .str m.registration.text),
    ("signal_csq", orNull .int m.signalCsq), ("signal_dbm", orNull .int m.signalDbm),
    ("data_attached", .bool m.dataAttached), ("data_active", .bool m.dataActive),
    ("mobile_ip", orNull (fun ip => .str (String.ofList ip)) m.mobileIp), ("apn", .str apn),
    ("last_check", .str m.lastCheck), ("last_error", orNull .str m.lastError),
    ("reconnect_count", .int m.reconnectCount), ("internet_ok", .bool m.internetOk),
    ("ping_host", .str pingHost), ("ping_latency_ms", orNull .int m.pingLatencyMs),
    ("last_internet_test", .str m.lastInternetTest),
    ("internet_test_failures", .int m.internetTestFailures)]

/-- What a reader of `status` may conclude from a link and from a ping it reports. -/
structure Fresh (status : Dict) : Prop where
  link : status.get "data_active" .null = .bool true ∨ status.get "mobile_ip" .null ≠ .null →
    status.get "responding" .null = .bool true ∧ status.get "sim_status" .null = .str "READY" ∧
      status.get "registration" .null = .str "REGISTERED"
  internet : status.get "internet_ok" .null = .bool true →
    status.get "responding" .null = .bool true ∧ status.get "data_active" .null = .bool true

/-- The same in terms of the attributes. -/
structure ModemManager.Fresh (m : ModemManager) : Prop where
  link : m.dataActive = true ∨ m.mobileIp ≠ none → m.responding = true ∧ m.networkUp
  internet : m.internetOk = true → m.responding = true ∧ m.dataActive = true

theorem Registration.text_eq_iff (registration : Registration) :
    registration.text = "REGISTERED" ↔ registration = .registered := by
  cases registration with
  | registered => exact ⟨fun _ => rfl, fun _ => rfl⟩
  | notRegistered => exact ⟨fun same => absurd same (by decide), nofun⟩

theorem ModemManager.fresh_status_iff (apn pingHost : String) (m : ModemManager) :
    Modem.Fresh (m.status apn pingHost) ↔ m.Fresh := by
  have ready : String.ofList m.simStatus = "READY" ↔ m.simStatus = "READY".toList := by
    rw [← String.toList_inj, String.toList_ofList]
  have address : orNull (fun ip => Json.str (String.ofList ip)) m.mobileIp ≠ .null ↔
      m.mobileIp ≠ none := by
    cases m.mobileIp with
    | none => simp [orNull]
    | some ip => simp [orNull]
  have link : (Json.bool m.dataActive = .bool true ∨
        orNull (fun ip => Json.str (String.ofList ip)) m.mobileIp ≠ .null →
      Json.bool m.responding = .bool true ∧ Json.str (String.ofList m.simStatus) = .str "READY" ∧
        Json.str m.registration.text = .str "REGISTERED") ↔
      (m.dataActive = true ∨ m.mobileIp ≠ none → m.responding = true ∧ m.networkUp) := by
    rw [address, Json.bool.injEq, Json.bool.injEq, Json.str.injEq, Json.str.injEq, ready,
      Registration.text_eq_iff]
    rfl
  have internet : (Json.bool m.internetOk = .bool true →
      Json.bool m.responding = .bool true ∧ Json.bool m.dataActive = .bool true) ↔
      (m.internetOk = true → m.responding = true ∧ m.dataActive = true) := by
    rw [Json.bool.injEq, Json.bool.injEq, Json.bool.injEq]
  constructor
  · intro fresh
    exact ⟨link.mp fresh.link, internet.mp fresh.internet⟩
  · intro fresh
    exact ⟨link.mpr fresh.link, internet.mpr fresh.internet⟩

/-! ### The property and its guard -/

/-- While the monitor loop sleeps, `status` is fresh. -/
def HealthFresh (s : ModemTasks) : Prop :=
  s.monitor.pending = .sleeping →
    ∀ apn pingHost, Modem.Fresh (s.monitor.modem.status apn pingHost)

/-- Nothing of a link is reported. -/
structure ModemManager.Silent (m : ModemManager) : Prop where
  active : m.dataActive = false
  address : m.mobileIp = none
  internet : m.internetOk = false

/-- A check of the loop raises only where nothing is reported, it finds no link and
the wait for the modem runs out only where no ping is, and a background test that
ends in the sleep of the loop has an echo only on a link that is up. -/
def HealthKept (s : ModemTasks) : Turn → Prop
  | .monitor _ (.raised _) =>
      ∀ query, s.monitor.pending = .checking false query → s.monitor.modem.Silent
  | .monitor now (.returned text) =>
      (s.monitor.givesUp now = true ∨ ∃ startup query, s.monitor.pending = .checking startup query ∧
        query.endsOffline s.monitor.modem text = true) → s.monitor.modem.internetOk = false
  | .test _ (.returned text) =>
      s.monitor.pending = .sleeping → s.test = .pinging → latencies text ≠ [] →
        s.monitor.modem.responding = true ∧ s.monitor.modem.dataActive = true
  | .test _ (.raised _) | .startInternetTest => True

/-! ### What the attributes say about the place of the monitor -/

structure HealthInv (s : ModemTasks) : Prop where
  responding : RespondingInv s.monitor
  startup : s.monitor.pending.starting = true → s.monitor.modem.Silent ∧ s.test ≠ .pinging
  network : ∀ startup query, s.monitor.pending = .checking startup query →
    query.onNetwork = true → s.monitor.modem.networkUp
  reconnects : s.monitor.pending.reconnecting = true →
    s.monitor.modem.dataActive = false ∧ s.monitor.modem.mobileIp = none
  pinging : s.monitor.pending = .pinging →
    s.monitor.modem.responding = true ∧ s.monitor.modem.networkUp ∧
      s.monitor.modem.dataActive = true
  sleeping : s.monitor.pending = .sleeping → s.monitor.modem.Fresh

theorem HealthInv.init : HealthInv .init where
  responding := .init
  startup := fun _ => ⟨⟨rfl, rfl, rfl⟩, nofun⟩
  network := nofun
  reconnects := nofun
  pinging := nofun
  sleeping := nofun

theorem ModemManager.Silent.fresh {m : ModemManager} (silent : m.Silent) : m.Fresh := by
  constructor
  · rintro (active | address)
    · rw [silent.active] at active
      cases active
    · exact absurd silent.address address
  · intro internet
    rw [silent.internet] at internet
    cases internet

/-- A fresh report of a modem that does not respond. -/
theorem ModemManager.Fresh.silent {m : ModemManager} (fresh : m.Fresh)
    (down : m.responding = false) : m.Silent := by
  have link : ¬ (m.dataActive = true ∨ m.mobileIp ≠ none) := by
    intro reported
    have up := (fresh.link reported).1
    rw [down] at up
    cases up
  rw [not_or] at link
  refine ⟨by simpa using link.1, by simpa using link.2, ?_⟩
  by_contra internet
  have up := (fresh.internet (by simpa using internet)).1
  rw [down] at up
  cases up

theorem ModemManager.Silent.same {m m' : ModemManager} (silent : m.Silent)
    (active : m'.dataActive = m.dataActive)
    (address : m'.mobileIp = m.mobileIp ∨ m'.mobileIp = none)
    (internet : m'.internetOk = m.internetOk) : m'.Silent := by
  refine ⟨active.trans silent.active, ?_, internet.trans silent.internet⟩
  exact address.elim (fun same => same.trans silent.address) id

theorem SameLink.networkUp {m m' : ModemManager} (link : SameLink m m') :
    m'.networkUp ↔ m.networkUp := by
  unfold ModemManager.networkUp
  rw [link.simStatus, link.registration]

/-- A state in the sleep of the loop. -/
theorem HealthInv.sleep {s : ModemTasks} (responding : RespondingInv s.monitor)
    (sleeping : s.monitor.pending = .sleeping) (fresh : s.monitor.modem.Fresh) : HealthInv s where
  responding := responding
  startup := fun starting => by
    rw [sleeping] at starting
    cases starting
  network := fun startup query pending => by
    rw [sleeping] at pending
    cases pending
  reconnects := fun reconnecting => by
    rw [sleeping] at reconnecting
    cases reconnecting
  pinging := fun pinging => by
    rw [sleeping] at pinging
    cases pinging
  sleeping := fun _ => fresh

/-- A state in an exchange of a check. -/
theorem HealthInv.checking {s : ModemTasks} {startup : Bool} {query : Query}
    (responding : RespondingInv s.monitor) (pending : s.monitor.pending = .checking startup query)
    (silent : startup = true → s.monitor.modem.Silent ∧ s.test ≠ .pinging)
    (network : query.onNetwork = true → s.monitor.modem.networkUp) : HealthInv s where
  responding := responding
  startup := fun starting => by
    rw [pending] at starting
    exact silent (Await.startup_of_starting starting)
  network := fun startup' query' checking onNetwork => by
    rw [pending] at checking
    obtain ⟨rfl, rfl⟩ := Await.checking.inj checking
    exact network onNetwork
  reconnects := fun reconnecting => by
    rw [pending] at reconnecting
    cases reconnecting
  pinging := fun pinging => by
    rw [pending] at pinging
    cases pinging
  sleeping := fun sleeping => by
    rw [pending] at sleeping
    cases sleeping

/-- The end of a check, with the modem responding. -/
theorem HealthInv.completed {s s' : ModemTasks} {startup : Bool} {query : Query} {text : Text}
    (inv : HealthInv s) (responding : RespondingInv s'.monitor)
    (pending : s.monitor.pending = .checking startup query)
    (pending' : s'.monitor.pending = .sleeping ∨
      s'.monitor.pending = .pinging ∧ startup = false ∧ s'.monitor.modem.dataActive = true)
    (same : s'.monitor.modem.responding = s.monitor.modem.responding)
    (network : s'.monitor.modem.networkUp ↔ s.monitor.modem.networkUp)
    (active : s'.monitor.modem.dataActive = !query.endsOffline s.monitor.modem text)
    (address : s'.monitor.modem.mobileIp ≠ none → s'.monitor.modem.dataActive = true)
    (online : s'.monitor.modem.dataActive = true → query.onNetwork = true)
    (internet : s'.monitor.modem.internetOk = s.monitor.modem.internetOk)
    (kept : query.endsOffline s.monitor.modem text = true → s.monitor.modem.internetOk = false) :
    HealthInv s' := by
  have up : s'.monitor.modem.responding = true := by
    rw [same]
    exact inv.responding.checks (by rw [pending]; rfl)
  have onNetwork (found : s'.monitor.modem.dataActive = true) : s'.monitor.modem.networkUp :=
    network.mpr (inv.network startup query pending (online found))
  obtain sleeping | ⟨pinging, -, found⟩ := pending'
  · refine .sleep responding sleeping ⟨?_, ?_⟩
    · intro reported
      exact ⟨up, onNetwork (reported.elim id address)⟩
    · intro ok
      refine ⟨up, ?_⟩
      rw [active]
      by_contra offline
      have offline : query.endsOffline s.monitor.modem text = true := by simpa using offline
      rw [internet, kept offline] at ok
      cases ok
  · refine ⟨responding, ?_, ?_, ?_, fun _ => ⟨up, onNetwork found, found⟩, ?_⟩
    · intro starting
      rw [pinging] at starting
      cases starting
    · intro startup' query' checking
      rw [pinging] at checking
      cases checking
    · intro reconnecting
      rw [pinging] at reconnecting
      cases reconnecting
    · intro sleeping
      rw [pinging] at sleeping
      cases sleeping

theorem HealthInv.move {now : Clock} {ending : Ending} {s s' : ModemTasks} (inv : HealthInv s)
    (kept : HealthKept s (.monitor now ending)) (move : Move now s.monitor ending s'.monitor)
    (test : s'.test = s.test) : HealthInv s' := by
  have responding := move.respondingInv inv.responding
  cases move with
  | waits outside outside' awake quiet starting reconnects resting link internet =>
      refine ⟨responding, ?_, ?_, ?_, fun pinging => absurd pinging quiet,
        fun sleeping => absurd sleeping awake⟩
      · intro isStarting
        obtain ⟨silent, idle⟩ := inv.startup (starting isStarting)
        exact ⟨silent.same link.dataActive (.inl link.mobileIp) internet, test ▸ idle⟩
      · intro startup query pending
        rw [pending] at outside'
        cases outside'
      · intro reconnecting
        have loop := Await.starting_of_reconnecting reconnecting
        rw [link.dataActive, link.mobileIp]
        obtain sleeping | before := resting loop
        · have silent := (inv.sleeping sleeping).silent (reconnects loop).2
          exact ⟨silent.active, silent.address⟩
        · exact inv.reconnects before
  | rests outside sleeping cause link internet =>
      refine .sleep responding sleeping ?_
      have silent : s.monitor.modem.Silent := by
        obtain starting | ⟨down, asleep | ⟨givesUp, text, rfl⟩⟩ := cause
        · exact (inv.startup starting).1
        · exact (inv.sleeping asleep).silent down
        · obtain ⟨active, address⟩ := inv.reconnects (Monitor.reconnecting_of_givesUp givesUp)
          exact ⟨active, address, kept (.inl givesUp)⟩
      exact (silent.same link.dataActive (.inl link.mobileIp) internet).fresh
  | begins startup outside starting reconnects pending profile link internet =>
      refine .checking responding pending (fun isStartup => ?_) nofun
      obtain ⟨silent, idle⟩ := inv.startup (starting.trans isStartup)
      exact ⟨silent.same link.dataActive (.inl link.mobileIp) internet, test ▸ idle⟩
  | asks startup query query' ended pending pending' goesOn same network attaches profile active
      address internet =>
      refine .checking responding pending' (fun isStartup => ?_) fun onNetwork => ?_
      · have starting : s.monitor.pending.starting = true := by
          rw [pending, isStartup]
          rfl
        obtain ⟨silent, idle⟩ := inv.startup starting
        exact ⟨silent.same active address internet, test ▸ idle⟩
      · obtain up | ⟨already, same⟩ := network onNetwork
        · exact up
        · exact same.mpr (inv.network startup query pending already)
  | completes startup query ended pending pending' same network profile active address online
      internet =>
      subst ended
      exact inv.completed responding pending pending' same network active address online internet
        fun offline => kept (.inr ⟨startup, query, pending, offline⟩)
  | raises startup query ended pending pending' link internet =>
      subst ended
      have silent : s.monitor.modem.Silent := by
        cases startup with
        | true => exact (inv.startup (by rw [pending]; rfl)).1
        | false => exact kept query pending
      exact .sleep responding pending'
        (silent.same link.dataActive (.inl link.mobileIp) internet).fresh
  | tests pending pending' link internet =>
      obtain ⟨up, network, active⟩ := inv.pinging pending
      refine .sleep responding pending' ⟨fun _ => ⟨?_, ?_⟩, fun _ => ⟨?_, ?_⟩⟩
      · exact link.responding.trans up
      · exact link.networkUp.mpr network
      · exact link.responding.trans up
      · exact link.dataActive.trans active

theorem HealthInv.beside {s s' : ModemTasks} {i : Turn} (inv : HealthInv s)
    (kept : HealthKept s i) (beside : Beside s i s') : HealthInv s' := by
  have responding := beside.respondingInv inv.responding
  obtain ⟨pending, link⟩ := beside.sameMonitor
  have sameLink (linkFresh : s.monitor.modem.Fresh)
      (internet : s'.monitor.modem.internetOk = true →
        s.monitor.modem.responding = true ∧ s.monitor.modem.dataActive = true) :
      s'.monitor.modem.Fresh := by
    constructor
    · rw [link.dataActive, link.mobileIp, link.responding, link.networkUp]
      exact linkFresh.link
    · rw [link.responding, link.dataActive]
      exact internet
  have settled (internet : s.monitor.modem.internetOk = false → s.test ≠ .pinging →
        s'.monitor.modem.internetOk = false)
      (idle : s.monitor.modem.dataActive = false → s.test ≠ .pinging → s'.test ≠ .pinging)
      (fresh : s.monitor.pending = .sleeping → s'.monitor.modem.internetOk = true →
        s.monitor.modem.responding = true ∧ s.monitor.modem.dataActive = true) :
      HealthInv s' := by
    refine ⟨responding, ?_, ?_, ?_, ?_, ?_⟩
    · rw [pending]
      intro starting
      obtain ⟨silent, quiet⟩ := inv.startup starting
      exact ⟨⟨link.dataActive.trans silent.active, link.mobileIp.trans silent.address,
        internet silent.internet quiet⟩, idle silent.active quiet⟩
    · rw [pending, link.networkUp]
      exact inv.network
    · rw [pending, link.dataActive, link.mobileIp]
      exact inv.reconnects
    · rw [pending, link.responding, link.networkUp, link.dataActive]
      exact inv.pinging
    · rw [pending]
      intro sleeping
      exact sameLink (inv.sleeping sleeping) (fresh sleeping)
  cases beside with
  | starts same test =>
      have internet : s'.monitor.modem.internetOk = s.monitor.modem.internetOk := by rw [same]
      refine settled (fun off _ => internet.trans off) (fun _ quiet => mt test quiet) ?_
      intro sleeping ok
      exact (inv.sleeping sleeping).internet (internet.symm.trans ok)
  | begins scheduled _ _ _ test internet =>
      refine settled (fun off _ => ?_) (fun inactive _ => ?_) ?_
      · simpa [off] using internet
      · intro pinging
        have active := (test pinging).2
        rw [inactive] at active
        cases active
      · intro sleeping ok
        exact (inv.sleeping sleeping).internet (internet ok)
  | ends pinging idle _ _ _ internet =>
      refine settled (fun _ quiet => absurd pinging quiet) (fun _ quiet => absurd pinging quiet) ?_
      intro sleeping ok
      obtain ⟨text, rfl, echoes⟩ := internet.mp ok
      exact kept sleeping pinging echoes

theorem HealthInv.step {cfg : Config} {s s' : ModemTasks} {i : Turn} (inv : HealthInv s)
    (kept : HealthKept s i) (step : (modemTasks cfg).step s i = some s') : HealthInv s' := by
  obtain ⟨now, ending, rfl, move, test⟩ | beside := ModemTasks.step_moves inv.responding step
  · exact inv.move kept move test
  · exact inv.beside kept beside

/-! ### Where the guard fails -/

/-- What a state in the sleep of the loop has to meet. -/
theorem HealthFresh.attributes {s : ModemTasks} (fresh : HealthFresh s)
    (sleeping : s.monitor.pending = .sleeping) : s.monitor.modem.Fresh :=
  (s.monitor.modem.fresh_status_iff "" "").mp (fresh sleeping "" "")

/-- A check of the loop raises, and something stays reported. -/
theorem raised_not_fresh {now : Clock} {exc : PyError} {query : Query} {s s' : ModemTasks}
    (pending : s.monitor.pending = .checking false query) (reported : ¬ s.monitor.modem.Silent)
    (move : Move now s.monitor (.raised exc) s'.monitor) : ¬ HealthFresh s' := by
  intro fresh
  cases move with
  | raises startup query' ended pending' sleeping link internet =>
      rw [pending] at pending'
      obtain ⟨rfl, rfl⟩ := Await.checking.inj pending'
      have silent := (fresh.attributes sleeping).silent link.responding
      exact reported (silent.same link.dataActive.symm (.inl link.mobileIp.symm) internet.symm)
  | waits outside | rests outside | begins startup outside =>
      rw [pending] at outside
      cases outside
  | asks startup query' query'' ended => cases ended
  | completes startup query' ended => cases ended
  | tests pinging =>
      rw [pending] at pinging
      cases pinging

/-- A check finds no link, and a ping stays reported. -/
theorem offline_not_fresh {now : Clock} {text : Text} {startup : Bool} {query : Query}
    {s s' : ModemTasks} (pending : s.monitor.pending = .checking startup query)
    (offline : query.endsOffline s.monitor.modem text = true)
    (reported : s.monitor.modem.internetOk = true)
    (move : Move now s.monitor (.returned text) s'.monitor) : ¬ HealthFresh s' := by
  intro fresh
  cases move with
  | completes startup' query' ended pending' place _ _ _ active _ _ internet =>
      rw [pending] at pending'
      obtain ⟨rfl, rfl⟩ := Await.checking.inj pending'
      obtain rfl := Ending.returned.inj ended
      have inactive : s'.monitor.modem.dataActive = false := by
        rw [active, offline]
        rfl
      obtain sleeping | ⟨-, -, found⟩ := place
      · have up := (fresh.attributes sleeping).internet (internet.trans reported)
        rw [inactive] at up
        cases up.2
      · rw [inactive] at found
        cases found
  | asks startup' query' query'' ended pending' _ goesOn =>
      rw [pending] at pending'
      obtain ⟨rfl, rfl⟩ := Await.checking.inj pending'
      obtain rfl := Ending.returned.inj ended
      rw [offline] at goesOn
      cases goesOn
  | waits outside | rests outside | begins startup outside =>
      rw [pending] at outside
      cases outside
  | raises startup query' ended => cases ended
  | tests pinging =>
      rw [pending] at pinging
      cases pinging

/-- The wait for the modem runs out, and a ping stays reported. -/
theorem givesUp_not_fresh {cfg : Config} {now : Clock} {ending : Ending} {s s' : ModemTasks}
    (givesUp : s.monitor.givesUp now = true) (reported : s.monitor.modem.internetOk = true)
    (resumed : s.monitor.resume cfg now ending = some s'.monitor) : ¬ HealthFresh s' := by
  intro fresh
  have there := Monitor.resume_givesUp givesUp resumed
  have sleeping : s'.monitor.pending = .sleeping := by rw [there]
  have ok : s'.monitor.modem.internetOk = true := by rw [there, reported]
  have up := ((fresh.attributes sleeping).internet ok).1
  rw [there] at up
  cases up

theorem HealthInv.lost {cfg : Config} {s s' : ModemTasks} {i : Turn} (inv : HealthInv s)
    (lost : ¬ HealthKept s i) (step : (modemTasks cfg).step s i = some s') : ¬ HealthFresh s' := by
  obtain ⟨now, ending, rfl, resumed, -⟩ | beside := ModemTasks.step_cases step
  · have move := Monitor.resume_move inv.responding resumed
    cases ending with
    | raised exc =>
        simp only [HealthKept, not_forall] at lost
        obtain ⟨query, pending, reported⟩ := lost
        exact raised_not_fresh pending reported move
    | returned text =>
        simp only [HealthKept, Classical.not_imp, Bool.not_eq_false] at lost
        obtain ⟨givesUp | ⟨startup, query, pending, offline⟩, reported⟩ := lost
        · exact givesUp_not_fresh givesUp reported resumed
        · exact offline_not_fresh pending offline reported move
  · obtain ⟨pending, link⟩ := beside.sameMonitor
    cases beside with
    | starts same test => exact absurd trivial lost
    | begins scheduled =>
        simp only [HealthKept, scheduled] at lost
        simp at lost
    | @ends now ending _ pinging idle _ _ _ internet =>
        cases ending with
        | raised exc => exact absurd trivial lost
        | returned text =>
            simp only [HealthKept, Classical.not_imp] at lost
            obtain ⟨sleeping, -, echoes, down⟩ := lost
            intro fresh
            have up := (fresh.attributes (pending.trans sleeping)).internet
              (internet.mpr ⟨text, rfl, echoes⟩)
            rw [link.responding, link.dataActive] at up
            exact down up

/-- **What `status` reports in the sleep of the loop is fresh, exactly if no check of
the loop raises while something is reported, none ends offline and no wait for the
modem runs out while a ping is, and no background test hears an echo during that
sleep with the link down.** -/
theorem health_fresh_iff {cfg : Config} {is : List Turn} {last : ModemTasks}
    (whole : Run (modemTasks cfg) is last) :
    Always (modemTasks cfg) HealthFresh is ↔ EachStep (modemTasks cfg) HealthKept is := by
  refine always_iff_eachStep (I := HealthInv) HealthInv.init
    (fun s i s' inv kept step => inv.step kept step) ?_
    (fun s i s' inv lost step => inv.lost lost step) whole
  intro s inv sleeping apn pingHost
  exact (s.monitor.modem.fresh_status_iff apn pingHost).mpr (inv.sleeping sleeping)

/-- The first check finds a data link, and the next one times out. -/
def linkLost : List Turn :=
  [.answer "", .ok, .ok] ++ Turn.findsNetwork ++ [.ok] ++ Turn.findsLink ++
    [.answer "", .timesOut]

theorem health_fresh_iff_lost :
    ∃ last, Run (modemTasks .shipped) linkLost last ∧
      (Always (modemTasks .shipped) HealthFresh linkLost ↔
        EachStep (modemTasks .shipped) HealthKept linkLost) :=
  have run := run_iff_exec.mpr rfl
  ⟨_, run, health_fresh_iff run⟩

/-- The loop sleeps on a modem that does not respond, and `status` reports its link. -/
theorem stale_link_reported :
    ∃ last, Run (modemTasks .shipped) linkLost last ∧ last.monitor.pending = .sleeping ∧
      last.monitor.modem.responding = false ∧ last.monitor.modem.dataActive = true ∧
      last.monitor.modem.mobileIp = some "10.0.0.7".toList ∧ ¬ HealthFresh last := by
  refine ⟨_, run_iff_exec.mpr rfl, by decide, by decide, by decide, by decide, ?_⟩
  intro fresh
  cases ((fresh.attributes rfl).link (.inl rfl)).1

end EdgeGateway.Modem
