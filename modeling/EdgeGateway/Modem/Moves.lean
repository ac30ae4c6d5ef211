import EdgeGateway.Modem.Background

/-!
What a stretch of the monitor does to the link.

`Move` tells a stretch by where it leads: on to another wait, to the sleep of the
loop, into a check, from one exchange of a check to the next, and out of the check
by its last answer or by an exception. For each it says what becomes of the
attributes that `status` reports and of `_pdp_configured` (`Monitor.resume_move`).

It rests on what `responding` says about the place of the task: it is set in
every check, and cleared while the loop waits for the modem (`RespondingInv`).
-/

namespace EdgeGateway.Modem

open EdgeGateway.Lib

/-! ### The exchanges of a check -/

/-- SIM and registration as a check needs them to attach. -/
def ModemManager.networkUp (m : ModemManager) : Prop :=
  m.simStatus = "READY".toList ∧ m.registration = .registered

instance (m : ModemManager) : Decidable m.networkUp := inferInstanceAs (Decidable (_ ∧ _))

/-- `AT+CGATT`, `AT+CGPADDR` and `AT+CGACT`. -/
def Query.attaches : Query → Bool
  | .attached | .attach | .address | .activate | .addressAgain _ => true
  | .identity | .sim | .signal | .registration | .operator | .defineContext => false

/-- Sent to a modem that is registered. -/
def Query.onNetwork (query : Query) : Bool := query.attaches || query = .defineContext

/-- The answer ends the check without a data link. -/
def Query.endsOffline (m : ModemManager) (text : Text) : Query → Bool
  | .operator => ¬ m.networkUp
  | .addressAgain activationOk => (ipAddress text).isNone && !activationOk
  | .identity | .sim | .signal | .registration | .defineContext | .attached | .attach | .address
  | .activate => false

/-! ### Waiting for the modem in the loop -/

/-- In the `_wait_for_modem` of the monitor loop. -/
def Await.reconnecting : Await → Bool
  | .probing .monitor _ | .pausing .monitor _ => true
  | _ => false

/-- The last pause of that wait ends behind its deadline. -/
def Monitor.givesUp (now : Clock) (s : Monitor) : Bool :=
  match s.pending with
  | .pausing .monitor deadline => ticksDiff deadline now.ticks ≤ 0
  | _ => false

theorem Monitor.resume_givesUp {cfg : Config} {now : Clock} {s s' : Monitor} {ending : Ending}
    (givesUp : s.givesUp now = true) (step : s.resume cfg now ending = some s') :
    s' = ⟨{ s.modem with responding := false }, .sleeping⟩ := by
  obtain ⟨m, pending⟩ := s
  unfold Monitor.givesUp at givesUp
  dsimp only at givesUp
  split at givesUp
  · rename_i deadline
    cases ending with
    | returned text =>
        have past : ¬ 0 < ticksDiff deadline now.ticks := by simpa using givesUp
        cases step
        unfold Monitor.probe
        rw [if_neg past]
        rfl
    | raised exc => cases step
  · cases givesUp

theorem Monitor.reconnecting_of_givesUp {now : Clock} {s : Monitor}
    (givesUp : s.givesUp now = true) : s.pending.reconnecting = true := by
  unfold Monitor.givesUp at givesUp
  split at givesUp
  · rename_i pending
    rw [pending]
    rfl
  · cases givesUp

/-- What `responding` says about the place of the monitor. -/
structure RespondingInv (s : Monitor) : Prop where
  checks : s.pending.inCheck = true → s.modem.responding = true
  reconnects : s.pending.reconnecting = true → s.modem.responding = false

theorem RespondingInv.init : RespondingInv .init := ⟨nofun, nofun⟩

theorem Await.startup_of_starting {startup : Bool} {query : Query}
    (starting : (Await.checking startup query).starting = true) : startup = true := by
  cases startup with
  | true => rfl
  | false => cases starting

/-! ### Moves -/

/-- What a stretch of the monitor does to the link. -/
inductive Move (now : Clock) (s : Monitor) (ending : Ending) (s' : Monitor) : Prop where
  /-- to another wait -/
  | waits (outside : s.pending.inCheck = false) (outside' : s'.pending.inCheck = false)
      (awake : s'.pending ≠ .sleeping) (quiet : s'.pending ≠ .pinging)
      (starting : s'.pending.starting = true → s.pending.starting = true)
      (reconnects : s'.pending.starting = false →
        s'.pending.reconnecting = true ∧ s.modem.responding = false)
      (resting : s'.pending.starting = false →
        s.pending = .sleeping ∨ s.pending.reconnecting = true)
      (link : SameLink s.modem s'.modem) (internet : s'.modem.internetOk = s.modem.internetOk)
  /-- to the sleep of the loop, without a check -/
  | rests (outside : s.pending.inCheck = false) (sleeping : s'.pending = .sleeping)
      (cause : s.pending.starting = true ∨
        s.modem.responding = false ∧
          (s.pending = .sleeping ∨ s.givesUp now = true ∧ ∃ text, ending = .returned text))
      (link : SameLink s.modem s'.modem) (internet : s'.modem.internetOk = s.modem.internetOk)
  | begins (startup : Bool) (outside : s.pending.inCheck = false)
      (starting : s.pending.starting = startup)
      (reconnects : startup = false → s.pending = .sleeping ∨ s.pending.reconnecting = true)
      (pending : s'.pending = .checking startup .identity)
      (profile : s'.modem.pdpConfigured =
        (s.modem.pdpConfigured && (startup || s.modem.responding)))
      (link : SameLink
        { s.modem with responding := true, pdpConfigured := s'.modem.pdpConfigured } s'.modem)
      (internet : s'.modem.internetOk = s.modem.internetOk)
  /-- from one exchange of a check to the next -/
  | asks {text : Text} (startup : Bool) (query query' : Query) (ended : ending = .returned text)
      (pending : s.pending = .checking startup query)
      (pending' : s'.pending = .checking startup query')
      (goesOn : query.endsOffline s.modem text = false)
      (responding : s'.modem.responding = s.modem.responding)
      (network : query'.onNetwork = true → s'.modem.networkUp ∨
        query.onNetwork = true ∧ (s'.modem.networkUp ↔ s.modem.networkUp))
      (attaches : query'.attaches = (query.onNetwork ||
        query = .operator && decide s.modem.networkUp && s.modem.pdpConfigured))
      (profile : s'.modem.pdpConfigured = (s.modem.pdpConfigured || query = .defineContext))
      (active : s'.modem.dataActive = s.modem.dataActive)
      (address : s'.modem.mobileIp = s.modem.mobileIp ∨ s'.modem.mobileIp = none)
      (internet : s'.modem.internetOk = s.modem.internetOk)
  | completes {text : Text} (startup : Bool) (query : Query) (ended : ending = .returned text)
      (pending : s.pending = .checking startup query)
      (pending' : s'.pending = .sleeping ∨
        s'.pending = .pinging ∧ startup = false ∧ s'.modem.dataActive = true)
      (responding : s'.modem.responding = s.modem.responding)
      (network : s'.modem.networkUp ↔ s.modem.networkUp)
      (profile : s'.modem.pdpConfigured = s.modem.pdpConfigured)
      (active : s'.modem.dataActive = !query.endsOffline s.modem text)
      (address : s'.modem.mobileIp ≠ none → s'.modem.dataActive = true)
      (online : s'.modem.dataActive = true → query.onNetwork = true)
      (internet : s'.modem.internetOk = s.modem.internetOk)
  | raises {exc : PyError} (startup : Bool) (query : Query) (ended : ending = .raised exc)
      (pending : s.pending = .checking startup query) (pending' : s'.pending = .sleeping)
      (link : SameLink
        { s.modem with responding := startup && s.modem.responding } s'.modem)
      (internet : s'.modem.internetOk = s.modem.internetOk)
  | tests (pending : s.pending = .pinging) (pending' : s'.pending = .sleeping)
      (link : SameLink s.modem s'.modem)
      (internet : s'.modem.internetOk = true →
        ∃ text, ending = .returned text ∧ latencies text ≠ [])

/-- Within the startup block, outside of its check. -/
theorem Move.startsUp {now : Clock} {s s' : Monitor} {ending : Ending}
    (outside : s.pending.inCheck = false) (outside' : s'.pending.inCheck = false)
    (starting : s.pending.starting = true) (starting' : s'.pending.starting = true)
    (link : SameLink s.modem s'.modem) (internet : s'.modem.internetOk = s.modem.internetOk) :
    Move now s ending s' := by
  refine .waits outside outside' ?_ ?_ (fun _ => starting) ?_ ?_ link internet
  · intro sleeping
    rw [sleeping] at starting'
    cases starting'
  · intro pinging
    rw [pinging] at starting'
    cases starting'
  · intro loop
    rw [starting'] at loop
    cases loop
  · intro loop
    rw [starting'] at loop
    cases loop

/-- Only the reconnect loop probes behind the startup. -/
theorem probe_of_loop {probe : Probe} (loop : decide (probe ≠ .monitor) = false) :
    probe = .monitor := by
  simpa using loop

/-- The head of the loop of `_wait_for_modem`. -/
theorem Monitor.probe_move {now : Clock} {probe : Probe} {deadline : Nat} {s : Monitor}
    {m : ModemManager} {ending : Ending} (outside : s.pending.inCheck = false)
    (starting : s.pending.starting = decide (probe ≠ .monitor))
    (link : SameLink s.modem m) (internet : m.internetOk = s.modem.internetOk)
    (reconnects : probe = .monitor → s.modem.responding = false ∧
      (s.pending = .sleeping ∨
        s.pending = .pausing .monitor deadline ∧ ∃ text, ending = .returned text)) :
    Move now s ending (.probe now probe deadline m) := by
  unfold Monitor.probe
  split
  · refine .waits outside rfl (by simp) (by simp) ?_ ?_ ?_ link internet
    · rw [starting]
      exact id
    · intro loop
      obtain rfl := probe_of_loop loop
      exact ⟨rfl, (reconnects rfl).1⟩
    · intro loop
      obtain rfl := probe_of_loop loop
      obtain sleeping | ⟨pausing, -⟩ := (reconnects rfl).2
      · exact .inl sleeping
      · rw [pausing]
        exact .inr rfl
  · rename_i past
    cases probe with
    | first => exact .startsUp outside rfl starting rfl link internet
    | second =>
        refine .rests outside ?_ (.inl starting) ?_ internet
        · rfl
        · exact ⟨link.1, link.2, link.3, link.4, link.5, link.6⟩
    | monitor =>
        obtain ⟨down, place⟩ := reconnects rfl
        refine .rests outside ?_ (.inr ⟨down, ?_⟩) ?_ internet
        · rfl
        · obtain sleeping | ⟨pausing, returned⟩ := place
          · exact .inl sleeping
          · refine .inr ⟨?_, returned⟩
            unfold Monitor.givesUp
            rw [pausing]
            simpa using past
        · exact ⟨down.symm, link.2, link.3, link.4, link.5, link.6⟩

/-- A probe without an answer. -/
theorem Monitor.pause_move {now : Clock} {probe : Probe} {deadline : Nat} {m : ModemManager}
    {ending : Ending} (inv : RespondingInv ⟨m, .probing probe deadline⟩) :
    Move now ⟨m, .probing probe deadline⟩ ending ⟨m, .pausing probe deadline⟩ := by
  refine .waits rfl rfl (by simp) (by simp) id ?_ ?_ (.refl m) rfl
  · intro loop
    obtain rfl := probe_of_loop loop
    exact ⟨rfl, inv.reconnects rfl⟩
  · intro loop
    obtain rfl := probe_of_loop loop
    exact .inr rfl

/-- A check that completes begins a test, or the loop sleeps. -/
theorem Monitor.endCheck_cases (cfg : Config) (now : Clock) (startup : Bool) {m : ModemManager}
    (responding : m.responding = true) :
    (startup = false ∧ m.dataActive = true ∧
      Monitor.endCheck cfg now startup m =
        ⟨{ m with lastCheck := now.text, lastError := none, lastTestTicks := some now.ticks,
                  lastInternetTest := now.text }, .pinging⟩) ∨
    Monitor.endCheck cfg now startup m =
      ⟨{ m with lastCheck := now.text, lastError := none }, .sleeping⟩ := by
  unfold Monitor.endCheck Monitor.beginTest
  dsimp only
  split
  · rename_i due
    simp only [Bool.and_eq_true, Bool.not_eq_true'] at due
    obtain ⟨⟨loop, active⟩, -⟩ := due
    rw [if_neg (by simp [responding, active])]
    exact .inl ⟨loop, active, rfl⟩
  · exact .inr rfl

/-- What `endCheck` leaves alone while the modem responds. -/
theorem Monitor.endCheck_link (cfg : Config) (now : Clock) (startup : Bool) {m : ModemManager}
    (responding : m.responding = true) :
    let s' := Monitor.endCheck cfg now startup m
    SameLink m s'.modem ∧ s'.modem.internetOk = m.internetOk ∧
      (s'.pending = .sleeping ∨ s'.pending = .pinging ∧ startup = false ∧ m.dataActive = true) := by
  obtain ⟨loop, active, same⟩ | same := Monitor.endCheck_cases cfg now startup responding
  · rw [same]
    exact ⟨⟨rfl, rfl, rfl, rfl, rfl, rfl⟩, rfl, .inr ⟨rfl, loop, active⟩⟩
  · rw [same]
    exact ⟨⟨rfl, rfl, rfl, rfl, rfl, rfl⟩, rfl, .inl rfl⟩

/-- An answer within a check. -/
theorem Monitor.answered_move {cfg : Config} {now : Clock} {startup : Bool} {query : Query}
    {m : ModemManager} (responding : m.responding = true) (text : Text) :
    Move now ⟨m, .checking startup query⟩ (.returned text)
      (.answered cfg now startup m text query) := by
  have ends {m' : ModemManager} (up : m'.responding = true)
      (network : m'.networkUp ↔ m.networkUp) (profile : m'.pdpConfigured = m.pdpConfigured)
      (active : m'.dataActive = !query.endsOffline m text)
      (address : m'.mobileIp ≠ none → m'.dataActive = true)
      (online : m'.dataActive = true → query.onNetwork = true)
      (internet : m'.internetOk = m.internetOk) :
      Move now ⟨m, .checking startup query⟩ (.returned text) (.endCheck cfg now startup m') := by
    obtain ⟨link, internet', pending⟩ := Monitor.endCheck_link cfg now startup up
    refine .completes startup query rfl rfl ?_ ?_ ?_ ?_ ?_ ?_ ?_ (internet'.trans internet)
    · rw [link.dataActive]
      exact pending
    · rw [link.responding, up, responding]
    · unfold ModemManager.networkUp
      rw [link.simStatus, link.registration]
      exact network
    · rw [link.pdpConfigured, profile]
    · rw [link.dataActive, active]
    · rw [link.dataActive, link.mobileIp]
      exact address
    · rw [link.dataActive]
      exact online
  have asks {m' : ModemManager} {query' : Query} (goesOn : query.endsOffline m text = false)
      (up : m'.responding = m.responding)
      (network : query'.onNetwork = true → m'.networkUp ∨
        query.onNetwork = true ∧ (m'.networkUp ↔ m.networkUp))
      (attaches : query'.attaches = (query.onNetwork ||
        query = .operator && decide m.networkUp && m.pdpConfigured))
      (profile : m'.pdpConfigured = (m.pdpConfigured || query = .defineContext))
      (active : m'.dataActive = m.dataActive)
      (address : m'.mobileIp = m.mobileIp ∨ m'.mobileIp = none)
      (internet : m'.internetOk = m.internetOk) :
      Move now ⟨m, .checking startup query⟩ (.returned text) (.ask startup query' m') :=
    .asks startup query query' rfl rfl rfl goesOn up network attaches profile active address
      internet
  cases query with
  | identity | sim | signal | registration =>
      exact asks rfl rfl (fun on => by cases on) rfl (Bool.or_false _).symm rfl (.inl rfl) rfl
  | defineContext =>
      exact asks rfl rfl (fun _ => .inr ⟨rfl, Iff.rfl⟩) rfl (Bool.or_true _).symm rfl (.inl rfl) rfl
  | operator =>
      simp only [Monitor.answered]
      split
      · rename_i network
        have up : m.networkUp := network
        refine asks ?_ rfl (fun _ => .inl network) ?_ (Bool.or_false _).symm rfl (.inl rfl) rfl
        · simp [Query.endsOffline, up]
        split
        · rename_i known
          simp [Query.attaches, Query.onNetwork, up, show m.pdpConfigured = true from known]
        · rename_i unknown
          have unknown : m.pdpConfigured = false := by simpa using unknown
          simp [Query.attaches, Query.onNetwork, unknown]
      · rename_i network
        have down : ¬ m.networkUp := network
        refine ends responding Iff.rfl rfl ?_ (fun some => absurd rfl some) ?_ rfl
        · simp [ModemManager.offline, Query.endsOffline, down]
        · intro active
          cases active
  | attached =>
      simp only [Monitor.answered]
      refine asks rfl rfl (fun _ => .inr ⟨rfl, Iff.rfl⟩) ?_ (Bool.or_false _).symm rfl (.inl rfl)
        rfl
      split <;> rfl
  | attach | activate =>
      exact asks rfl rfl (fun _ => .inr ⟨rfl, Iff.rfl⟩) rfl (Bool.or_false _).symm rfl (.inl rfl)
        rfl
  | address =>
      simp only [Monitor.answered]
      split
      · exact ends responding Iff.rfl rfl rfl (fun _ => rfl) (fun _ => rfl) rfl
      · rename_i noAddress
        refine asks rfl rfl (fun _ => .inr ⟨rfl, Iff.rfl⟩) rfl (Bool.or_false _).symm rfl (.inr ?_)
          rfl
        simpa using noAddress
  | addressAgain activationOk =>
      refine ends responding Iff.rfl rfl ?_ ?_ (fun _ => rfl) rfl
      · simp [Query.endsOffline, ← Option.not_isSome]
      · intro address
        simp [Option.isSome_iff_ne_none.mpr address]

/-- **Every stretch is one of these.** -/
theorem Monitor.resume_move {cfg : Config} {now : Clock} {s s' : Monitor} {ending : Ending}
    (inv : RespondingInv s) (step : s.resume cfg now ending = some s') : Move now s ending s' := by
  obtain ⟨m, pending⟩ := s
  unfold Monitor.resume at step
  dsimp only at step
  split at step <;> cases step
  · exact Monitor.probe_move rfl rfl ⟨rfl, rfl, rfl, rfl, rfl, rfl⟩ rfl nofun
  · refine .rests rfl ?_ (.inl rfl) ?_ ?_
    · rfl
    · exact ⟨rfl, rfl, rfl, rfl, rfl, rfl⟩
    · rfl
  · rename_i probe deadline text
    split
    · cases probe with
      | first => exact Monitor.probe_move rfl rfl (.refl m) rfl nofun
      | second =>
          refine .begins true rfl rfl nofun rfl ?_ ⟨rfl, rfl, rfl, rfl, rfl, rfl⟩ rfl
          exact (Bool.and_true _).symm
      | monitor =>
          have down : m.responding = false := inv.reconnects rfl
          refine .begins false rfl rfl (fun _ => .inr rfl) rfl ?_ ⟨rfl, rfl, rfl, rfl, rfl, rfl⟩ rfl
          simp [Monitor.probed, Monitor.beginCheck, Monitor.ask, down]
    · exact Monitor.pause_move inv
  · exact Monitor.pause_move inv
  · rename_i probe deadline text
    refine Monitor.probe_move rfl rfl (.refl m) rfl ?_
    rintro rfl
    exact ⟨inv.reconnects rfl, .inr ⟨rfl, text, rfl⟩⟩
  · exact Monitor.probe_move rfl rfl (.refl m) rfl nofun
  · exact .startsUp rfl rfl rfl rfl (.refl m) rfl
  · exact Monitor.answered_move (inv.checks rfl) _
  · rename_i startup query exc
    refine .raises startup query rfl rfl ?_ ?_ ?_
    · cases startup <;> rfl
    · cases startup with
      | true => exact ⟨rfl, rfl, rfl, rfl, rfl, rfl⟩
      | false => exact ⟨rfl, rfl, rfl, rfl, rfl, rfl⟩
    · cases startup <;> rfl
  · rename_i text
    refine .tests rfl rfl (.tested text m) fun ok => ⟨text, rfl, ?_⟩
    exact (internetOk_tested text m).mp ok
  · exact .tests rfl rfl (.testFailed m) nofun
  · unfold Monitor.poll
    split
    · rename_i up
      refine .begins false rfl rfl (fun _ => .inl rfl) rfl ?_ ⟨rfl, rfl, rfl, rfl, rfl, rfl⟩ rfl
      simp [Monitor.beginCheck, Monitor.ask, up]
    · rename_i down
      refine Monitor.probe_move rfl rfl ⟨rfl, rfl, rfl, rfl, rfl, rfl⟩ rfl fun _ => ⟨?_, .inl rfl⟩
      simpa using down

/-! ### `responding` in every run -/

theorem Await.starting_of_reconnecting {pending : Await} (loop : pending.reconnecting = true) :
    pending.starting = false := by
  unfold Await.reconnecting at loop
  split at loop
  · rfl
  · rfl
  · cases loop

theorem Move.respondingInv {now : Clock} {s s' : Monitor} {ending : Ending} (inv : RespondingInv s)
    (move : Move now s ending s') : RespondingInv s' := by
  have outsideLoop {pending : Await} (place : s'.pending = pending)
      (outside : pending.inCheck = false) (settled : pending.reconnecting = false) :
      RespondingInv s' := by
    constructor
    · intro inCheck
      rw [place, outside] at inCheck
      cases inCheck
    · intro loop
      rw [place, settled] at loop
      cases loop
  cases move with
  | waits _ outside' _ _ _ reconnects _ link _ =>
      constructor
      · intro inCheck
        rw [outside'] at inCheck
        cases inCheck
      · intro loop
        rw [link.responding]
        exact (reconnects (Await.starting_of_reconnecting loop)).2
  | rests _ sleeping _ _ _ => exact outsideLoop sleeping rfl rfl
  | begins startup _ _ _ pending _ link _ =>
      constructor
      · intro _
        exact link.responding
      · intro loop
        rw [pending] at loop
        cases loop
  | asks startup query query' _ pending pending' _ responding _ _ _ _ _ _ =>
      constructor
      · intro _
        rw [responding]
        exact inv.checks (by rw [pending]; rfl)
      · intro loop
        rw [pending'] at loop
        cases loop
  | completes startup query _ _ pending' _ _ _ _ _ _ _ =>
      obtain sleeping | ⟨pinging, -⟩ := pending'
      · exact outsideLoop sleeping rfl rfl
      · exact outsideLoop pinging rfl rfl
  | raises _ _ _ _ pending' _ _ => exact outsideLoop pending' rfl rfl
  | tests _ pending' _ _ => exact outsideLoop pending' rfl rfl

theorem Beside.sameMonitor {s s' : ModemTasks} {i : Turn} (beside : Beside s i s') :
    s'.monitor.pending = s.monitor.pending ∧ SameLink s.monitor.modem s'.monitor.modem := by
  cases beside with
  | starts same _ =>
      rw [same]
      exact ⟨rfl, .refl _⟩
  | begins _ pending link _ _ _ => exact ⟨pending, link⟩
  | ends _ _ pending link _ _ => exact ⟨pending, link⟩

theorem Beside.respondingInv {s s' : ModemTasks} {i : Turn} (inv : RespondingInv s.monitor)
    (beside : Beside s i s') : RespondingInv s'.monitor := by
  obtain ⟨pending, link⟩ := beside.sameMonitor
  constructor
  · rw [pending, link.responding]
    exact inv.checks
  · rw [pending, link.responding]
    exact inv.reconnects

/-- **A step is a move of the monitor, or beside it.** -/
theorem ModemTasks.step_moves {cfg : Config} {s s' : ModemTasks} {i : Turn}
    (inv : RespondingInv s.monitor) (step : s.step cfg i = some s') :
    (∃ now ending, i = .monitor now ending ∧ Move now s.monitor ending s'.monitor ∧
      s'.test = s.test) ∨ Beside s i s' := by
  obtain ⟨now, ending, rfl, resumed, test⟩ | beside := ModemTasks.step_cases step
  · exact .inl ⟨now, ending, rfl, Monitor.resume_move inv resumed, test⟩
  · exact .inr beside

theorem ModemTasks.respondingInv {cfg : Config} {s s' : ModemTasks} {i : Turn}
    (inv : RespondingInv s.monitor) (step : s.step cfg i = some s') : RespondingInv s'.monitor := by
  obtain ⟨now, ending, rfl, move, -⟩ | beside := ModemTasks.step_moves inv step
  · exact move.respondingInv inv
  · exact beside.respondingInv inv

end EdgeGateway.Modem
