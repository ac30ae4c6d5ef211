import EdgeGateway.Modem.Moves

/-!
The PDP profile across failed health checks.

`_pdp_configured` remembers that `AT+CGDCONT` was accepted, and only the loop
clears it, when the modem answers `AT` again after it was given up. A check of the
loop that raises gives the modem up; the one of the startup block does not, and the
next check takes the profile for granted if the first one had come to its
attach commands. That is the only way (`profile_restored_iff`).
-/

namespace EdgeGateway.Modem

open EdgeGateway.Lib

/-! ### The failures and definitions of a run -/

inductive Mark where
  /-- a health check raised in this exchange -/
  | failed (startup : Bool) (query : Query)
  /-- `AT+CGDCONT` was accepted -/
  | defined
deriving DecidableEq, Repr

def profileMark (s : Monitor) (ending : Ending) : Option Mark :=
  match s.pending, ending with
  | .checking startup query, .raised _ => some (.failed startup query)
  | .checking _ query, .returned _ => if query = .defineContext then some .defined else none
  | _, _ => none

/-- The marks so far, the newest first. -/
def profileMarks (s : ModemTasks) (i : Turn) (_ : ModemTasks) (marks : List Mark) : List Mark :=
  match i with
  | .monitor _ ending => (profileMark s.monitor ending).toList ++ marks
  | .startInternetTest | .test _ _ => marks

/-- The tasks with the marks of the run. -/
def markedTasks (cfg : Config) : System (ModemTasks × List Mark) Turn :=
  (modemTasks cfg).withBooks [] profileMarks

/-! ### The property and its guard -/

/-- Behind every failure the profile was defined again. -/
def RestoredSince (marks : List Mark) : Prop :=
  ∀ newer startup query older, marks = newer ++ .failed startup query :: older → .defined ∈ newer

/-- A check that has come to its attach commands has a profile to attach with. -/
def Restored (s : ModemTasks × List Mark) : Prop :=
  ∀ startup query, s.1.monitor.pending = .checking startup query → query.attaches = true →
    RestoredSince s.2

/-- The first check failed in one of its attach commands. -/
def Mark.lateStartup : Mark → Bool
  | .failed startup query => startup && query.attaches
  | .defined => false

/-- No check finds the network while the newest mark is such a failure. -/
def ProfileKept (s : ModemTasks × List Mark) : Turn → Prop
  | .monitor _ (.returned _) =>
      ∀ startup, s.1.monitor.pending = .checking startup .operator → s.1.monitor.modem.networkUp →
        ∀ mark ∈ s.2.head?, mark.lateStartup = false
  | .monitor _ (.raised _) | .startInternetTest | .test _ _ => True

/-- The newest mark decides. -/
theorem restoredSince_iff {marks : List Mark} :
    RestoredSince marks ↔ ∀ mark ∈ marks.head?, mark = .defined := by
  constructor
  · intro restored mark newest
    cases marks with
    | nil => cases newest
    | cons first marks =>
        obtain rfl := Option.some.inj newest
        cases first with
        | defined => rfl
        | failed startup query => cases restored [] startup query marks rfl
  · rintro newest newer startup query older rfl
    cases newer with
    | nil => cases newest _ rfl
    | cons first newer =>
        obtain rfl := newest _ rfl
        exact List.mem_cons_self

theorem profileMark_outside {s : Monitor} {ending : Ending} (outside : s.pending.inCheck = false) :
    profileMark s ending = none := by
  unfold profileMark
  split
  · rename_i pending
    rw [pending] at outside
    cases outside
  · rename_i pending
    rw [pending] at outside
    cases outside
  · rfl

/-! ### What the flag says about the marks -/

/-- What `_pdp_configured` is during the startup block. -/
def Await.profiled : Await → Bool
  | .checking true query => query.attaches
  | _ => false

theorem Await.profiled_outside {pending : Await} (outside : pending.inCheck = false) :
    pending.profiled = false := by
  unfold Await.profiled
  split
  · cases outside
  · rfl

structure ProfileInv (s : Monitor) (marks : List Mark) : Prop where
  responding : RespondingInv s
  /-- the startup block has not failed yet -/
  startup : s.pending.starting = true →
    (∀ mark ∈ marks.head?, mark = .defined) ∧ s.modem.pdpConfigured = s.pending.profiled
  failed : ∀ startup query, marks.head? = some (.failed startup query) →
    s.modem.responding = true → s.modem.pdpConfigured = (startup && query.attaches)
  stays : ∀ query, marks.head? = some (.failed true query) → s.modem.responding = true
  restored : ∀ startup query, s.pending = .checking startup query → query.attaches = true →
    ∀ mark ∈ marks.head?, mark = .defined

theorem ProfileInv.init : ProfileInv .init [] where
  responding := .init
  startup := fun _ => ⟨nofun, rfl⟩
  failed := nofun
  stays := nofun
  restored := nofun

/-- Elsewhere than in the startup block or a check, the flags decide. -/
theorem ProfileInv.settle {s s' : Monitor} {marks : List Mark} (inv : ProfileInv s marks)
    (responding : RespondingInv s') (outside : s'.pending.inCheck = false)
    (started : s'.pending.starting = false)
    (same : s'.modem.responding = s.modem.responding)
    (profile : s'.modem.pdpConfigured = s.modem.pdpConfigured) : ProfileInv s' marks where
  responding := responding
  startup := fun starting => by
    rw [started] at starting
    cases starting
  failed := fun startup query newest up => by
    rw [profile]
    exact inv.failed startup query newest (same ▸ up)
  stays := fun query newest => same.trans (inv.stays query newest)
  restored := fun startup query pending => by
    rw [pending] at outside
    cases outside

/-- A failure is behind a new definition. -/
theorem ProfileInv.define {s' : Monitor} (marks : List Mark) (responding : RespondingInv s')
    (startup : s'.pending.starting = true → s'.modem.pdpConfigured = s'.pending.profiled) :
    ProfileInv s' (.defined :: marks) where
  responding := responding
  startup := fun starting => ⟨fun _ newest => (Option.some.inj newest).symm, startup starting⟩
  failed := nofun
  stays := nofun
  restored := fun _ _ _ _ _ newest => (Option.some.inj newest).symm

theorem ProfileInv.begins {s s' : Monitor} {marks : List Mark} {startup : Bool}
    (inv : ProfileInv s marks) (responding : RespondingInv s')
    (outside : s.pending.inCheck = false) (starting : s.pending.starting = startup)
    (pending : s'.pending = .checking startup .identity)
    (profile : s'.modem.pdpConfigured =
      (s.modem.pdpConfigured && (startup || s.modem.responding))) :
    ProfileInv s' marks := by
  refine ⟨responding, ?_, ?_, ?_, ?_⟩
  · intro isStarting
    rw [pending] at isStarting
    obtain rfl := Await.startup_of_starting isStarting
    obtain ⟨calm, before⟩ := inv.startup starting
    refine ⟨calm, ?_⟩
    rw [profile, before, Await.profiled_outside outside, pending]
    rfl
  · intro startup' query newest _
    rw [profile]
    cases startup with
    | true => cases (inv.startup starting).1 _ newest
    | false =>
        cases up : s.modem.responding with
        | true => simpa using inv.failed startup' query newest up
        | false =>
            cases startup' with
            | true =>
                have stays := inv.stays query newest
                rw [up] at stays
                cases stays
            | false => simp
  · intro query newest
    exact responding.checks (by rw [pending]; rfl)
  · intro startup' query pending'
    rw [pending] at pending'
    obtain ⟨-, rfl⟩ := Await.checking.inj pending'
    nofun

/-- From one exchange to the next, behind another than `AT+CGDCONT`. -/
theorem ProfileInv.asks {s s' : Monitor} {marks : List Mark} {startup : Bool} {query query' : Query}
    (inv : ProfileInv s marks) (responding : RespondingInv s')
    (pending : s.pending = .checking startup query)
    (pending' : s'.pending = .checking startup query')
    (same : s'.modem.responding = s.modem.responding)
    (attaches : query'.attaches = (query.attaches ||
      query = .operator && decide s.modem.networkUp && s.modem.pdpConfigured))
    (profile : s'.modem.pdpConfigured = s.modem.pdpConfigured)
    (kept : query = .operator → s.modem.networkUp →
      ∀ mark ∈ marks.head?, mark.lateStartup = false) :
    ProfileInv s' marks := by
  refine ⟨responding, ?_, ?_, ?_, ?_⟩
  · intro isStarting
    rw [pending'] at isStarting
    obtain rfl := Await.startup_of_starting isStarting
    obtain ⟨calm, before⟩ := inv.startup (by rw [pending]; rfl)
    refine ⟨calm, ?_⟩
    have before : s.modem.pdpConfigured = query.attaches := by rw [before, pending]; rfl
    rw [profile, before, pending']
    -- A first check has no profile yet when it hears the operator.
    cases query <;> simp_all [Await.profiled, Query.attaches]
  · intro startup' query'' newest up
    rw [profile]
    exact inv.failed startup' query'' newest (same ▸ up)
  · intro query'' newest
    rw [same]
    exact inv.stays query'' newest
  · intro startup' query'' pending'' reaches mark newest
    rw [pending'] at pending''
    obtain ⟨rfl, rfl⟩ := Await.checking.inj pending''
    rw [reaches] at attaches
    obtain already | fresh := Bool.or_eq_true_iff.mp attaches.symm
    · exact inv.restored startup query pending already mark newest
    · simp only [Bool.and_eq_true, decide_eq_true_eq] at fresh
      obtain ⟨⟨operator, network⟩, known⟩ := fresh
      have up := inv.responding.checks (by rw [pending]; rfl)
      cases mark with
      | defined => rfl
      | failed startup'' query'' =>
          have late := kept operator network _ newest
          have lost := inv.failed startup'' query'' newest up
          rw [known] at lost
          exact absurd (lost.trans late) (by simp)

theorem ProfileInv.raises {s s' : Monitor} {marks : List Mark} {startup : Bool} {query : Query}
    (inv : ProfileInv s marks) (responding : RespondingInv s')
    (pending : s.pending = .checking startup query) (pending' : s'.pending = .sleeping)
    (same : s'.modem.responding = (startup && s.modem.responding))
    (profile : s'.modem.pdpConfigured = s.modem.pdpConfigured) :
    ProfileInv s' (.failed startup query :: marks) := by
  refine ⟨responding, ?_, ?_, ?_, ?_⟩
  · intro isStarting
    rw [pending'] at isStarting
    cases isStarting
  · intro startup' query' newest stillUp
    obtain ⟨rfl, rfl⟩ := Mark.failed.inj (Option.some.inj newest)
    rw [same] at stillUp
    obtain ⟨rfl, -⟩ := Bool.and_eq_true_iff.mp stillUp
    have known := (inv.startup (by rw [pending]; rfl)).2
    rw [profile, known, pending]
    rfl
  · intro query' newest
    obtain ⟨rfl, rfl⟩ := Mark.failed.inj (Option.some.inj newest)
    rw [same, inv.responding.checks (by rw [pending]; rfl)]
    rfl
  · intro startup' query' checking
    rw [pending'] at checking
    cases checking

theorem ProfileInv.move {now : Clock} {s s' : Monitor} {ending : Ending} {marks : List Mark}
    (inv : ProfileInv s marks)
    (kept : ∀ text startup, ending = .returned text → s.pending = .checking startup .operator →
      s.modem.networkUp → ∀ mark ∈ marks.head?, mark.lateStartup = false)
    (move : Move now s ending s') : ProfileInv s' ((profileMark s ending).toList ++ marks) := by
  have responding := move.respondingInv inv.responding
  cases move with
  | waits outside outside' _ _ starting _ _ link _ =>
      rw [profileMark_outside outside]
      refine ⟨responding, ?_, ?_, ?_, ?_⟩
      · intro isStarting
        obtain ⟨calm, profile⟩ := inv.startup (starting isStarting)
        refine ⟨calm, ?_⟩
        rw [link.pdpConfigured, profile, Await.profiled_outside outside,
          Await.profiled_outside outside']
      · rw [link.pdpConfigured, link.responding]
        exact inv.failed
      · rw [link.responding]
        exact inv.stays
      · intro startup query pending
        rw [pending] at outside'
        cases outside'
  | rests outside sleeping _ link _ =>
      rw [profileMark_outside outside]
      exact inv.settle responding (by rw [sleeping]; rfl) (by rw [sleeping]; rfl) link.responding
        link.pdpConfigured
  | begins startup outside starting _ pending profile _ _ =>
      rw [profileMark_outside outside]
      exact inv.begins responding outside starting pending profile
  | asks startup query query' ended pending pending' _ same _ attaches profile _ _ _ =>
      by_cases defines : query = .defineContext
      · subst defines
        have mark : profileMark s ending = some .defined := by
          simp [profileMark, pending, ended]
        rw [mark]
        refine .define marks responding fun isStarting => ?_
        rw [pending'] at isStarting
        obtain rfl := Await.startup_of_starting isStarting
        rw [profile, pending']
        simp [Await.profiled, attaches, Query.onNetwork]
      · have mark : profileMark s ending = none := by
          simp [profileMark, pending, ended, defines]
        simp only [Query.onNetwork, defines, decide_false, Bool.or_false] at attaches profile
        rw [mark]
        refine inv.asks responding pending pending' same attaches profile ?_
        rintro rfl
        exact kept _ startup ended pending
  | completes startup query ended pending pending' same _ profile _ _ _ _ =>
      have settled (place : Await) (there : s'.pending = place) (outside : place.inCheck = false)
          (started : place.starting = false) :
          ProfileInv s' ((profileMark s ending).toList ++ marks) := by
        by_cases defines : query = .defineContext
        · have mark : profileMark s ending = some .defined := by
            simp [profileMark, pending, ended, defines]
          rw [mark]
          refine .define marks responding fun isStarting => ?_
          rw [there, started] at isStarting
          cases isStarting
        · have mark : profileMark s ending = none := by
            simp [profileMark, pending, ended, defines]
          rw [mark]
          exact inv.settle responding (there ▸ outside) (there ▸ started) same profile
      obtain sleeping | ⟨pinging, -⟩ := pending'
      · exact settled .sleeping sleeping rfl rfl
      · exact settled .pinging pinging rfl rfl
  | raises startup query ended pending pending' link _ =>
      have mark : profileMark s ending = some (.failed startup query) := by
        simp [profileMark, pending, ended]
      rw [mark]
      exact inv.raises responding pending pending' link.responding link.pdpConfigured
  | tests pending pending' link _ =>
      rw [profileMark_outside (by rw [pending]; rfl)]
      exact inv.settle responding (by rw [pending']; rfl) (by rw [pending']; rfl) link.responding
        link.pdpConfigured

theorem ProfileInv.beside {s s' : ModemTasks} {i : Turn} {marks : List Mark}
    (inv : ProfileInv s.monitor marks) (beside : Beside s i s') : ProfileInv s'.monitor marks := by
  obtain ⟨pending, link⟩ := beside.sameMonitor
  refine ⟨beside.respondingInv inv.responding, ?_, ?_, ?_, ?_⟩
  · rw [pending, link.pdpConfigured]
    exact inv.startup
  · rw [link.pdpConfigured, link.responding]
    exact inv.failed
  · rw [link.responding]
    exact inv.stays
  · rw [pending]
    exact inv.restored

theorem ProfileInv.step {cfg : Config} {s s' : ModemTasks × List Mark} {i : Turn}
    (inv : ProfileInv s.1.monitor s.2) (kept : ProfileKept s i)
    (step : (markedTasks cfg).step s i = some s') : ProfileInv s'.1.monitor s'.2 := by
  obtain ⟨ran, books⟩ := withBooks_step step
  rw [books]
  obtain ⟨now, ending, rfl, move, -⟩ | beside := ModemTasks.step_moves inv.responding ran
  · refine inv.move ?_ move
    rintro text startup rfl
    exact kept startup
  · have same : profileMarks s.1 i s'.1 s.2 = s.2 := by
      cases beside <;> rfl
    rw [same]
    exact inv.beside beside

/-- The check that finds the network goes straight to its attach commands. -/
theorem ProfileInv.lost {cfg : Config} {s s' : ModemTasks × List Mark} {i : Turn}
    (inv : ProfileInv s.1.monitor s.2) (lost : ¬ ProfileKept s i)
    (step : (markedTasks cfg).step s i = some s') : ¬ Restored s' := by
  obtain ⟨ran, books⟩ := withBooks_step step
  obtain ⟨now, ending, rfl, move, -⟩ | beside := ModemTasks.step_moves inv.responding ran
  · cases ending with
    | raised exc => exact absurd trivial lost
    | returned text =>
        simp only [ProfileKept, not_forall] at lost
        obtain ⟨startup, pending, network, mark, newest, late⟩ := lost
        have same : s'.2 = s.2 := by
          rw [books]
          simp [profileMarks, profileMark, pending]
        cases mark with
        | defined => exact absurd rfl late
        | failed startup' query =>
            have up := inv.responding.checks (by rw [pending]; rfl)
            have known : s.1.monitor.modem.pdpConfigured = true := by
              rw [inv.failed startup' query newest up]
              simpa [Mark.lateStartup] using late
            intro restored
            cases move with
            | asks startup'' query' query'' _ pending' pending'' _ _ _ attaches _ _ _ _ =>
                rw [pending] at pending'
                obtain ⟨rfl, rfl⟩ := Await.checking.inj pending'
                have reaches : query''.attaches = true := by
                  rw [attaches]
                  simp [network, known]
                have since := restored startup query'' pending'' reaches
                rw [same, restoredSince_iff] at since
                cases since _ newest
            | completes startup'' query' ended pending' _ _ _ _ active _ online _ =>
                rw [pending] at pending'
                obtain ⟨rfl, rfl⟩ := Await.checking.inj pending'
                have found : s'.1.monitor.modem.dataActive = true := by
                  rw [active]
                  simp [Query.endsOffline, network]
                cases online found
            | waits outside | rests outside | begins startup'' outside =>
                rw [pending] at outside
                cases outside
            | raises startup'' query' ended => cases ended
            | tests pinging =>
                rw [pending] at pinging
                cases pinging
  · exfalso
    cases beside <;> exact lost trivial

/-- **The profile is restored behind every failed check, exactly if no check finds
the network while the newest failure is the first check's, in one of its attach
commands.** -/
theorem profile_restored_iff {cfg : Config} {is : List Turn} {last : ModemTasks × List Mark}
    (whole : Run (markedTasks cfg) is last) :
    Always (markedTasks cfg) Restored is ↔ EachStep (markedTasks cfg) ProfileKept is := by
  refine always_iff_eachStep (I := fun s => ProfileInv s.1.monitor s.2) ProfileInv.init
    (fun s i s' inv kept step => inv.step kept step) ?_
    (fun s i s' inv lost step => inv.lost lost step) whole
  intro s inv startup query pending reaches
  rw [restoredSince_iff]
  exact inv.restored startup query pending reaches

/-- A startup whose check times out at `AT+CGATT?`, and the check behind it. -/
def startupFails : List Turn :=
  [.answer "", .ok, .ok] ++ Turn.findsNetwork ++ [.ok, .timesOut, .answer ""] ++ Turn.findsNetwork

theorem profile_restored_iff_fails :
    ∃ last, Run (markedTasks .shipped) startupFails last ∧
      (Always (markedTasks .shipped) Restored startupFails ↔
        EachStep (markedTasks .shipped) ProfileKept startupFails) :=
  have run := run_iff_exec.mpr rfl
  ⟨_, run, profile_restored_iff run⟩

/-- The check behind the failed one sends `AT+CGATT?`, and no `AT+CGDCONT` before it. -/
theorem profile_not_restored :
    ∃ last, Run (markedTasks .shipped) startupFails last ∧
      last.1.monitor.pending = .checking false .attached ∧
      last.2 = [.failed true .attached, .defined] ∧ ¬ Restored last := by
  refine ⟨_, run_iff_exec.mpr rfl, by decide, by decide, ?_⟩
  intro restored
  have since := restored false .attached rfl rfl
  rw [restoredSince_iff] at since
  cases since _ rfl

end EdgeGateway.Modem
