import EdgeGateway.Lib.Watch
import EdgeGateway.Web.Wire

/-!
`_service_supervisor`: Wi-Fi recovery, and restarts of the web server.

A pass of the loop is a program over the operations of the Wi-Fi interface, of the
probe's connection and of the web server. `supervise` is any number of passes.

* `restart_iff_due`: in every run, the web server is restarted for each recovery of the
  link and for each failed probe at the limit or above it, at once, and never else.
* `restart_within`: while the Wi-Fi stays connected and no probe succeeds, a restart is
  attempted within `limit * ⌈interval / step⌉` passes, from any state of the loop.
-/

namespace EdgeGateway.Supervisor

open EdgeGateway.Lib
open EdgeGateway.Web (Exc)

/-- The settings of `config.py` that the supervisor reads. -/
structure Config where
  httpPort : Nat
  wifiSsid : String
  wifiPassword : String
  wifiStaticIpEnabled : Bool
  wifiStaticIp : String
  wifiNetmask : String
  wifiGateway : String
  wifiDns : String
  wifiMonitorIntervalSeconds : Nat
  wifiReconnectTimeoutSeconds : Nat
  httpHealthIntervalSeconds : Nat
  httpHealthFailureLimit : Nat
  httpHealthTimeoutMs : Nat
deriving DecidableEq, Repr

/-- The values of `config.example.py`. -/
def Config.shipped : Config where
  httpPort := 80
  wifiSsid := "YOUR_WIFI_SSID"
  wifiPassword := "YOUR_WIFI_PASSWORD"
  wifiStaticIpEnabled := true
  wifiStaticIp := "192.168.1.42"
  wifiNetmask := "255.255.255.0"
  wifiGateway := "192.168.1.1"
  wifiDns := "192.168.1.1"
  wifiMonitorIntervalSeconds := 10
  wifiReconnectTimeoutSeconds := 30
  httpHealthIntervalSeconds := 60
  httpHealthFailureLimit := 3
  httpHealthTimeoutMs := 3000

/-! ### What the supervisor performs -/

inductive Level where
  | info | warning | error
deriving DecidableEq, Repr

inductive Op where
  /-- `wlan.isconnected()` -/
  | isConnected
  | disconnect
  | active (on : Bool)
  /-- `wlan.ifconfig((address, netmask, gateway, dns))` -/
  | setIfconfig (address netmask gateway dns : String)
  | connect (ssid password : String)
  /-- `wlan.ifconfig()[0]` -/
  | address
  | sleep (seconds : Nat)
  /-- within the timeout, as the next three -/
  | openConnection (ip : String) (port timeoutMs : Nat)
  | write (data : Bytes)
  | drain (timeoutMs : Nat)
  | read (size timeoutMs : Nat)
  /-- `close_writer(writer)` -/
  | close
  /-- `web.restart()` -/
  | restart
  | log (level : Level) (text : String)
deriving DecidableEq, Repr

abbrev Ans : Op → Type
  | .isConnected => Bool
  | .disconnect => Except Exc Unit
  | .active _ => Except Exc Unit
  | .setIfconfig _ _ _ _ => Except Exc Unit
  | .connect _ _ => Except Exc Unit
  | .address => String
  | .sleep _ => Unit
  | .openConnection _ _ _ => Except Exc Unit
  | .write _ => Except Exc Unit
  | .drain _ => Except Exc Unit
  | .read _ _ => Except Exc Bytes
  | .close => Unit
  | .restart => Except Exc Unit
  | .log _ _ => Unit

abbrev call (op : Op) : Prog Op Ans (Ans op) := Prog.ask op

abbrev Task := ExceptT Exc (Prog Op Ans)

abbrev Events := List (Event Op Ans)

/-- What the probe sends. -/
def probeRequest : Bytes := Utf8.encode
  "GET /api/health HTTP/1.1\r\nConnection: close\r\n\r\n".toList

/-- `response.startswith(b"HTTP/1.1 200")`. -/
def healthy (response : Bytes) : Bool := (Utf8.encode "HTTP/1.1 200".toList).isPrefixOf response

section Loop

variable (cfg : Config)

/-! ### `_http_probe` -/

/-- The `try` block, once the connection is open. -/
def talk : Task Bool := do
  ExceptT.mk (call (.write probeRequest))
  ExceptT.mk (call (.drain cfg.httpHealthTimeoutMs))
  let response ← ExceptT.mk (call (.read 48 cfg.httpHealthTimeoutMs))
  return healthy response

/-- `_http_probe`. -/
def probe (ip : String) : Prog Op Ans Bool := do
  let opened : Except Exc Unit ←
    call (.openConnection ip cfg.httpPort cfg.httpHealthTimeoutMs)
  match opened with
  | .error _ => pure false
  | .ok () => do
      let outcome ← (talk cfg).run
      call .close
      match outcome with
      | .ok verdict => pure verdict
      | .error _ => pure false

/-! ### `_recover_wifi` -/

/-- The `while` loop, with the seconds that are left. -/
def awaitWifi : Nat → Prog Op Ans Unit
  | 0 => do
      let _ ← call .isConnected
      pure ()
  | left + 1 => do
      let connected : Bool ← call .isConnected
      if connected then pure ()
      else do
        call (.sleep 1)
        awaitWifi left

def assignAddress : Task Unit :=
  if cfg.wifiStaticIpEnabled then
    ExceptT.mk (call (.setIfconfig cfg.wifiStaticIp cfg.wifiNetmask cfg.wifiGateway cfg.wifiDns))
  else pure ()

/-- What follows the `while` loop. -/
def announce : Prog Op Ans Bool := do
  let connected : Bool ← call .isConnected
  if connected then do
    let ip : String ← call .address
    call (.log .info ("WiFi recovered: " ++ ip))
    pure true
  else pure false

/-- The second `try` block. -/
def reconnect : Task Bool := do
  ExceptT.mk (call (.active false))
  ExceptT.lift (call (.sleep 1))
  ExceptT.mk (call (.active true))
  assignAddress cfg
  ExceptT.mk (call (.connect cfg.wifiSsid cfg.wifiPassword))
  ExceptT.lift (awaitWifi cfg.wifiReconnectTimeoutSeconds)
  ExceptT.lift announce

/-- `_recover_wifi`. -/
def recoverWifi : Prog Op Ans Bool := do
  call (.log .warning "WiFi disconnected; attempting recovery")
  let _ ← call .disconnect
  let outcome ← (reconnect cfg).run
  match outcome with
  | .ok recovered => pure recovered
  | .error exc => do
      call (.log .error ("WiFi recovery: " ++ exc.text))
      pure false

/-! ### `_service_supervisor` -/

/-- Its local variables. -/
structure Locals where
  httpFailures : Nat
  elapsed : Nat
deriving DecidableEq, Repr

def Locals.start : Locals := ⟨0, cfg.httpHealthIntervalSeconds⟩

/-- `web.restart()` in its `try` block. -/
def restartWeb (context : String) (s : Locals) : Prog Op Ans Locals := do
  let outcome : Except Exc Unit ← call .restart
  match outcome with
  | .ok () => pure { s with httpFailures := 0 }
  | .error exc => do
      call (.log .error (context ++ exc.text))
      pure s

/-- The probe has failed so often. -/
def failed (failures : Nat) : Prog Op Ans Locals :=
  if cfg.httpHealthFailureLimit ≤ failures then do
    call (.log .warning "HTTP health check failed; restarting server")
    restartWeb "HTTP supervisor: " ⟨failures, 0⟩
  else pure ⟨failures, 0⟩

/-- A pass while the Wi-Fi is connected, up to its sleep. -/
def check (s : Locals) : Prog Op Ans Locals :=
  if cfg.httpHealthIntervalSeconds ≤ s.elapsed then do
    let ip : String ← call .address
    let verdict ← probe cfg ip
    if verdict then pure ⟨0, 0⟩
    else failed cfg (s.httpFailures + 1)
  else pure s

/-- A pass while it is not. -/
def rejoin (s : Locals) : Prog Op Ans Locals := do
  let recovered ← recoverWifi cfg
  if recovered then restartWeb "HTTP restart after WiFi recovery: " s
  else pure s

/-- One pass of the loop. -/
def pass (s : Locals) : Prog Op Ans Locals := do
  let connected : Bool ← call .isConnected
  let s ← if connected then
      check cfg { s with elapsed := s.elapsed + cfg.wifiMonitorIntervalSeconds }
    else rejoin cfg s
  call (.sleep cfg.wifiMonitorIntervalSeconds)
  pure s

def supervise : Nat → Locals → Prog Op Ans Locals
  | 0, s => pure s
  | n + 1, s => do
      let s ← pass cfg s
      supervise n s

end Loop

/-! ### When a restart is due -/

/-- What has happened so far. -/
structure Tally where
  /-- failed probes since the last success or restart -/
  failures : Nat
  /-- the link has been found down, and has not been recovered since -/
  down : Bool
  /-- the operation before was a look at the link -/
  looked : Bool
  /-- recoveries of the link -/
  recovered : Nat
  /-- probes that failed at the limit or above it -/
  overdue : Nat
  /-- restarts that were attempted -/
  restarts : Nat
deriving DecidableEq, Repr

def Tally.start : Tally := ⟨0, false, false, 0, 0, 0⟩

/-- A probe has failed. -/
def Tally.fails (limit : Nat) (t : Tally) : Tally :=
  { t with
    failures := t.failures + 1
    overdue := if limit ≤ t.failures + 1 then t.overdue + 1 else t.overdue }

/-- A look at the link. An attempt to recover it ends with two looks in a row, and has
succeeded if the second finds it up. -/
def Tally.look (connected : Bool) (t : Tally) : Tally :=
  if t.looked && t.down && connected then
    { t with down := false, looked := true, recovered := t.recovered + 1 }
  else { t with down := t.down || !connected, looked := true }

/-- Anything but a look. -/
def Tally.rest (t : Tally) : Tally := { t with looked := false }

/-- A probe fails in its first operation that raises, or by what it reads. -/
def Tally.next (limit : Nat) (t : Tally) : (op : Op) → Ans op → Tally
  | .isConnected, connected => t.look connected
  | .openConnection _ _ _, .error _ => t.rest.fails limit
  | .write _, .error _ => t.rest.fails limit
  | .drain _, .error _ => t.rest.fails limit
  | .read _ _, .error _ => t.rest.fails limit
  | .read _ _, .ok response =>
      if healthy response then { t.rest with failures := 0 } else t.rest.fails limit
  | .restart, .ok _ => { t.rest with restarts := t.restarts + 1, failures := 0 }
  | .restart, .error _ => { t.rest with restarts := t.restarts + 1 }
  | _, _ => t.rest

def Tally.behind (limit : Nat) (t : Tally) (events : Events) : Tally :=
  events.foldl (fun t ev => t.next limit ev.op ev.answer) t

/-- No restart is due. -/
def Tally.Settled (t : Tally) : Prop := t.restarts = t.recovered + t.overdue

/-- One restart is due. -/
def Tally.Due (t : Tally) : Prop := t.restarts + 1 = t.recovered + t.overdue

def tallying (limit : Nat) : Watch Op Ans Tally where
  allows t op := op = .restart → t.Due
  gives _ _ _ := True
  next := Tally.next limit

section Tallying

variable {cfg : Config} {limit : Nat} {t : Tally}

theorem Tally.rest_eq (calm : t.looked = false) : t.rest = t := by
  obtain ⟨failures, down, looked, recovered, overdue, restarts⟩ := t
  obtain rfl : looked = false := calm
  rfl

/-- A look behind something else. -/
theorem Tally.look_eq (calm : t.looked = false) (connected : Bool) :
    t.look connected = { t with down := t.down || !connected, looked := true } := by
  unfold Tally.look
  rw [calm, Bool.false_and, Bool.false_and, if_neg Bool.false_ne_true]

/-- What a probe adds to the tally. -/
def Tally.probed (limit : Nat) (t : Tally) (verdict : Bool) : Tally :=
  if verdict then { t.rest with failures := 0 } else t.rest.fails limit

theorem secures_talk : Secures (tallying limit) (talk cfg)
    (fun verdict t' => t' = t.probed limit verdict) (fun _ t' => t' = t.probed limit false) t := by
  refine secures_bind_iff.mpr ⟨nofun, fun answer _ => ?_⟩
  change Except Exc Unit at answer
  cases answer with
  | error exc => exact rfl
  | ok done =>
      refine secures_bind_iff.mpr ⟨nofun, fun answer _ => ?_⟩
      change Except Exc Unit at answer
      cases answer with
      | error exc => exact rfl
      | ok done =>
          refine secures_bind_iff.mpr ⟨nofun, fun answer _ => ?_⟩
          change Except Exc Bytes at answer
          cases answer with
          | error exc => exact rfl
          | ok response => exact rfl

theorem Tally.rest_probed (verdict : Bool) :
    (t.probed limit verdict).rest = t.probed limit verdict := by
  cases verdict <;> rfl

/-- **A probe fails once, or it clears the failures.** -/
theorem ensures_probe (ip : String) : (probe cfg ip).Ensures (tallying limit)
    (fun verdict t' => t' = t.probed limit verdict) t := by
  refine ensures_bind_iff.mpr (ensures_ask_iff.mpr ⟨nofun, fun answer _ => ?_⟩)
  change Except Exc Unit at answer
  cases answer with
  | error exc => exact rfl
  | ok done =>
      refine ensures_bind_iff.mpr (Prog.Ensures.mono secures_talk fun outcome t' ended => ?_)
      refine ensures_bind_iff.mpr (ensures_ask_iff.mpr ⟨nofun, fun _ _ => ?_⟩)
      cases outcome with
      | ok verdict =>
          obtain rfl := ended
          exact Tally.rest_probed (t := t) verdict
      | error exc =>
          obtain rfl := ended
          exact Tally.rest_probed (t := t) false

/-- The tally does not notice the operation. -/
def Op.Quiet : Op → Prop
  | .isConnected | .openConnection _ _ _ | .write _ | .drain _ | .read _ _ | .restart => False
  | _ => True

theorem Tally.next_quiet (calm : t.looked = false) {op : Op} (quiet : op.Quiet)
    (answer : Ans op) : t.next limit op answer = t := by
  cases op with
  | isConnected | openConnection | write | drain | read | restart => exact quiet.elim
  | _ => exact t.rest_eq calm

theorem ensures_quiet {α : Type} {p : Prog Op Ans α} (calm : t.looked = false)
    (quiet : p.Only Op.Quiet) : p.Ensures (tallying limit) (fun _ t' => t' = t) t :=
  quiet.ensures (fun _ quiet restart => (restart ▸ quiet).elim)
    fun _ quiet => t.next_quiet calm quiet

/-- Behind operations that the tally does not notice. -/
theorem secures_quiet {α β : Type} {x : Task α} {f : α → Task β} {post : β → Tally → Prop}
    {raised : Exc → Tally → Prop} (calm : t.looked = false) (quiet : x.run.Only Op.Quiet)
    (returns : ∀ a, Secures (tallying limit) (f a) post raised t) (raises : ∀ exc, raised exc t) :
    Secures (tallying limit) (x >>= f) post raised t := by
  refine secures_bind_iff.mpr
    (Prog.Ensures.mono (ensures_quiet calm quiet) fun result t' same => ?_)
  subst same
  cases result with
  | ok a => exact returns a
  | error exc => exact raises exc

/-- The tally in an attempt to recover the link. -/
structure Tally.Out (t : Tally) : Prop where
  down : t.down = true
  calm : t.looked = false

/-- While the link is waited for, it stays down in the tally, and a look comes last. -/
theorem ensures_awaitWifi (out : t.Out) (left : Nat) : (awaitWifi left).Ensures (tallying limit)
    (fun _ t' => t' = { t with looked := true }) t := by
  have looks (connected : Bool) : t.look connected = { t with looked := true } := by
    rw [Tally.look_eq out.calm, out.down, Bool.true_or, ← out.down]
  induction left with
  | zero => exact ensures_bind_iff.mpr (ensures_ask_iff.mpr ⟨nofun, fun connected _ => looks _⟩)
  | succ left ih =>
      refine ensures_bind_iff.mpr (ensures_ask_iff.mpr ⟨nofun, fun connected _ => ?_⟩)
      split
      · exact looks _
      · refine ensures_bind_iff.mpr (ensures_ask_iff.mpr ⟨nofun, fun _ _ => ?_⟩)
        have again : (t.look connected).rest = t := by
          rw [looks]
          exact t.rest_eq out.calm
        change (awaitWifi left).Ensures (tallying limit) _ (t.look connected).rest
        rw [again]
        exact ih

/-- What an attempt adds to the tally. -/
def Tally.rejoined (t : Tally) (recovered : Bool) : Tally :=
  if recovered then { t with down := false, recovered := t.recovered + 1 } else t

/-- A look right behind another one, in an attempt. -/
theorem Tally.look_again (out : t.Out) (connected : Bool) :
    (Tally.look connected { t with looked := true }).rest = t.rejoined connected := by
  have calm := t.rest_eq out.calm
  unfold Tally.look Tally.rejoined
  cases connected with
  | true =>
      rw [if_pos (by simp [out.down]), if_pos rfl]
      exact congrArg (fun t : Tally =>
        { t with down := false, recovered := t.recovered + 1 }) calm
  | false =>
      rw [if_neg (by simp), if_neg Bool.false_ne_true]
      simp only [out.down, Bool.true_or]
      rw [← out.down]
      exact calm

theorem ensures_announce (out : t.Out) : announce.Ensures (tallying limit)
    (fun recovered t' => t'.rest = t.rejoined recovered) { t with looked := true } := by
  refine ensures_bind_iff.mpr (ensures_ask_iff.mpr ⟨nofun, fun connected _ => ?_⟩)
  change Bool at connected
  have second := Tally.look_again out connected
  cases connected with
  | true =>
      refine ensures_bind_iff.mpr (ensures_ask_iff.mpr ⟨nofun, fun ip _ => ?_⟩)
      exact ensures_bind_iff.mpr (ensures_ask_iff.mpr ⟨nofun, fun _ _ => second⟩)
  | false => exact second

theorem quiet_assignAddress : (assignAddress cfg).run.Only Op.Quiet := by
  unfold assignAddress
  split
  · exact .ask trivial
  · trivial

theorem secures_reconnect (out : t.Out) : Secures (tallying limit) (reconnect cfg)
    (fun recovered t' => t'.rest = t.rejoined recovered) (fun _ t' => t' = t) t := by
  have calm := out.calm
  refine secures_quiet calm (.ask trivial) (fun _ => ?_) fun _ => rfl
  refine secures_quiet calm (.run_lift (.ask trivial)) (fun _ => ?_) fun _ => rfl
  refine secures_quiet calm (.ask trivial) (fun _ => ?_) fun _ => rfl
  refine secures_quiet calm quiet_assignAddress (fun _ => ?_) fun _ => rfl
  refine secures_quiet calm (.ask trivial) (fun _ => ?_) fun _ => rfl
  refine secures_bind_iff.mpr (secures_lift_iff.mpr ((ensures_awaitWifi out _).mono ?_))
  rintro - t' rfl
  exact secures_lift_iff.mpr (ensures_announce out)

/-- **The link is recovered exactly if `_recover_wifi` says so.** -/
theorem ensures_recoverWifi (down : t.down = true) : (recoverWifi cfg).Ensures (tallying limit)
    (fun recovered t' => t'.rest = t.rest.rejoined recovered) t := by
  have out : t.rest.Out := ⟨down, rfl⟩
  refine ensures_bind_iff.mpr (ensures_ask_iff.mpr ⟨nofun, fun _ _ => ?_⟩)
  refine ensures_bind_iff.mpr (ensures_ask_iff.mpr ⟨nofun, fun _ _ => ?_⟩)
  refine ensures_bind_iff.mpr (Prog.Ensures.mono (secures_reconnect out)
    fun outcome t' ended => ?_)
  cases outcome with
  | ok recovered => exact ended
  | error exc =>
      obtain rfl := ended
      exact ensures_bind_iff.mpr (ensures_ask_iff.mpr ⟨nofun, fun _ _ => rfl⟩)

/-! ### Passes -/

/-- The loop knows its failures, and no restart is due. -/
structure Locals.Agrees (s : Locals) (t : Tally) : Prop where
  failures : s.httpFailures = t.failures
  settled : t.Settled

theorem ensures_restartWeb {context : String} {s : Locals} (failures : s.httpFailures = t.failures)
    (due : t.Due) :
    (restartWeb context s).Ensures (tallying limit) (fun s' t' => s'.Agrees t') t := by
  refine ensures_bind_iff.mpr (ensures_ask_iff.mpr ⟨fun _ => due, fun answer _ => ?_⟩)
  change Except Exc Unit at answer
  cases answer with
  | ok done => exact ⟨rfl, due⟩
  | error exc =>
      exact ensures_bind_iff.mpr (ensures_ask_iff.mpr ⟨nofun, fun _ _ => ⟨failures, due⟩⟩)

theorem ensures_failed (settled : t.Settled) :
    (failed cfg (t.failures + 1)).Ensures (tallying cfg.httpHealthFailureLimit)
      (fun s' t' => s'.Agrees t') (t.fails cfg.httpHealthFailureLimit) := by
  unfold failed
  split
  · rename_i reached
    have due : (t.fails cfg.httpHealthFailureLimit).Due := by
      unfold Tally.Due Tally.fails
      rw [if_pos reached]
      exact congrArg (· + 1) settled
    exact ensures_bind_iff.mpr (ensures_ask_iff.mpr ⟨nofun, fun _ _ => ensures_restartWeb rfl due⟩)
  · rename_i below
    refine ⟨rfl, ?_⟩
    unfold Tally.Settled Tally.fails
    rw [if_neg below]
    exact settled

theorem ensures_check {s : Locals} (agrees : s.Agrees t) :
    (check cfg s).Ensures (tallying cfg.httpHealthFailureLimit) (fun s' t' => s'.Agrees t') t := by
  unfold check
  split
  · refine ensures_bind_iff.mpr (ensures_ask_iff.mpr ⟨nofun, fun ip _ => ?_⟩)
    refine ensures_bind_iff.mpr ((ensures_probe ip).mono ?_)
    rintro verdict t' rfl
    cases verdict with
    | true => exact ⟨rfl, agrees.settled⟩
    | false =>
        rw [agrees.failures]
        have settled : t.rest.Settled := agrees.settled
        exact ensures_failed settled
  · exact agrees

theorem ensures_rejoin {s : Locals} (down : t.down = true) (agrees : s.Agrees t) :
    (rejoin cfg s).Ensures (tallying limit) (fun s' t' => s'.Agrees t') t := by
  refine ensures_bind_iff.mpr ((ensures_recoverWifi down).mono fun recovered t' ended => ?_)
  have settled := agrees.settled
  unfold Tally.Settled at settled
  cases recovered with
  | true =>
      have same (count : Tally → Nat) : count t'.rest = count (t.rest.rejoined true) :=
        congrArg count ended
      have failures : t'.failures = t.failures := same Tally.failures
      have restarts : t'.restarts = t.restarts := same Tally.restarts
      have overdue : t'.overdue = t.overdue := same Tally.overdue
      have recovered : t'.recovered = t.recovered + 1 := same Tally.recovered
      refine ensures_restartWeb (agrees.failures.trans failures.symm) ?_
      unfold Tally.Due
      omega
  | false =>
      have same : t'.rest = t.rest := ended
      have rested : s.Agrees t'.rest := by
        rw [same]
        exact ⟨agrees.failures, agrees.settled⟩
      exact ⟨rested.failures, rested.settled⟩

/-- **Each pass settles what it made due**, and ends behind its sleep. -/
theorem ensures_pass {s : Locals} (agrees : s.Agrees t) (calm : t.looked = false) :
    (pass cfg s).Ensures (tallying cfg.httpHealthFailureLimit)
      (fun s' t' => s'.Agrees t' ∧ t'.looked = false) t := by
  refine ensures_bind_iff.mpr (ensures_ask_iff.mpr ⟨nofun, fun connected _ => ?_⟩)
  change Bool at connected
  have look : (tallying cfg.httpHealthFailureLimit).next t .isConnected connected =
      { t with down := t.down || !connected, looked := true } := t.look_eq calm connected
  rw [look]
  have sleeps : ∀ (s' : Locals) (t' : Tally), s'.Agrees t' →
      Prog.Ensures (tallying cfg.httpHealthFailureLimit)
        (fun s' t' => s'.Agrees t' ∧ t'.looked = false)
        (call (.sleep cfg.wifiMonitorIntervalSeconds) >>= fun _ => pure s') t' :=
    fun s' t' agrees => ensures_bind_iff.mpr (ensures_ask_iff.mpr
      ⟨nofun, fun _ _ => ⟨⟨agrees.failures, agrees.settled⟩, rfl⟩⟩)
  cases connected with
  | true =>
      have checked : ({ s with elapsed := s.elapsed + cfg.wifiMonitorIntervalSeconds } :
          Locals).Agrees { t with down := t.down || !true, looked := true } :=
        ⟨agrees.failures, agrees.settled⟩
      exact ensures_bind_iff.mpr ((ensures_check checked).mono sleeps)
  | false =>
      have rejoined : s.Agrees { t with down := t.down || !false, looked := true } :=
        ⟨agrees.failures, agrees.settled⟩
      exact ensures_bind_iff.mpr
        ((ensures_rejoin (Bool.or_true _) rejoined).mono sleeps)

theorem ensures_supervise (n : Nat) {s : Locals} (agrees : s.Agrees t) (calm : t.looked = false) :
    (supervise cfg n s).Ensures (tallying cfg.httpHealthFailureLimit)
      (fun s' t' => s'.Agrees t') t := by
  induction n generalizing s t with
  | zero => exact agrees
  | succ n ih =>
      exact ensures_bind_iff.mpr ((ensures_pass agrees calm).mono
        fun s' t' passed => ih passed.1 passed.2)

/-- **The web server is restarted exactly when that is due**, whatever fails: for each
recovery of the Wi-Fi, and for each failed probe from the limit on. -/
theorem restart_iff_due {n : Nat} {events : Events} {s : Locals}
    (run : Runs (supervise cfg n (.start cfg)) events s) :
    s.httpFailures = (Tally.start.behind cfg.httpHealthFailureLimit events).failures ∧
      (Tally.start.behind cfg.httpHealthFailureLimit events).Settled ∧
      ∀ before after answer, events = before ++ ⟨.restart, answer⟩ :: after →
        (Tally.start.behind cfg.httpHealthFailureLimit before).Due := by
  have start : (Locals.start cfg).Agrees .start := ⟨rfl, rfl⟩
  have admits : (tallying cfg.httpHealthFailureLimit).Admits .start events :=
    Watch.admits_of_gives (fun _ _ _ => trivial) events
  obtain ⟨permits, agrees⟩ := run.ensured (ensures_supervise n start rfl) admits
  refine ⟨agrees.failures, agrees.settled, fun before after answer split => ?_⟩
  rw [split] at permits
  exact permits.of_append rfl

end Tallying

/-- The Wi-Fi is connected, and nobody listens. -/
def deaf : (op : Op) → Ans op
  | .isConnected => true
  | .openConnection _ _ _ => .error (.osError (some 104) "ECONNRESET")
  | .address => "192.168.1.42"
  | .read _ _ => .ok []
  | .disconnect | .active _ | .setIfconfig _ _ _ _ | .connect _ _ | .write _ | .drain _
  | .restart => .ok ()
  | .sleep _ | .close | .log _ _ => ()

/-- The Wi-Fi is down for a while, and nobody listens before or behind that. -/
def flaky (n : Nat) : (op : Op) → Ans op
  | .isConnected => decide (n < 4 ∨ 28 ≤ n)
  | op => deaf op

def Config.hasty : Config := { Config.shipped with wifiReconnectTimeoutSeconds := 2 }

/-- A first attempt to recover the link fails, a second one does not, and then three probes
fail. -/
def flakyPasses : Events := ((supervise .hasty 21 (.start .hasty)).play flaky 0).1

theorem restart_iff_due_flaky :
    (Tally.start.behind 3 flakyPasses).recovered = 1 ∧
      (Tally.start.behind 3 flakyPasses).overdue = 1 ∧
      (Tally.start.behind 3 flakyPasses).Settled :=
  ⟨by decide, by decide,
    (restart_iff_due (runs_play flaky 0 (supervise .hasty 21 (.start .hasty)))).2.1⟩

/-! ### How soon a restart comes -/

section Latency

variable {cfg : Config}

/-- The passes up to the next probe, while the Wi-Fi is connected. -/
def Config.ticks (cfg : Config) (elapsed : Nat) : Nat :=
  max 1 ((cfg.httpHealthIntervalSeconds - elapsed + cfg.wifiMonitorIntervalSeconds - 1) /
    cfg.wifiMonitorIntervalSeconds)

/-- The passes up to the next restart, while every probe fails. -/
def Config.rank (cfg : Config) (s : Locals) : Nat :=
  cfg.ticks s.elapsed + (cfg.httpHealthFailureLimit - 1 - s.httpFailures) * cfg.ticks 0

/-- The Wi-Fi is connected, and no probe succeeds. -/
def dead : Event Op Ans → Bool
  | ⟨.isConnected, connected⟩ => connected
  | ⟨.read _ _, .ok response⟩ => !healthy response
  | _ => true

/-- Whether a restart has been attempted. -/
def awaiting : Watch Op Ans Bool where
  allows _ _ := True
  gives _ op answer := dead ⟨op, answer⟩ = true
  next restarted op _ := restarted || decide (op = .restart)

theorem ticks_due (runs : 0 < cfg.wifiMonitorIntervalSeconds) {elapsed : Nat}
    (due : cfg.httpHealthIntervalSeconds ≤ elapsed + cfg.wifiMonitorIntervalSeconds) :
    cfg.ticks elapsed = 1 := by
  unfold Config.ticks
  refine max_eq_left (Nat.le_of_lt_succ ((Nat.div_lt_iff_lt_mul runs).mpr ?_))
  omega

theorem ticks_waits (runs : 0 < cfg.wifiMonitorIntervalSeconds) {elapsed : Nat}
    (early : ¬ cfg.httpHealthIntervalSeconds ≤ elapsed + cfg.wifiMonitorIntervalSeconds) :
    cfg.ticks elapsed = cfg.ticks (elapsed + cfg.wifiMonitorIntervalSeconds) + 1 := by
  have shift : cfg.httpHealthIntervalSeconds - elapsed + cfg.wifiMonitorIntervalSeconds - 1 =
      cfg.httpHealthIntervalSeconds - (elapsed + cfg.wifiMonitorIntervalSeconds) +
        cfg.wifiMonitorIntervalSeconds - 1 + cfg.wifiMonitorIntervalSeconds := by omega
  have some : 1 ≤ (cfg.httpHealthIntervalSeconds - (elapsed + cfg.wifiMonitorIntervalSeconds) +
      cfg.wifiMonitorIntervalSeconds - 1) / cfg.wifiMonitorIntervalSeconds :=
    (Nat.le_div_iff_mul_le runs).mpr (by omega)
  unfold Config.ticks
  rw [shift, Nat.add_div_right _ runs, max_eq_right some, max_eq_right (Nat.le_succ_of_le some)]

theorem ticks_le (elapsed : Nat) : cfg.ticks elapsed ≤ cfg.ticks 0 := by
  have shorter : (cfg.httpHealthIntervalSeconds - elapsed + cfg.wifiMonitorIntervalSeconds - 1) /
      cfg.wifiMonitorIntervalSeconds ≤
      (cfg.httpHealthIntervalSeconds - 0 + cfg.wifiMonitorIntervalSeconds - 1) /
      cfg.wifiMonitorIntervalSeconds := Nat.div_le_div_right (by omega)
  unfold Config.ticks
  omega

theorem rank_le (s : Locals) : cfg.rank s ≤ max 1 cfg.httpHealthFailureLimit * cfg.ticks 0 := by
  have failures : (cfg.httpHealthFailureLimit - 1 - s.httpFailures) * cfg.ticks 0 ≤
      (max 1 cfg.httpHealthFailureLimit - 1) * cfg.ticks 0 :=
    Nat.mul_le_mul_right _ (by omega)
  have whole : max 1 cfg.httpHealthFailureLimit * cfg.ticks 0 =
      cfg.ticks 0 + (max 1 cfg.httpHealthFailureLimit - 1) * cfg.ticks 0 := by
    have split : max 1 cfg.httpHealthFailureLimit = max 1 cfg.httpHealthFailureLimit - 1 + 1 := by
      omega
    rw [split, Nat.succ_mul, Nat.add_comm, Nat.add_sub_cancel]
  have first : cfg.ticks s.elapsed ≤ cfg.ticks 0 := ticks_le s.elapsed
  unfold Config.rank
  omega

theorem restarted_stays {α : Type} (p : Prog Op Ans α) :
    p.Ensures awaiting (fun _ restarted => restarted = true) true := by
  induction p with
  | done value => rfl
  | perform op next ih => exact ⟨trivial, fun answer _ => ih answer⟩

/-- A probe that fails. -/
theorem probe_fails (ip : String) :
    (probe cfg ip).Ensures awaiting (fun verdict restarted => verdict = false ∧ restarted = false)
      false := by
  have talks : Secures awaiting (talk cfg) (fun verdict restarted =>
      verdict = false ∧ restarted = false) (fun _ restarted => restarted = false) false := by
    refine secures_bind_iff.mpr ⟨trivial, fun answer _ => ?_⟩
    change Except Exc Unit at answer
    cases answer with
    | error exc => rfl
    | ok done =>
        refine secures_bind_iff.mpr ⟨trivial, fun answer _ => ?_⟩
        change Except Exc Unit at answer
        cases answer with
        | error exc => rfl
        | ok done =>
            refine secures_bind_iff.mpr ⟨trivial, fun answer given => ?_⟩
            change Except Exc Bytes at answer
            cases answer with
            | error exc => rfl
            | ok response => exact ⟨by simpa [awaiting, dead] using given, rfl⟩
  refine ensures_bind_iff.mpr (ensures_ask_iff.mpr ⟨trivial, fun answer _ => ?_⟩)
  change Except Exc Unit at answer
  cases answer with
  | error exc => exact ⟨rfl, rfl⟩
  | ok done =>
      refine ensures_bind_iff.mpr (Prog.Ensures.mono talks fun outcome restarted ended => ?_)
      refine ensures_bind_iff.mpr (ensures_ask_iff.mpr ⟨trivial, fun _ _ => ?_⟩)
      cases outcome with
      | ok verdict =>
          obtain ⟨rfl, rfl⟩ := ended
          exact ⟨rfl, rfl⟩
      | error exc =>
          obtain rfl := ended
          exact ⟨rfl, rfl⟩

/-- The restart has come, or it has come nearer. -/
def Nears (cfg : Config) (before : Nat) (s : Locals) (restarted : Bool) : Prop :=
  restarted = true ∨ cfg.rank s + 1 ≤ before

theorem failed_nears {s : Locals} (due : cfg.ticks s.elapsed = 1) :
    (failed cfg (s.httpFailures + 1)).Ensures awaiting (Nears cfg (cfg.rank s)) false := by
  unfold failed
  split
  · refine ensures_bind_iff.mpr (ensures_ask_iff.mpr ⟨trivial, fun _ _ => ?_⟩)
    refine ensures_bind_iff.mpr (ensures_ask_iff.mpr ⟨trivial, fun answer _ => ?_⟩)
    exact (restarted_stays _).mono fun _ _ restarted => .inl restarted
  · rename_i below
    have left : cfg.httpHealthFailureLimit - 1 - s.httpFailures =
        (cfg.httpHealthFailureLimit - 1 - (s.httpFailures + 1)) + 1 := by omega
    refine .inr ?_
    unfold Config.rank
    rw [due, left, Nat.succ_mul]
    dsimp only
    omega

theorem pass_nears (runs : 0 < cfg.wifiMonitorIntervalSeconds) (s : Locals) :
    (pass cfg s).Ensures awaiting (Nears cfg (cfg.rank s)) false := by
  refine ensures_bind_iff.mpr (ensures_ask_iff.mpr ⟨trivial, fun connected given => ?_⟩)
  obtain rfl : connected = true := given
  have checked :
      (check cfg { s with elapsed := s.elapsed + cfg.wifiMonitorIntervalSeconds }).Ensures
        awaiting (Nears cfg (cfg.rank s)) false := by
    unfold check
    split
    · rename_i due
      refine ensures_bind_iff.mpr (ensures_ask_iff.mpr ⟨trivial, fun ip _ => ?_⟩)
      refine ensures_bind_iff.mpr ((probe_fails ip).mono ?_)
      rintro verdict restarted ⟨rfl, rfl⟩
      exact failed_nears (ticks_due runs due)
    · rename_i early
      refine .inr ?_
      unfold Config.rank
      rw [ticks_waits runs early]
      dsimp only
      omega
  refine ensures_bind_iff.mpr (checked.mono fun s' restarted nears => ?_)
  refine ensures_bind_iff.mpr (ensures_ask_iff.mpr ⟨trivial, fun _ _ => ?_⟩)
  cases restarted with
  | true => exact .inl rfl
  | false => exact nears

theorem supervise_restarts (runs : 0 < cfg.wifiMonitorIntervalSeconds) {n : Nat} {s : Locals}
    (enough : cfg.rank s ≤ n) :
    (supervise cfg n s).Ensures awaiting (fun _ restarted => restarted = true) false := by
  induction n generalizing s with
  | zero =>
      have some : 1 ≤ cfg.ticks s.elapsed := le_max_left _ _
      unfold Config.rank at enough
      omega
  | succ n ih =>
      refine ensures_bind_iff.mpr ((pass_nears runs s).mono fun s' restarted nears => ?_)
      cases restarted with
      | true => exact restarted_stays _
      | false =>
          obtain absurd | nearer := nears
          · cases absurd
          · exact ih (by omega)

theorem admits_of_dead {events : Events} {restarted : Bool}
    (silent : ∀ ev ∈ events, dead ev = true) : awaiting.Admits restarted events := by
  induction events generalizing restarted with
  | nil => trivial
  | cons ev events ih =>
      exact ⟨silent ev List.mem_cons_self, ih fun later mem => silent later
        (List.mem_cons_of_mem _ mem)⟩

theorem restarted_iff (events : Events) (restarted : Bool) :
    awaiting.after restarted events = true ↔
      restarted = true ∨ ∃ ev ∈ events, ev.op = .restart := by
  induction events generalizing restarted with
  | nil => simp [Watch.after]
  | cons ev events ih =>
      have tail := ih (restarted || decide (ev.op = .restart))
      change awaiting.after (restarted || decide (ev.op = .restart)) events = true ↔ _
      rw [tail, List.exists_mem_cons_iff, Bool.or_eq_true, decide_eq_true_iff, or_assoc]

/-- **A dead web server is restarted in time**, from any state of the loop. -/
theorem restart_within (runs : 0 < cfg.wifiMonitorIntervalSeconds) {n : Nat} {s s' : Locals}
    {events : Events} (run : Runs (supervise cfg n s) events s')
    (silent : ∀ ev ∈ events, dead ev = true)
    (enough : max 1 cfg.httpHealthFailureLimit * max 1
      ((cfg.httpHealthIntervalSeconds + cfg.wifiMonitorIntervalSeconds - 1) /
        cfg.wifiMonitorIntervalSeconds) ≤ n) :
    ∃ ev ∈ events, ev.op = .restart := by
  have admits : awaiting.Admits false events := admits_of_dead silent
  have bound : cfg.rank s ≤ n := (rank_le s).trans enough
  obtain ⟨-, restarted⟩ := run.ensured (supervise_restarts runs bound) admits
  simpa using (restarted_iff events false).mp restarted

/-- Eighteen passes of ten seconds, and then the third probe has failed. -/
theorem restart_within_deaf : ∃ ev ∈ ((supervise .shipped 18 ⟨0, 0⟩).play (fun _ => deaf) 0).1,
    ev.op = .restart :=
  restart_within (by decide) (runs_play (fun _ => deaf) 0 (supervise .shipped 18 ⟨0, 0⟩))
    (by decide) (by decide)

end Latency

end EdgeGateway.Supervisor
