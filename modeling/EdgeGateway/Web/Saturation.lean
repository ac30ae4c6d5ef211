import EdgeGateway.Supervisor
import EdgeGateway.Web.Admission

/-!
The supervisor's probe, and a server whose handlers are all taken.

A handler waits for its request without a timeout, and a restart ends no handler.

* `probe_iff_admitted`: on a server where nothing raises, the probe of the supervisor
  succeeds exactly if its connection was admitted.
* `saturation`: while the active handlers of a full server wait, every connection is
  turned away without a byte, whatever restarts there are. So every probe fails.
-/

namespace EdgeGateway.Web

open EdgeGateway.Lib

/-! ### The probe -/

/-- Nothing raises, and the connection is one of the probe. -/
def probed : Event Op Ans → Bool
  | ⟨.read _, .ok request⟩ => request = Supervisor.probeRequest
  | ev => (raised ev).isNone

/-- The bytes of a probed connection. -/
def probing : Watch Op Ans Bytes where
  allows _ _ := True
  gives _ op answer := probed ⟨op, answer⟩ = true
  next out op answer := out ++ written [⟨op, answer⟩]

/-- The route of the probe. -/
theorem probeRequest_parts :
    (Utf8.decode? (firstLine Supervisor.probeRequest)).map (·.splitOn ' ') =
      some ["GET".toList, "/api/health".toList, "HTTP/1.1".toList] := by
  decide

section Probe

variable {cfg : Config} {codec : Mqtt.Codec} {out : Bytes}

/-- An operation of the connection, which does not raise. -/
theorem secures_piece {piece : Piece} {post : Unit → Bytes → Prop} {raised : Exc → Bytes → Prop}
    (returns : post () (out ++ piece.bytes)) : Secures probing (write piece) post raised out := by
  refine ⟨trivial, fun answer given => ?_⟩
  change Except Exc Unit at answer
  cases answer with
  | ok done =>
      have wrote : written [⟨.write piece, .ok done⟩] = piece.bytes := List.append_nil _
      change post done (out ++ written [⟨.write piece, .ok done⟩])
      rw [wrote]
      exact returns
  | error exc => cases given

theorem secures_drained {post : Unit → Bytes → Prop} {raised : Exc → Bytes → Prop}
    (returns : post () out) : Secures probing drain post raised out := by
  refine ⟨trivial, fun answer given => ?_⟩
  change Except Exc Unit at answer
  cases answer with
  | ok done =>
      change post done (out ++ [])
      rw [List.append_nil]
      exact returns
  | error exc => cases given

/-- Operations that write nothing. -/
theorem ensures_wordless {α : Type} {p : Prog Op Ans α} (silent : p.Only Op.Silent) :
    p.Ensures probing (fun _ out' => out' = out) out := by
  refine silent.ensures (fun _ _ => trivial) fun op silent answer => ?_
  cases op with
  | read | write | drain | stat | reset => exact silent.elim
  | _ => simp [probing, written]

theorem prefix_headers (contentType : String) (length : Nat) :
    Utf8.encode "HTTP/1.1 200".toList <+: (Piece.headers 200 contentType length).bytes := by
  have status : "HTTP/1.1 200".toList = Http.version ++ ' ' :: Nat.toDigits 10 200 := by decide
  have whole := bytes_headers 200 contentType length []
  rw [List.append_nil] at whole
  rw [whole, status]
  exact (responseOf 200 contentType length []).prefix_bytes

/-- The answer to the probe. -/
theorem secures_healthy (value : Json) : Secures probing (json codec 200 value)
    (fun _ out' => Supervisor.healthy (out'.take 48) = true) (fun _ _ => False) [] := by
  set body := Utf8.encode (codec.dumps value).toList
  refine secures_bind_iff.mpr (secures_bind_iff.mpr (secures_piece (secures_drained ?_)))
  refine secures_bind_iff.mpr (secures_piece (secures_drained ?_))
  have whole := (prefix_headers "application/json" body.length).trans (List.prefix_append _ body)
  exact List.isPrefixOf_iff_prefix.mpr (List.prefix_take_iff.mpr ⟨whole, by decide⟩)

theorem secures_probed : Secures probing (serve cfg codec)
    (fun _ out' => Supervisor.healthy (out'.take 48) = true) (fun _ _ => False) [] := by
  refine secures_bind_iff.mpr ⟨trivial, fun answer given => ?_⟩
  change Except Exc Bytes at answer
  cases answer with
  | error exc => cases given
  | ok request =>
      obtain rfl : request = Supervisor.probeRequest := of_decide_eq_true given
      have nonempty : Supervisor.probeRequest ≠ [] := by decide
      obtain ⟨first, decoded, parts⟩ := Option.map_eq_some_iff.mp probeRequest_parts
      have routed : Secures probing (route cfg codec "GET".toList
          ("/api/health".toList.takeWhile (· ≠ '?')))
          (fun _ out' => Supervisor.healthy (out'.take 48) = true) (fun _ _ => False) [] := by
        refine secures_bind_iff.mpr (secures_lift_iff.mpr ⟨trivial, fun a _ => ?_⟩)
        exact secures_bind_iff.mpr (secures_lift_iff.mpr ⟨trivial, fun free _ => secures_healthy _⟩)
      change Secures _ (if Supervisor.probeRequest = [] then pure () else _) _ _ []
      rw [if_neg nonempty, decoded]
      simp only [parts]
      exact routed

theorem admits_of_probed {events : Events} (calm : ∀ ev ∈ events, probed ev = true) :
    probing.Admits out events := by
  induction events generalizing out with
  | nil => trivial
  | cons ev events ih =>
      exact ⟨calm ev List.mem_cons_self, ih fun later mem => calm later
        (List.mem_cons_of_mem _ mem)⟩

theorem after_probing (events : Events) : probing.after out events = out ++ written events := by
  induction events generalizing out with
  | nil => simp [Watch.after, written]
  | cons ev events ih =>
      have split : written (ev :: events) = written [ev] ++ written events := by simp [written]
      change probing.after (out ++ written [ev]) events = _
      rw [ih, split, List.append_assoc]

/-- What an admitted handler still has to do. -/
theorem ensures_admitted (a : Attributes) :
    (do
      call (.setAttributes a)
      let outcome ← (serve cfg codec).run
      recover codec outcome
      release cfg).Ensures probing (fun _ out' => Supervisor.healthy (out'.take 48) = true) [] := by
  refine ensures_bind_iff.mpr (ensures_ask_iff.mpr ⟨trivial, fun done _ => ?_⟩)
  change Prog.Ensures _ _ _ []
  refine ensures_bind_iff.mpr (Prog.Ensures.mono secures_probed fun outcome out ended => ?_)
  cases outcome with
  | error exc => exact ended.elim
  | ok done =>
      refine ensures_bind_iff.mpr ?_
      exact (ensures_wordless (silent_release cfg)).mono fun _ out' same => same ▸ ended

/-- **The probe succeeds exactly if its connection is admitted**, where nothing raises. -/
theorem probe_iff_admitted {events : Events} (run : Runs (handle cfg codec) events ())
    (calm : ∀ ev ∈ events, probed ev = true) :
    Supervisor.healthy ((written events).take 48) = true ↔
      ∃ a : Attributes, events.head? = some ⟨.attributes, a⟩ ∧
        a.activeRequests < cfg.maxActiveRequests := by
  obtain ⟨first, a, rest, reading, after, rfl⟩ := runs_bind_iff.mp run
  obtain rfl := runs_ask_iff.mp reading
  have admits : probing.Admits [] rest :=
    admits_of_probed fun ev mem => calm ev (List.mem_cons_of_mem _ mem)
  have out : written ([⟨.attributes, a⟩] ++ rest) = probing.after [] rest := by
    rw [after_probing]
    rfl
  have head : (∃ a' : Attributes, ([⟨.attributes, a⟩] ++ rest : Events).head? =
      some ⟨.attributes, a'⟩ ∧ a'.activeRequests < cfg.maxActiveRequests) ↔
      a.activeRequests < cfg.maxActiveRequests := by
    constructor
    · rintro ⟨a', same, room⟩
      cases same
      exact room
    · exact fun room => ⟨a, rfl, room⟩
  rw [out, head]
  split at after
  · rename_i full
    have wordless : (do
        call (.setAttributes { a with rejectedRequests := a.rejectedRequests + 1 })
        call .close : Prog Op Ans Unit).Only Op.Silent := .bind (.ask trivial) fun _ => .ask trivial
    obtain ⟨-, none⟩ := after.ensured (ensures_wordless wordless) admits
    rw [none]
    exact iff_of_false (by decide) (Int.not_lt.mpr full)
  · rename_i room
    obtain ⟨-, healthy⟩ := after.ensured (ensures_admitted _) admits
    exact iff_of_true healthy (Int.not_le.mp room)

/-- A probe of an idle server. -/
def probedEvents : Events := ((handle .shipped Mqtt.idleCodec).play (fun n op =>
  match op with
  | .read _ => .ok Supervisor.probeRequest
  | op => breaksAt 20 n op) 0).1

theorem probe_iff_admitted_idle : Supervisor.healthy ((written probedEvents).take 48) = true :=
  (probe_iff_admitted (runs_play _ 0 (handle .shipped Mqtt.idleCodec)) (by decide)).mpr
    ⟨⟨true, 0, 0, 0, 0⟩, rfl, by decide⟩

end Probe

/-! ### A server whose handlers are taken -/

/-- The active handlers of the server wait on. -/
def WebServer.Spares (w : WebServer) : Input → Prop
  | .resume conn _ => ∀ c, w.connections[conn]? = some c → c.active = false
  | _ => True

/-- A handler begins. -/
def Input.connects : Input → Bool
  | .connect _ _ => true
  | _ => false

/-- The handler was turned away, and has nothing to do but close. -/
structure Connection.Refused (c : Connection) : Prop where
  rejected : c.admitted = false
  closes : c.task.Only (· = .close)

/-- Since `w`, no handler has come or gone, and those that tried were turned away. -/
structure Saturated (w w' : WebServer) (connects : Nat) : Prop where
  active : w'.attributes.activeRequests = w.attributes.activeRequests
  rejected : w'.attributes.rejectedRequests = w.attributes.rejectedRequests + connects
  same : (w'.connections.map Connection.active).take w.connections.length =
    w.connections.map Connection.active
  refused : ∀ c ∈ w'.connections.drop w.connections.length, c.Refused

section Saturation

variable {cfg : Config} {codec : Mqtt.Codec} {w w' w'' : WebServer} {n : Nat}

theorem Saturated.refl (w : WebServer) : Saturated w w 0 where
  active := rfl
  rejected := rfl
  same := by rw [← List.length_map Connection.active, List.take_length]
  refused := by simp

theorem Saturated.long (saturated : Saturated w w' n) :
    w.connections.length ≤ w'.connections.length := by
  have lengths := congrArg List.length saturated.same
  rw [List.length_take, List.length_map, List.length_map] at lengths
  omega

/-- A connection that is not one of the active handlers is not active now. -/
theorem Saturated.inactive (saturated : Saturated w w' n) {conn : Nat} {c : Connection}
    (found : w'.connections[conn]? = some c)
    (spares : ∀ c, w.connections[conn]? = some c → c.active = false) : c.active = false := by
  by_cases older : conn < w.connections.length
  · have here := congrArg (·[conn]?) saturated.same
    simp only [List.getElem?_take, if_pos older, List.getElem?_map, found, Option.map_some] at here
    rw [List.getElem?_eq_getElem older, Option.map_some] at here
    rw [Option.some.inj here]
    exact spares _ (List.getElem?_eq_getElem older)
  · have later : c ∈ w'.connections.drop w.connections.length := by
      refine List.mem_of_getElem? (i := conn - w.connections.length) ?_
      rw [List.getElem?_drop, Nat.add_sub_cancel' (Nat.le_of_not_lt older)]
      exact found
    simp [Connection.active, (saturated.refused c later).rejected]

/-- A full server turns a connection away. -/
theorem connect_full (full : ¬ w.attributes.activeRequests < cfg.maxActiveRequests)
    (block : TryBlock) (answers : Answers Op Ans) :
    w.connect cfg codec block answers =
      { w with
        attributes :=
          { w.attributes with rejectedRequests := w.attributes.rejectedRequests + 1 }
        connections := w.connections ++ [⟨false, call .close⟩] } := by
  have begun : (handleAround cfg codec block.block).stretch sharing answers 0 w.attributes =
      ({ w.attributes with rejectedRequests := w.attributes.rejectedRequests + 1 },
        call .close) := by
    have seen : sharing.perform .attributes (answers 0 .attributes) w.attributes =
        (w.attributes, w.attributes) := rfl
    unfold handleAround
    rw [Prog.stretch_perform rfl, seen, if_pos (Int.not_lt.mp full), Prog.stretch_perform rfl]
    rfl
  unfold WebServer.connect
  rw [begun, decide_eq_false full]

/-- The supervisor assigns no counter, and touches no handler. -/
theorem Saturated.keep (saturated : Saturated w w' n)
    (connections : w''.connections = w'.connections)
    (active : w''.attributes.activeRequests = w'.attributes.activeRequests)
    (rejected : w''.attributes.rejectedRequests = w'.attributes.rejectedRequests) :
    Saturated w w'' n where
  active := active.trans saturated.active
  rejected := rejected.trans saturated.rejected
  same := by
    rw [connections]
    exact saturated.same
  refused := by
    rw [connections]
    exact saturated.refused

theorem Saturated.connect (saturated : Saturated w w' n)
    (full : (cfg.maxActiveRequests : Int) ≤ w.attributes.activeRequests) (block : TryBlock)
    (answers : Answers Op Ans) : Saturated w (w'.connect cfg codec block answers) (n + 1) := by
  have still : ¬ w'.attributes.activeRequests < cfg.maxActiveRequests := by
    rw [saturated.active]
    exact Int.not_lt.mpr full
  have long := saturated.long
  rw [connect_full still]
  refine ⟨saturated.active, ?_, ?_, fun c mem => ?_⟩
  · dsimp only
    rw [saturated.rejected, Nat.add_assoc]
  · dsimp only
    rw [List.map_append, List.take_append_of_le_length (by rwa [List.length_map])]
    exact saturated.same
  · rw [List.drop_append_of_le_length long] at mem
    obtain older | new := List.mem_append.mp mem
    · exact saturated.refused c older
    · obtain rfl := List.mem_singleton.mp new
      exact ⟨rfl, .ask rfl⟩

theorem map_set {cs : List Connection} {conn : Nat} {c c' : Connection}
    (found : cs[conn]? = some c) (same : c'.active = c.active) :
    (cs.set conn c').map Connection.active = cs.map Connection.active := by
  obtain ⟨inside, rfl⟩ := List.getElem?_eq_some_iff.mp found
  rw [List.map_set, same, ← List.getElem_map Connection.active (h := by simpa using inside),
    List.set_getElem_self]

/-- A handler that goes on was turned away. -/
theorem Saturated.resume (saturated : Saturated w w' n) (inv : Admission cfg w') {conn : Nat}
    {answers : Answers Op Ans}
    (spares : ∀ c, w.connections[conn]? = some c → c.active = false)
    (step : w'.resume conn answers = some w'') : Saturated w w'' n := by
  unfold WebServer.resume at step
  cases found : w'.connections[conn]? with
  | none =>
      rw [found] at step
      cases step
  | some c =>
      rw [found] at step
      obtain ⟨resumed, ran, rfl⟩ := Option.map_eq_some_iff.mp step
      have unfinished : c.finished = false := by simpa using unfinished_of_resume ran
      have inactive := saturated.inactive found spares
      have turned : c.admitted = false := by
        unfold Connection.active at inactive
        rw [unfinished] at inactive
        simpa using inactive
      have sound := inv.sound c (List.mem_of_getElem? found)
      obtain ⟨kept, -⟩ := (sound.rejected turned).resume Op.Keeps.calm ran
      have still : Connection.active { c with task := resumed.2 } = c.active := by
        simp [Connection.active, turned]
      refine ⟨?_, ?_, ?_, fun c' mem => ?_⟩
      · dsimp only
        rw [kept, saturated.active]
      · dsimp only
        rw [kept, saturated.rejected]
      · dsimp only
        rw [map_set found still]
        exact saturated.same
      · rw [List.drop_set] at mem
        split at mem
        · exact saturated.refused c' mem
        · rename_i later
          obtain other | rfl := List.mem_or_eq_of_mem_set mem
          · exact saturated.refused c' other
          · have refused : c.Refused := by
              apply saturated.refused c
              apply List.mem_of_getElem? (i := conn - w.connections.length)
              rw [List.getElem?_drop, Nat.add_sub_cancel' (Nat.le_of_not_lt later)]
              exact found
            have closes := refused.closes.resume
              (fun op close answer a => by subst close; rfl) ran
            exact ⟨turned, closes.2⟩

theorem Saturated.supervise (saturated : Saturated w w' n) {raised : Option Exc}
    (step : w'.supervise raised = some w'') : Saturated w w'' n := by
  unfold WebServer.supervise at step
  split at step <;> cases step
  · exact saturated.keep rfl rfl rfl
  · exact saturated.keep rfl rfl rfl
  · exact saturated.keep rfl rfl rfl
  · exact saturated.keep rfl rfl rfl

theorem Saturated.step (saturated : Saturated w w' n) (inv : Admission cfg w')
    (full : (cfg.maxActiveRequests : Int) ≤ w.attributes.activeRequests) {i : Input}
    (spares : w.Spares i) (step : (webServer cfg codec).step w' i = some w'') :
    Saturated w w'' (n + i.connects.toNat) := by
  cases i with
  | connect block answers =>
      obtain rfl := Option.some.inj step
      exact saturated.connect full block answers
  | resume conn answers => exact saturated.resume inv spares step
  | restart waits =>
      simp only [webServer, WebServer.step] at step
      split at step
      · obtain rfl := Option.some.inj step
        exact saturated.keep rfl rfl rfl
      · cases step
  | supervise raised => exact saturated.supervise step

/-- **While the active handlers of a full server wait, every connection is turned away
without a byte**, and no restart changes that. -/
theorem saturation {is js : List Input} (run : Run (webServer cfg codec) is w)
    (full : (cfg.maxActiveRequests : Int) ≤ w.attributes.activeRequests)
    (wait : ∀ i ∈ js, w.Spares i) (onward : Run (webServer cfg codec) (is ++ js) w') :
    w'.attributes.activeRequests = w.attributes.activeRequests ∧
      w'.attributes.rejectedRequests = w.attributes.rejectedRequests + js.countP Input.connects ∧
      ∀ c ∈ w'.connections.drop w.connections.length, c.Refused := by
  have saturated : Saturated w w' (js.countP Input.connects) := by
    induction js using List.reverseRecOn generalizing w' with
    | nil =>
        rw [List.append_nil] at onward
        obtain rfl := run.unique onward
        exact .refl w
    | append_singleton js i ih =>
        rw [← List.append_assoc] at onward
        obtain ⟨mid, before, step⟩ := run_snoc onward
        have inv : Admission cfg mid :=
          before.invariant (.init cfg) fun _ _ _ inv step => Admission.step inv step
        have held := ih (fun j mem => wait j (List.mem_append_left _ mem)) before
        have counted : (js ++ [i]).countP Input.connects =
            js.countP Input.connects + i.connects.toNat := by
          rw [List.countP_append, List.countP_singleton]
          cases i.connects <;> rfl
        rw [counted]
        exact held.step inv full (wait i (by simp)) step
  exact ⟨saturated.active, saturated.rejected, saturated.refused⟩

end Saturation

/-- A silent client takes the only handler, and the supervisor restarts the server. -/
def takenThenRestarted (cfg : Config) : List Input × List Input :=
  have block := TryBlock.serve cfg Mqtt.idleCodec
  ([.supervise none, .connect block breaksAtOnce],
    [.connect block breaksAtOnce, .restart false, .supervise none, .supervise none,
      .connect block breaksAtOnce])

theorem saturation_restarted : ∃ w w' : WebServer,
    Run (webServer oneAtATime Mqtt.idleCodec) (takenThenRestarted oneAtATime).1 w ∧
    Run (webServer oneAtATime Mqtt.idleCodec)
      ((takenThenRestarted oneAtATime).1 ++ (takenThenRestarted oneAtATime).2) w' ∧
    w'.attributes.restartCount = 1 ∧
    w'.attributes.activeRequests = w.attributes.activeRequests ∧
    w'.attributes.rejectedRequests = w.attributes.rejectedRequests + 2 ∧
    (w'.connections.drop w.connections.length).length = 2 ∧
    ∀ c ∈ w'.connections.drop w.connections.length, c.Refused := by
  have run : Run (webServer oneAtATime Mqtt.idleCodec) (takenThenRestarted oneAtATime).1 _ :=
    run_iff_exec.mpr rfl
  have onward : Run (webServer oneAtATime Mqtt.idleCodec) ((takenThenRestarted oneAtATime).1 ++
      (takenThenRestarted oneAtATime).2) _ := run_iff_exec.mpr rfl
  have wait : ∀ w : WebServer, ∀ i ∈ (takenThenRestarted oneAtATime).2, w.Spares i := by
    simp [takenThenRestarted, WebServer.Spares]
  obtain ⟨active, rejected, refused⟩ := saturation run (by decide) (wait _) onward
  exact ⟨_, _, run, onward, rfl, active, rejected, rfl, refused⟩

end EdgeGateway.Web
