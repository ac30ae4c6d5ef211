import EdgeGateway.Lib.Run
import EdgeGateway.Lib.Tasks
import EdgeGateway.Web.Server

/-!
Admission of connections: any number of `handle` tasks on the attributes of one server.

A step is one stretch of one task: from the start of a handler to its first await, from
one await of it to the next, or such a stretch of `restart`. So a run is an
interleaving of the handlers at their awaits, with restarts in between. What a handler
does in its `try` block is up to the connection (`TryBlock`): it may read, write and
drain in any order, take any route and raise anywhere, and assigns no attribute.

`admission` says what `active_requests` and `rejected_requests` count. It rests on one
fact about every admitted handler (`Owing`): whatever its block has left to do, the
`finally` block is still to come, once.
-/

namespace EdgeGateway.Web

open EdgeGateway.Lib

/-! ### `handle` around a block -/

/-- The operation is no assignment of the attributes. -/
def Op.Keeps : Op → Prop
  | .setAttributes _ => False
  | _ => True

/-- What a handler may do in its `try` block. -/
structure TryBlock where
  block : Handler Unit
  keeps : block.run.Only Op.Keeps

section Handle

variable (cfg : Config) (codec : Mqtt.Codec)

/-- `handle`, with its `try` block. -/
def handleAround (block : Handler Unit) : Prog Op Ans Unit := do
  let a : Attributes ← call .attributes
  if cfg.maxActiveRequests ≤ a.activeRequests then
    call (.setAttributes { a with rejectedRequests := a.rejectedRequests + 1 })
    call .close
  else
    call (.setAttributes { a with activeRequests := a.activeRequests + 1 })
    let outcome ← block.run
    recover codec outcome
    release cfg

theorem handle_eq : handle cfg codec = handleAround cfg codec (serve cfg codec) := rfl

end Handle

/-! ### The server and its tasks -/

/-- An `await`. -/
def Op.awaits : Op → Bool
  | .read _ | .drain | .close | .sleepMs _ => true
  | _ => false

/-- The handlers share the attributes. -/
def sharing : Sharing Op Ans Attributes where
  awaits := Op.awaits
  perform
    | .attributes, _, a => (a, a)
    | .setAttributes a, _, _ => ((), a)
    | _, answer, a => (answer, a)

structure Connection where
  /-- `active_requests` was below its limit when the handler began -/
  admitted : Bool
  /-- what the handler has left to do -/
  task : Prog Op Ans Unit

def Connection.finished (c : Connection) : Bool :=
  match c.task with
  | .done _ => true
  | .perform _ _ => false

/-- An admitted handler that has not finished. -/
def Connection.active (c : Connection) : Bool := c.admitted && !c.finished

/-- An admitted handler that has finished. -/
def Connection.completed (c : Connection) : Bool := c.admitted && c.finished

/-- Where `start` or `restart` is suspended. -/
inductive Supervision where
  | idle
  /-- in `wait_closed` of the old server -/
  | closing
  | sleeping
  /-- in `start_server`, for `restart` or at boot -/
  | starting (restart : Bool)
deriving DecidableEq, Repr

structure WebServer where
  attributes : Attributes
  /-- `self.server` is not `None` -/
  server : Bool
  supervision : Supervision
  /-- the connections handled so far -/
  connections : List Connection

/-- `__init__`, and `start` up to its await. -/
def WebServer.init : WebServer := ⟨⟨false, 0, 0, 0, 0⟩, false, .starting false, []⟩

/-! ### One stretch -/

/-- `handle` from its first line to its first await. -/
def WebServer.connect (cfg : Config) (codec : Mqtt.Codec) (block : TryBlock)
    (answers : Answers Op Ans) (w : WebServer) : WebServer :=
  let begun := (handleAround cfg codec block.block).stretch sharing answers 0 w.attributes
  { w with
    attributes := begun.1
    connections := w.connections ++
      [⟨w.attributes.activeRequests < cfg.maxActiveRequests, begun.2⟩] }

/-- A handler from one await to the next. -/
def WebServer.resume (conn : Nat) (answers : Answers Op Ans) (w : WebServer) : Option WebServer :=
  match w.connections[conn]? with
  | none => none
  | some c =>
      (c.task.resume sharing answers w.attributes).map fun resumed =>
        { w with
          attributes := resumed.1
          connections := w.connections.set conn { c with task := resumed.2 } }

/-- `restart` up to its first await. `waits` says whether the old server has a
`wait_closed`. -/
def WebServer.restart (waits : Bool) (w : WebServer) : WebServer :=
  { w with
    attributes := { w.attributes with running := false }
    server := false
    supervision := if w.server && waits then .closing else .sleeping }

/-- `start` once `start_server` returned, and the end of `restart`. -/
def WebServer.started (restart : Bool) (w : WebServer) : WebServer :=
  { w with
    attributes := { w.attributes with
      running := true
      restartCount := if restart then w.attributes.restartCount + 1 else w.attributes.restartCount }
    server := true
    supervision := .idle }

/-- `restart` or `start` from one await to the next. A sleep raises nothing, what
`wait_closed` raises is dropped, and what `start_server` raises is left to the caller,
which resets the gateway at boot. -/
def WebServer.supervise (raised : Option Exc) (w : WebServer) : Option WebServer :=
  match w.supervision, raised with
  | .closing, _ => some { w with supervision := .sleeping }
  | .sleeping, none => some { w with supervision := .starting true }
  | .starting restart, none => some (w.started restart)
  | .starting true, some _ => some { w with supervision := .idle }
  | .starting false, some _ | .sleeping, some _ | .idle, _ => none

inductive Input where
  /-- a handler begins: its task may have been created before the server was closed -/
  | connect (block : TryBlock) (answers : Answers Op Ans)
  | resume (conn : Nat) (answers : Answers Op Ans)
  /-- the supervisor calls `restart` -/
  | restart (waits : Bool)
  | supervise (raised : Option Exc)

def WebServer.step (cfg : Config) (codec : Mqtt.Codec) (w : WebServer) : Input → Option WebServer
  | .connect block answers => some (w.connect cfg codec block answers)
  | .resume conn answers => w.resume conn answers
  | .restart waits => if w.supervision = .idle then some (w.restart waits) else none
  | .supervise raised => w.supervise raised

/-- The server with every interleaving of its handlers. -/
def webServer (cfg : Config) (codec : Mqtt.Codec) : System WebServer Input :=
  ⟨.init, WebServer.step cfg codec⟩

/-! ### What a handler has left to do -/

/-- Operations that are no assignment leave the attributes alone. -/
theorem Op.Keeps.calm (op : Op) (keeps : op.Keeps) (answer : Ans op) (a : Attributes) :
    (sharing.perform op answer a).2 = a := by
  cases op with
  | setAttributes a' => exact keeps.elim
  | _ => rfl

/-- Nothing is assigned before the `finally` block. -/
def Owing (cfg : Config) (task : Prog Op Ans Unit) : Prop :=
  ∃ before : Prog Op Ans Unit, before.Only Op.Keeps ∧ task = before >>= fun _ => release cfg

theorem owing_release (cfg : Config) : Owing cfg (release cfg) := ⟨pure (), trivial, rfl⟩

theorem Owing.unfinished {cfg : Config} {admitted : Bool} {task : Prog Op Ans Unit}
    (owing : Owing cfg task) : (Connection.mk admitted task).finished = false := by
  obtain ⟨before, -, rfl⟩ := owing
  cases before <;> rfl

theorem unfinished_of_resume {c : Connection} {answers : Answers Op Ans} {a : Attributes}
    {resumed : Attributes × Prog Op Ans Unit}
    (ran : c.task.resume sharing answers a = some resumed) : ¬ c.finished = true := by
  obtain ⟨admitted, task⟩ := c
  cases task with
  | done value => cases ran
  | perform op next => exact Bool.false_ne_true

/-- Coming to the `finally` block, a handler is suspended in its first line. -/
theorem owing_of_goes {cfg : Config} {answers : Answers Op Ans} {a : Attributes}
    {resumed : Attributes × Prog Op Ans Unit}
    (goes : Goes sharing answers Op.Keeps (fun _ : Unit => release cfg) a resumed) :
    resumed.1 = a ∧ Owing cfg resumed.2 := by
  cases goes with
  | stays only => exact ⟨rfl, _, only, rfl⟩
  | comes n done => exact ⟨rfl, owing_release cfg⟩

section Handlers

variable {cfg : Config} {codec : Mqtt.Codec} {answers : Answers Op Ans} {a : Attributes}

theorem keeps_write (piece : Piece) : (write piece).run.Only Op.Keeps := .ask trivial

theorem keeps_drain : drain.run.Only Op.Keeps := .ask trivial

theorem keeps_headers (status : Nat) (contentType : String) (length : Nat) :
    (headers status contentType length).run.Only Op.Keeps :=
  .run_bind (keeps_write _) fun _ => keeps_drain

theorem keeps_json (status : Nat) (value : Json) : (json codec status value).run.Only Op.Keeps :=
  .run_bind (keeps_headers _ _ _) fun _ => .run_bind (keeps_write _) fun _ => keeps_drain

theorem keeps_recover (outcome : Except Exc Unit) : (recover codec outcome).Only Op.Keeps := by
  unfold recover
  split
  · trivial
  · split
    · trivial
    · refine .bind (.ask trivial) fun _ => ?_
      exact .bind (keeps_json 500 _) fun _ => trivial

theorem keeps_stream (chunks : List Bytes) : (stream chunks).run.Only Op.Keeps := by
  induction chunks with
  | nil => exact .ask trivial
  | cons chunk chunks ih =>
      refine .run_bind (.ask trivial) fun _ => ?_
      split
      · trivial
      · exact .run_bind (keeps_write _) fun _ => .run_bind keeps_drain fun _ => ih

theorem keeps_file (path : Text) : (file codec path).run.Only Op.Keeps := by
  refine .run_tryCatch (.run_bind (.ask trivial) fun size => ?_) fun exc => ?_
  · refine .run_bind (keeps_headers _ _ _) fun _ => .run_bind (.ask trivial) fun chunks => ?_
    refine .run_bind (.run_tryCatch (keeps_stream chunks) fun exc => ?_) fun _ => .ask trivial
    exact .run_bind (.ask trivial) fun _ => trivial
  · cases exc with
    | osError errno text => exact keeps_json 404 _
    | other text => trivial

theorem keeps_sendPage (page : Page) (value : Json → Json) :
    (sendPage codec page value).run.Only Op.Keeps :=
  .run_bind (.ask trivial) fun _ => keeps_json 200 _

theorem keeps_ite {c : Prop} [Decidable c] {x y : Handler Unit} (yes : x.run.Only Op.Keeps)
    (no : y.run.Only Op.Keeps) : (if c then x else y).run.Only Op.Keeps := by
  split
  · exact yes
  · exact no

theorem keeps_route (method path : Text) : (route cfg codec method path).run.Only Op.Keeps := by
  have lifted {op : Op} {f : Ans op → Handler Unit} (kind : op.Keeps)
      (rest : ∀ answer, (f answer).run.Only Op.Keeps) :
      (ExceptT.lift (call op) >>= f).run.Only Op.Keeps :=
    .run_bind (.run_lift (.ask kind)) rest
  refine keeps_ite (lifted trivial fun _ => lifted trivial fun _ => keeps_json 200 _) ?_
  refine keeps_ite (lifted trivial fun _ => keeps_sendPage _ _) ?_
  refine keeps_ite (keeps_sendPage _ _) ?_
  refine keeps_ite (lifted trivial fun _ => keeps_sendPage _ _) ?_
  refine keeps_ite (keeps_sendPage _ _) ?_
  refine keeps_ite (keeps_sendPage _ _) ?_
  refine keeps_ite (keeps_sendPage _ _) ?_
  refine keeps_ite (keeps_sendPage _ _) ?_
  refine keeps_ite ?_ (keeps_ite ?_ (keeps_ite (keeps_json 405 _) ?_))
  · refine lifted trivial fun _ => .run_bind (keeps_json 202 _) fun _ => lifted trivial fun _ => ?_
    exact .run_lift (.ask trivial)
  · unfold testLte
    split
    · exact lifted trivial fun _ => keeps_json 202 _
    · exact keeps_json 503 _
  · exact keeps_ite (keeps_file _) (keeps_json 404 _)

theorem keeps_serve : (serve cfg codec).run.Only Op.Keeps := by
  refine .run_bind (.ask trivial) fun request => ?_
  split
  · trivial
  · split
    · trivial
    · split
      · exact keeps_route _ _
      · exact keeps_json 400 _

/-- The `try` block of `handle`. -/
def TryBlock.serve (cfg : Config) (codec : Mqtt.Codec) : TryBlock :=
  ⟨Web.serve cfg codec, keeps_serve⟩

/-- **A handler is admitted and owes its release, or it is turned away.** -/
theorem handleAround_stretch (cfg : Config) (codec : Mqtt.Codec) (block : TryBlock)
    (answers : Answers Op Ans) (a : Attributes) :
    let begun := (handleAround cfg codec block.block).stretch sharing answers 0 a
    (a.activeRequests < cfg.maxActiveRequests ∧
      begun.1 = { a with activeRequests := a.activeRequests + 1 } ∧ Owing cfg begun.2) ∨
    (¬ a.activeRequests < cfg.maxActiveRequests ∧
      begun.1 = { a with rejectedRequests := a.rejectedRequests + 1 } ∧
      begun.2.Only Op.Keeps) := by
  intro begun
  have entered : begun = (Prog.stretch sharing answers 1 a (
      if cfg.maxActiveRequests ≤ a.activeRequests then do
        call (.setAttributes { a with rejectedRequests := a.rejectedRequests + 1 })
        call .close
      else do
        call (.setAttributes { a with activeRequests := a.activeRequests + 1 })
        let outcome ← block.block.run
        recover codec outcome
        release cfg)) := Prog.stretch_perform rfl _ 0
  by_cases full : cfg.maxActiveRequests ≤ a.activeRequests
  · rw [if_pos full, Prog.stretch_perform rfl] at entered
    rw [entered]
    exact .inr ⟨Int.not_lt.mpr full, rfl, .ask trivial⟩
  · rw [if_neg full, Prog.stretch_perform rfl, ← Prog.bind_assoc] at entered
    have keeps : (block.block.run >>= recover codec).Only Op.Keeps :=
      .bind block.keeps keeps_recover
    obtain ⟨kept, owing⟩ := owing_of_goes (entered ▸ Prog.stretch_bind Op.Keeps.calm keeps _ _)
    exact .inl ⟨Int.not_le.mp full, kept, owing⟩

/-- The counters do not change, and there is nothing left to do. -/
def Ends (a : Attributes) (resumed : Attributes × Prog Op Ans Unit) : Prop :=
  resumed.1.activeRequests = a.activeRequests ∧
    resumed.1.rejectedRequests = a.rejectedRequests ∧ resumed.2 = pure ()

/-- The end of the `finally` block. -/
theorem gcDue_ends (cfg : Config) (answers : Answers Op Ans) (a : Attributes) (since n : Nat) :
    Ends a (Prog.stretch sharing answers n a (do
      let due ← gcDue cfg since
      if due then do
        call .collect
        let a : Attributes ← call .attributes
        call (.setAttributes { a with requestsSinceGc := 0 }))) := by
  have ends (due : Bool) (m : Nat) : Ends a (Prog.stretch sharing answers m a (do
      if due then do
        call .collect
        let a : Attributes ← call .attributes
        call (.setAttributes { a with requestsSinceGc := 0 }))) := by
    cases due with
    | false => exact ⟨rfl, rfl, rfl⟩
    | true => exact ⟨rfl, rfl, rfl⟩
  unfold gcDue
  split
  · exact ends true n
  · rw [Prog.bind_assoc, Prog.stretch_perform rfl]
    exact ends _ (n + 1)

/-- The `finally` block behind its await takes the request off, and is the last stretch. -/
theorem release_resume (cfg : Config) (answers : Answers Op Ans) (a : Attributes) :
    ∃ resumed, (release cfg).resume sharing answers a = some resumed ∧
      Ends { a with activeRequests := a.activeRequests - 1 } resumed := by
  let since := a.requestsSinceGc + 1
  let released := { a with activeRequests := a.activeRequests - 1, requestsSinceGc := since }
  exact ⟨_, rfl, gcDue_ends cfg answers released since 3⟩

/-- **From one await to the next, an admitted handler changes no counter and still owes
its release, or takes itself off and ends.** -/
theorem Owing.resume {task : Prog Op Ans Unit} (owing : Owing cfg task)
    (answers : Answers Op Ans) (a : Attributes) :
    ∃ resumed, task.resume sharing answers a = some resumed ∧
      ((resumed.1 = a ∧ Owing cfg resumed.2) ∨
        Ends { a with activeRequests := a.activeRequests - 1 } resumed) := by
  obtain ⟨before, only, rfl⟩ := owing
  cases before with
  | done value =>
      obtain ⟨resumed, ran, ends⟩ := release_resume cfg answers a
      exact ⟨resumed, ran, .inr ends⟩
  | perform op next =>
      obtain ⟨resumed, ran, goes⟩ := Prog.resume_bind Op.Keeps.calm only fun _ => release cfg
      exact ⟨resumed, ran, .inl (owing_of_goes goes)⟩

end Handlers

/-! ### What the counters count -/

/-- The handler owes its release, or will assign nothing. -/
structure Connection.Sound (cfg : Config) (c : Connection) : Prop where
  admitted : c.admitted = true → c.finished = true ∨ Owing cfg c.task
  rejected : c.admitted = false → c.task.Only Op.Keeps

structure Admission (cfg : Config) (w : WebServer) : Prop where
  sound : ∀ c ∈ w.connections, c.Sound cfg
  active : w.attributes.activeRequests = w.connections.countP Connection.active
  rejected : w.attributes.rejectedRequests = w.connections.countP fun c => !c.admitted
  bound : w.attributes.activeRequests ≤ cfg.maxActiveRequests

theorem Admission.init (cfg : Config) : Admission cfg .init where
  sound := by simp [WebServer.init]
  active := rfl
  rejected := rfl
  bound := Int.natCast_nonneg _

/-- What the supervisor assigns is no counter. -/
theorem Admission.same {cfg : Config} {w w' : WebServer} (inv : Admission cfg w)
    (connections : w'.connections = w.connections)
    (active : w'.attributes.activeRequests = w.attributes.activeRequests)
    (rejected : w'.attributes.rejectedRequests = w.attributes.rejectedRequests) :
    Admission cfg w' where
  sound := by
    rw [connections]
    exact inv.sound
  active := by
    rw [active, connections]
    exact inv.active
  rejected := by
    rw [rejected, connections]
    exact inv.rejected
  bound := by
    rw [active]
    exact inv.bound

/-- A handler that begins is counted as active or as rejected. -/
theorem Admission.add {cfg : Config} {w w' : WebServer} (inv : Admission cfg w) {c : Connection}
    (sound : c.Sound cfg) (connections : w'.connections = w.connections ++ [c])
    (active : w'.attributes.activeRequests = w.attributes.activeRequests + c.active.toNat)
    (rejected :
      w'.attributes.rejectedRequests = w.attributes.rejectedRequests + (!c.admitted).toNat)
    (bound : w'.attributes.activeRequests ≤ cfg.maxActiveRequests) : Admission cfg w' where
  sound := by
    rw [connections]
    intro c' mem
    rcases List.mem_append.mp mem with old | new
    · exact inv.sound c' old
    · obtain rfl := List.mem_singleton.mp new
      exact sound
  active := by
    rw [active, connections, List.countP_append, inv.active]
    cases here : c.active <;> simp [here]
  rejected := by
    rw [rejected, connections, List.countP_append, inv.rejected]
    cases here : c.admitted <;> simp [here]
  bound := bound

theorem Admission.connect {cfg : Config} {w : WebServer} (inv : Admission cfg w)
    (codec : Mqtt.Codec) (block : TryBlock) (answers : Answers Op Ans) :
    Admission cfg (w.connect cfg codec block answers) := by
  obtain ⟨room, begun, owing⟩ | ⟨full, begun, only⟩ :=
    handleAround_stretch cfg codec block answers w.attributes
  · have admitted : decide (w.attributes.activeRequests < cfg.maxActiveRequests) = true :=
      decide_eq_true room
    refine inv.add ⟨fun _ => .inr owing, ?_⟩ rfl ?_ ?_ ?_
    · intro rejected
      rw [admitted] at rejected
      cases rejected
    · simp only [WebServer.connect, begun, Connection.active, admitted, owing.unfinished]
      rfl
    · simp only [WebServer.connect, begun, admitted]
      rfl
    · simp only [WebServer.connect, begun]
      exact Int.add_one_le_of_lt room
  · have rejected : decide (w.attributes.activeRequests < cfg.maxActiveRequests) = false :=
      decide_eq_false full
    refine inv.add ⟨?_, fun _ => only⟩ rfl ?_ ?_ ?_
    · intro admitted
      rw [rejected] at admitted
      cases admitted
    · simp only [WebServer.connect, begun, Connection.active, rejected]
      exact (Int.add_zero _).symm
    · simp only [WebServer.connect, begun, rejected]
      rfl
    · simp only [WebServer.connect, begun]
      exact inv.bound

/-- A handler goes on, and may be taken off. -/
theorem Admission.replace {cfg : Config} {w w' : WebServer} (inv : Admission cfg w)
    {before after : List Connection} {c c' : Connection}
    (connections : w.connections = before ++ c :: after)
    (connections' : w'.connections = before ++ c' :: after) (sound : c'.Sound cfg)
    (admitted : c'.admitted = c.admitted)
    (active : w'.attributes.activeRequests + c.active.toNat =
      w.attributes.activeRequests + c'.active.toNat)
    (rejected : w'.attributes.rejectedRequests = w.attributes.rejectedRequests)
    (less : w'.attributes.activeRequests ≤ w.attributes.activeRequests) : Admission cfg w' where
  sound := by
    have old := inv.sound
    rw [connections] at old
    rw [connections']
    intro d mem
    rcases List.mem_append.mp mem with front | back
    · exact old d (List.mem_append_left _ front)
    · rcases List.mem_cons.mp back with rfl | back
      · exact sound
      · exact old d (List.mem_append_right _ (List.mem_cons_of_mem _ back))
  active := by
    have counted := inv.active
    rw [connections, List.countP_append, List.countP_cons] at counted
    rw [connections', List.countP_append, List.countP_cons]
    have one (b : Bool) : b.toNat = if b = true then 1 else 0 := by cases b <;> rfl
    rw [one, one] at active
    omega
  rejected := by
    rw [rejected, inv.rejected, connections, connections']
    simp [List.countP_append, List.countP_cons, admitted]
  bound := Int.le_trans less inv.bound

theorem Admission.resume {cfg : Config} {w w' : WebServer} (inv : Admission cfg w) {conn : Nat}
    {answers : Answers Op Ans} (step : w.resume conn answers = some w') : Admission cfg w' := by
  unfold WebServer.resume at step
  cases found : w.connections[conn]? with
  | none =>
      rw [found] at step
      cases step
  | some c =>
      rw [found] at step
      obtain ⟨resumed, ran, rfl⟩ := Option.map_eq_some_iff.mp step
      obtain ⟨inside, here⟩ := List.getElem?_eq_some_iff.mp found
      obtain ⟨before, after, split, -, replaced⟩ : ∃ before after,
          w.connections = before ++ c :: after ∧ before.length = conn ∧
            w.connections.set conn { c with task := resumed.2 } =
              before ++ { c with task := resumed.2 } :: after :=
        here ▸ List.exists_of_set inside
      have sound := inv.sound c (by rw [split]; simp)
      by_cases admitted : c.admitted = true
      · have owing : Owing cfg c.task :=
          (sound.admitted admitted).resolve_left (unfinished_of_resume ran)
        obtain ⟨resumed', ran', goesOn⟩ := owing.resume answers w.attributes
        obtain rfl := Option.some.inj (ran'.symm.trans ran)
        have active : c.active = true := by simp [Connection.active, admitted, owing.unfinished]
        obtain ⟨kept, owing'⟩ | ⟨released, rejected, ended⟩ := goesOn
        · refine inv.replace split replaced ⟨fun _ => .inr owing', ?_⟩ rfl ?_ ?_ ?_
          · intro rejected
            rw [admitted] at rejected
            cases rejected
          · simp only [Connection.active, admitted, kept, owing.unfinished, owing'.unfinished]
          · rw [kept]
          · exact Int.le_of_eq (congrArg Attributes.activeRequests kept)
        · have finished : (Connection.mk c.admitted resumed'.2).finished = true := by
            rw [ended]
            rfl
          refine inv.replace split replaced ⟨fun _ => .inl finished, ?_⟩ rfl ?_ rejected ?_
          · intro rejected
            rw [admitted] at rejected
            cases rejected
          · have inactive : (Connection.mk c.admitted resumed'.2).active = false := by
              simp [Connection.active, finished]
            simp [released, active, inactive]
          · simp only [released]
            exact Int.sub_le_self _ (by decide)
      · have rejected : c.admitted = false := by simpa using admitted
        obtain ⟨kept, only⟩ := (sound.rejected rejected).resume Op.Keeps.calm ran
        refine inv.replace split replaced
          ⟨fun isAdmitted => absurd isAdmitted admitted, fun _ => only⟩ rfl ?_ ?_ ?_
        · simp only [Connection.active, rejected, kept, Bool.false_and]
        · rw [kept]
        · exact Int.le_of_eq (congrArg Attributes.activeRequests kept)

theorem Admission.supervise {cfg : Config} {w w' : WebServer} (inv : Admission cfg w)
    {raised : Option Exc} (step : w.supervise raised = some w') : Admission cfg w' := by
  unfold WebServer.supervise at step
  split at step <;> cases step
  · exact inv.same rfl rfl rfl
  · exact inv.same rfl rfl rfl
  · exact inv.same rfl rfl rfl
  · exact inv.same rfl rfl rfl

theorem Admission.step {cfg : Config} {codec : Mqtt.Codec} {w w' : WebServer} {i : Input}
    (inv : Admission cfg w) (step : (webServer cfg codec).step w i = some w') :
    Admission cfg w' := by
  cases i with
  | connect block answers =>
      obtain rfl := Option.some.inj step
      exact inv.connect codec block answers
  | resume conn answers => exact inv.resume step
  | restart waits =>
      simp only [webServer, WebServer.step] at step
      split at step
      · obtain rfl := Option.some.inj step
        exact inv.same rfl rfl rfl
      · cases step
  | supervise raised => exact inv.supervise step

/-- Every connection is active, completed or turned away. -/
theorem countP_connections (cs : List Connection) :
    cs.length = (cs.countP fun c => !c.admitted) + cs.countP Connection.active +
      cs.countP Connection.completed := by
  induction cs with
  | nil => rfl
  | cons c cs ih =>
      have one : (if !c.admitted then 1 else 0) + (if c.active then 1 else 0) +
          (if c.completed then 1 else 0) = 1 := by
        unfold Connection.active Connection.completed
        cases c.admitted <;> cases c.finished <;> rfl
      simp only [List.length_cons, List.countP_cons]
      omega

/-- **`active_requests` counts the admitted handlers that have not finished**, is never
negative and never above its limit, and every connection handled so far is counted as
rejected, active or completed. -/
theorem admission {cfg : Config} {codec : Mqtt.Codec} {is : List Input} {w : WebServer}
    (run : Run (webServer cfg codec) is w) :
    w.attributes.activeRequests = w.connections.countP Connection.active ∧
      0 ≤ w.attributes.activeRequests ∧
      w.attributes.activeRequests ≤ cfg.maxActiveRequests ∧
      w.attributes.rejectedRequests = (w.connections.countP fun c => !c.admitted) ∧
      (w.connections.length : Int) = w.attributes.rejectedRequests + w.attributes.activeRequests +
        w.connections.countP Connection.completed := by
  have inv : Admission cfg w :=
    run.invariant (.init cfg) fun _ _ _ inv step => Admission.step inv step
  refine ⟨inv.active, ?_, inv.bound, inv.rejected, ?_⟩
  · rw [inv.active]
    exact Int.natCast_nonneg _
  · rw [inv.active, inv.rejected, countP_connections]
    simp

/-- A browser asks for `/api/health`, and its connection breaks in the first drain. -/
def breaksAtOnce (_ : Nat) : (op : Op) → Ans op
  | .attributes => ⟨false, 0, 0, 0, 0⟩
  | .read _ => .ok (Utf8.encode "GET /api/health HTTP/1.1\r\n\r\n".toList)
  | .drain => .error (.osError (some 110) "ETIMEDOUT")
  | .stat _ => .ok 0
  | .openFile _ => .ok []
  | .page _ => .ok .null
  | .write _ | .readFile | .closeFile => .ok ()
  | .startInternetTest => true
  | .memFree => 100000
  | .setAttributes _ | .close | .collect | .sleepMs _ | .reset | .log _ _ => ()

/-- Two connections where one is allowed, a restart, and a third connection once the
first has been served. -/
def threeConnections (cfg : Config) : List Input :=
  have block := TryBlock.serve cfg Mqtt.idleCodec
  [.supervise none, .connect block breaksAtOnce, .connect block breaksAtOnce,
    .resume 0 breaksAtOnce, .restart false, .resume 0 breaksAtOnce, .supervise none,
    .resume 0 breaksAtOnce, .supervise none, .resume 0 breaksAtOnce, .connect block breaksAtOnce]

def oneAtATime : Config := { Config.shipped with maxActiveRequests := 1 }

theorem admission_three :
    ∃ w, Run (webServer oneAtATime Mqtt.idleCodec) (threeConnections oneAtATime) w ∧
      (w.connections.length : Int) = w.attributes.rejectedRequests + w.attributes.activeRequests +
        w.connections.countP Connection.completed :=
  have run := run_iff_exec.mpr rfl
  ⟨_, run, (admission run).2.2.2.2⟩

end EdgeGateway.Web
