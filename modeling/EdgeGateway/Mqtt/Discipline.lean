import EdgeGateway.Lib.Watch
import EdgeGateway.Mqtt.Dialogue

/-!
The session that the modem is asked for, exchange by exchange.

`Session` is what the modem has been asked for and has confirmed since the last cleanup,
and `Session.Legal` says what may be asked next: behind a failure, only the cleanup.
`request?` reads an exchange as the modem does: by the name of the command and, where data
follow, the size that is announced.

Every program of `EdgeGateway.Mqtt.Dialogue` asks for legal requests only, whatever is
answered (`secures_provision`, `secures_openSession`, `secures_publish`, `secures_cleanup`).
-/

namespace EdgeGateway.Mqtt

open EdgeGateway.Lib EdgeGateway.Modem

/-! ### Requests -/

inductive Request where
  | disconnect | release | stop
  | listCertificates
  | storeCertificate (name : Text) (data : Bytes)
  | setTls
  | start | acquire | bindTls | connect
  /-- the topic of the next subscription -/
  | nameTopic (topic : Bytes)
  | subscribe
  | setTopic (topic : Bytes)
  | setPayload (payload : Bytes)
  | publish
deriving DecidableEq, Repr

/-- The name of an AT command. -/
def atName (line : String) : Text := line.toList.takeWhile (· ≠ '=')

/-- The second parameter of a command: for an upload, the number of bytes that follow. -/
def announced (line : String) : Option Int :=
  match (line.toList.dropWhile (· ≠ '=')).splitOn ',' with
  | _ :: size :: _ => intOf size
  | _ => none

/-- The first text in quotes. -/
def quotedName (line : String) : Text :=
  ((afterFirst '"' line.toList).getD []).takeWhile (· ≠ '"')

def commandRequests : List (Text × Request) :=
  [("AT+CMQTTDISC".toList, .disconnect), ("AT+CMQTTREL".toList, .release),
    ("AT+CMQTTSTOP".toList, .stop), ("AT+CCERTLIST".toList, .listCertificates),
    ("AT+CSSLCFG".toList, .setTls), ("AT+CMQTTACCQ".toList, .acquire),
    ("AT+CMQTTSSLCFG".toList, .bindTls)]

/-- The requests with a result that comes later, behind this marker. -/
def resultRequests : List ((Text × String) × Request) :=
  [(("AT+CMQTTSTART".toList, "+CMQTTSTART:"), .start),
    (("AT+CMQTTCONNECT".toList, "+CMQTTCONNECT:"), .connect),
    (("AT+CMQTTSUB".toList, "+CMQTTSUB:"), .subscribe),
    (("AT+CMQTTPUB".toList, "+CMQTTPUB:"), .publish)]

def uploadRequests (line : String) (data : Bytes) : List (Text × Request) :=
  [("AT+CCERTDOWN".toList, .storeCertificate (quotedName line) data),
    ("AT+CMQTTSUBTOPIC".toList, .nameTopic data), ("AT+CMQTTTOPIC".toList, .setTopic data),
    ("AT+CMQTTPAYLOAD".toList, .setPayload data)]

/-- What the modem reads. An upload that does not have the announced size is none. -/
def Exchange.request? : Exchange → Option Request
  | .command line _ _ => commandRequests.lookup (atName line)
  | .commandUntil line marker _ => resultRequests.lookup (atName line, marker)
  | .promptUpload line data _ =>
      if announced line = some (data.length : Int) then
        (uploadRequests line data).lookup (atName line)
      else none
  | .readFile _ => none

/-! ### The session -/

/-- How far the session has got, as far as the answers tell. -/
inductive Phase where
  /-- nothing was asked for yet, and an earlier session may be open -/
  | unknown
  /-- something failed, and no cleanup has begun since -/
  | failed
  | disconnected | released
  /-- no earlier session is left -/
  | closed
  | started | acquired | secured | connected
  | named (topic : Bytes)
  | subscribed
  | topicSet (topic : Bytes)
  | payloadSet (topic payload : Bytes)
deriving DecidableEq, Repr

structure Session where
  phase : Phase
  /-- the last answer to `AT+CCERTLIST` -/
  listed : Text
  /-- the names of the certificates that were stored since -/
  stored : List Text
  /-- the topic of the last subscription -/
  subscription : Bytes
  /-- topics and payloads of the publications that the modem reported as successful -/
  delivered : List (Bytes × Bytes)
deriving DecidableEq, Repr

def Session.init : Session := ⟨.unknown, [], [], [], []⟩

/-- The modem holds the certificate. -/
def Session.Has (g : Session) (name : Text) : Prop :=
  contains name g.listed = true ∨ name ∈ g.stored

/-- No session is open, or nothing is known of one yet. -/
def Phase.Apart (phase : Phase) : Prop := phase = .unknown ∨ phase = .closed

/-- What may be stored as a certificate. -/
def Storable (data : Bytes) : Prop := data ≠ [] ∧ data.length ≤ 10240

instance (data : Bytes) : Decidable (Storable data) := inferInstanceAs (Decidable (_ ∧ _))

/-- The request is due. Only the cleanup may begin at any time, and behind a failure
nothing else may. -/
def Session.Legal (names : List Text) (g : Session) : Request → Prop
  | .disconnect => True
  | .release => g.phase = .disconnected
  | .stop => g.phase = .released
  | .listCertificates => g.phase.Apart
  | .storeCertificate name data =>
      g.phase.Apart ∧ Storable data ∧ ¬ g.Has name
  | .setTls | .start => g.phase = .closed ∧ ∀ name ∈ names, g.Has name
  | .acquire => g.phase = .started
  | .bindTls => g.phase = .acquired
  | .connect => g.phase = .secured
  | .nameTopic _ => g.phase = .connected
  | .subscribe => ∃ topic, g.phase = .named topic
  | .setTopic _ => g.phase = .subscribed
  | .setPayload _ => ∃ topic, g.phase = .topicSet topic
  | .publish => ∃ topic payload, g.phase = .payloadSet topic payload

/-- The session behind a failure. -/
def Session.broken (g : Session) : Session := { g with phase := .failed }

/-- The session behind a result, if that is a success. -/
def Session.reported (g : Session) (marker : String) (text : Text) (g' : Session) : Session :=
  match requireResult text marker.toList with
  | .ok () => g'
  | .error _ => g.broken

/-- The session behind a request that was answered, or raised. The commands of the cleanup
count as done either way. -/
def Session.answered (g : Session) : Request → Except PyError Text → Session
  | .disconnect, _ => { g with phase := .disconnected }
  | .release, _ => { g with phase := .released }
  | .stop, _ => { g with phase := .closed }
  | _, .error _ => g.broken
  | .listCertificates, .ok text => { g with listed := text, stored := [] }
  | .storeCertificate name _, .ok _ => { g with stored := name :: g.stored }
  | .setTls, .ok _ => g
  | .start, .ok text => g.reported "+CMQTTSTART:" text { g with phase := .started }
  | .acquire, .ok _ => { g with phase := .acquired }
  | .bindTls, .ok _ => { g with phase := .secured }
  | .connect, .ok text => g.reported "+CMQTTCONNECT:" text { g with phase := .connected }
  | .nameTopic topic, .ok _ => { g with phase := .named topic }
  | .subscribe, .ok text =>
      match g.phase with
      | .named topic => g.reported "+CMQTTSUB:" text
          { g with phase := .subscribed, subscription := topic }
      | _ => g.broken
  | .setTopic topic, .ok _ => { g with phase := .topicSet topic }
  | .setPayload payload, .ok _ =>
      match g.phase with
      | .topicSet topic => { g with phase := .payloadSet topic payload }
      | _ => g.broken
  | .publish, .ok text =>
      match g.phase with
      | .payloadSet topic payload => g.reported "+CMQTTPUB:" text
          { g with phase := .subscribed, delivered := g.delivered ++ [(topic, payload)] }
      | _ => g.broken

/-- The names of the certificates that a session needs. -/
def certificateNames (broker : Broker) : List Text :=
  (certificateFiles broker).map fun file => file.1.toList

/-- The exchange asks for what is due. The files are those of the certificates. -/
def Session.Allows (broker : Broker) (g : Session) : Exchange → Prop
  | .readFile _ => g.phase.Apart
  | exchange => ∃ request, exchange.request? = some request ∧
      g.Legal (certificateNames broker) request

/-- The session behind a file, which may be of no use. -/
def Session.read (g : Session) : Except PyError Bytes → Session
  | .ok data => if Storable data then g else g.broken
  | .error _ => g.broken

/-- The session behind an exchange. -/
def Session.next (g : Session) : (exchange : Exchange) → exchange.Answer → Session
  | .readFile _, answer => g.read answer
  | .command line timeoutMs allowError, answer =>
      match (Exchange.command line timeoutMs allowError).request? with
      | some request => g.answered request answer
      | none => g
  | .commandUntil line marker timeoutMs, answer =>
      match (Exchange.commandUntil line marker timeoutMs).request? with
      | some request => g.answered request answer
      | none => g
  | .promptUpload line data timeoutMs, answer =>
      match (Exchange.promptUpload line data timeoutMs).request? with
      | some request => g.answered request answer
      | none => g

/-- Behind a failure only the first command of the cleanup is due. -/
theorem Session.Allows.of_failed {broker : Broker} {g : Session} {exchange : Exchange}
    (allowed : g.Allows broker exchange) (failed : g.phase = .failed) :
    exchange.request? = some .disconnect := by
  have unapart : ¬ g.phase.Apart := by
    rw [failed]
    exact fun apart => apart.elim nofun nofun
  have legal {request : Request} (legal : g.Legal (certificateNames broker) request) :
      request = .disconnect := by
    cases request with
    | disconnect => rfl
    | listCertificates => exact absurd legal unapart
    | storeCertificate name data => exact absurd legal.1 unapart
    | setTls | start => exact absurd (failed.symm.trans legal.1) (by simp)
    | release | stop | acquire | bindTls | connect | nameTopic | setTopic =>
        exact absurd (failed.symm.trans legal) (by simp)
    | subscribe | setPayload =>
        obtain ⟨topic, phase⟩ := legal
        exact absurd (failed.symm.trans phase) (by simp)
    | publish =>
        obtain ⟨topic, payload, phase⟩ := legal
        exact absurd (failed.symm.trans phase) (by simp)
  cases exchange with
  | readFile path => exact absurd allowed unapart
  | command _ _ _ | commandUntil _ _ _ | promptUpload _ _ _ =>
      obtain ⟨request, reads, isLegal⟩ := allowed
      rw [reads, legal isLegal]

/-- Each exchange is due, and no publication has been delivered but these. The modem
answers what it likes. -/
def sessionWatch (broker : Broker) (delivered : List (Bytes × Bytes)) :
    Watch Exchange Exchange.Answer Session where
  allows g exchange := g.Allows broker exchange ∧ g.delivered = delivered
  gives _ _ _ := True
  next := Session.next

/-! ### What the modem reads -/

theorem atName_eq {line : String} (name rest : Text) (plain : '=' ∉ name)
    (shape : line.toList = name ++ '=' :: rest) : atName line = name := by
  unfold atName
  rw [shape, List.takeWhile_append_of_pos]
  · simp
  · intro c mem
    simpa using fun same : c = '=' => plain (same ▸ mem)

theorem parameters_eq {line : String} {name rest : Text} (plain : '=' ∉ name)
    (shape : line.toList = name ++ '=' :: rest) :
    line.toList.dropWhile (· ≠ '=') = '=' :: rest := by
  rw [shape, List.dropWhile_append_of_pos]
  · simp
  · intro c mem
    simpa using fun same : c = '=' => plain (same ▸ mem)

/-- The size stands behind the first comma. -/
theorem announced_eq {line : String} {name lead rest : Text} {size : Nat} (plain : '=' ∉ name)
    (noComma : ',' ∉ lead) (ends : rest = [] ∨ ∃ more, rest = ',' :: more)
    (shape : line.toList = name ++ '=' :: (lead ++ ',' :: (Nat.toDigits 10 size ++ rest))) :
    announced line = some (size : Int) := by
  have digits : ',' ∉ Nat.toDigits 10 size := fun mem =>
    absurd (Nat.isDigit_of_mem_toDigits (by decide) (by decide) mem) (by decide)
  have first : ',' ∉ '=' :: lead := by simpa using noComma
  have fields : ∃ more,
      (Nat.toDigits 10 size ++ rest).splitOn ',' = Nat.toDigits 10 size :: more := by
    rcases ends with rfl | ⟨more, rfl⟩
    · exact ⟨[], by rw [List.append_nil, List.splitOn_eq_singleton digits]⟩
    · exact ⟨_, List.splitOn_append_cons_self_of_not_mem digits more⟩
  obtain ⟨more, fields⟩ := fields
  unfold announced
  rw [parameters_eq plain shape, ← List.cons_append,
    List.splitOn_append_cons_self_of_not_mem first, fields]
  exact intOf_toDigits size

/-- An upload is read as its command says, if the announced size is that of the data. -/
theorem request?_upload {line : String} {data : Bytes} (name lead rest : Text)
    (timeoutMs : Nat) (plain : '=' ∉ name) (noComma : ',' ∉ lead)
    (ends : rest = [] ∨ ∃ more, rest = ',' :: more)
    (shape : line.toList = name ++ '=' :: (lead ++ ',' :: (Nat.toDigits 10 data.length ++ rest))) :
    (Exchange.promptUpload line data timeoutMs).request? =
      (uploadRequests line data).lookup name := by
  simp only [Exchange.request?]
  rw [if_pos (announced_eq plain noComma ends shape), atName_eq name _ plain shape]

/-- A name that can stand in quotes as a parameter. -/
structure PlainName (name : String) : Prop where
  noQuote : '"' ∉ name.toList
  noComma : ',' ∉ name.toList

theorem request?_storeCertificate {name : String} (plain : PlainName name) (data : Bytes) :
    (Exchange.promptUpload ("AT+CCERTDOWN=\"" ++ name ++ "\"," ++ toString data.length) data
      120000).request? = some (.storeCertificate name.toList data) := by
  set line := "AT+CCERTDOWN=\"" ++ name ++ "\"," ++ toString data.length
  have shape : line.toList = "AT+CCERTDOWN".toList ++
      '=' :: (('"' :: name.toList ++ ['"']) ++ ',' :: (Nat.toDigits 10 data.length ++ [])) := by
    simp [line]
  have quoted : quotedName line = name.toList := by
    have lead : line.toList = "AT+CCERTDOWN=".toList ++
        '"' :: (name.toList ++ '"' :: ',' :: Nat.toDigits 10 data.length) := by simp [line]
    unfold quotedName
    rw [lead, afterFirst_append (by decide), Option.getD_some, List.takeWhile_append_of_pos]
    · simp
    · intro c mem
      simpa using fun same : c = '"' => plain.noQuote (same ▸ mem)
  rw [request?_upload _ _ [] 120000 (by decide) (by simpa using plain.noComma) (.inl rfl) shape]
  simp only [uploadRequests, quoted]
  rfl

/-! ### Each exchange -/

section Exchanges

variable {broker : Broker} {delivered : List (Bytes × Bytes)} {g : Session} {request : Request}
  {raised : PyError → Session → Prop}

theorem secures_command {line : String} {timeoutMs : Nat} {allowError : Bool}
    {post : Text → Session → Prop}
    (reads : (Exchange.command line timeoutMs allowError).request? = some request)
    (legal : g.Legal (certificateNames broker) request) (same : g.delivered = delivered)
    (returns : ∀ text, post text (g.answered request (.ok text)))
    (raises : ∀ exc, raised exc (g.answered request (.error exc))) :
    Secures (sessionWatch broker delivered) (command line timeoutMs allowError) post raised g := by
  refine ⟨⟨⟨request, reads, legal⟩, same⟩, fun answer _ => ?_⟩
  have next : g.next (.command line timeoutMs allowError) answer = g.answered request answer := by
    simp only [Session.next, reads]
  change Outcomes post raised answer (g.next _ answer)
  rw [next]
  cases answer with
  | ok text => exact returns text
  | error exc => exact raises exc

theorem secures_promptUpload {line : String} {data : Bytes} {timeoutMs : Nat}
    {post : Text → Session → Prop}
    (reads : (Exchange.promptUpload line data timeoutMs).request? = some request)
    (legal : g.Legal (certificateNames broker) request) (same : g.delivered = delivered)
    (returns : ∀ text, post text (g.answered request (.ok text)))
    (raises : ∀ exc, raised exc (g.answered request (.error exc))) :
    Secures (sessionWatch broker delivered) (promptUpload line data timeoutMs) post raised g := by
  refine ⟨⟨⟨request, reads, legal⟩, same⟩, fun answer _ => ?_⟩
  have next : g.next (.promptUpload line data timeoutMs) answer = g.answered request answer := by
    simp only [Session.next, reads]
  change Outcomes post raised answer (g.next _ answer)
  rw [next]
  cases answer with
  | ok text => exact returns text
  | error exc => exact raises exc

/-- A request with a result is done if the result is a success. -/
theorem secures_commandResult {line marker : String} {timeoutMs : Nat} {g' : Session}
    {post : Unit → Session → Prop}
    (reads : (Exchange.commandUntil line marker timeoutMs).request? = some request)
    (legal : g.Legal (certificateNames broker) request) (same : g.delivered = delivered)
    (reports : ∀ text, g.answered request (.ok text) = g.reported marker text g')
    (breaks : ∀ exc, g.answered request (.error exc) = g.broken)
    (returns : post () g') (raises : ∀ exc, raised exc g.broken) :
    Secures (sessionWatch broker delivered) (commandResult line marker timeoutMs) post raised
      g := by
  refine secures_bind_iff.mpr ⟨⟨⟨request, reads, legal⟩, same⟩, fun answer _ => ?_⟩
  have next : g.next (.commandUntil line marker timeoutMs) answer =
      g.answered request answer := by
    simp only [Session.next, reads]
  change Outcomes _ raised answer (g.next _ answer)
  rw [next]
  cases answer with
  | error exc =>
      rw [breaks]
      exact raises exc
  | ok text =>
      rw [reports]
      unfold Session.reported
      change Outcomes post raised (requireResult text marker.toList) _
      cases requireResult text marker.toList with
      | ok done => exact returns
      | error exc => exact raises exc

theorem secures_readFile {path : String} {post : Bytes → Session → Prop}
    (apart : g.phase.Apart) (same : g.delivered = delivered)
    (returns : ∀ data, post data (g.read (.ok data))) (raises : ∀ exc, raised exc g.broken) :
    Secures (sessionWatch broker delivered) (readFile path) post raised g := by
  refine ⟨⟨apart, same⟩, fun answer _ => ?_⟩
  change Except PyError Bytes at answer
  cases answer with
  | ok data => exact returns data
  | error exc => exact raises exc

end Exchanges

/-! ### Certificates -/

section Programs

variable {cfg : Config} {broker : Broker} {delivered : List (Bytes × Bytes)} {g : Session}

/-- What holds behind a program that raised: it has delivered nothing, and a cleanup is due. -/
def Undelivered (delivered : List (Bytes × Bytes)) (_ : PyError) (g : Session) : Prop :=
  g.phase = .failed ∧ g.delivered = delivered

/-- The certificates are installed, and nothing else changed. -/
structure Installs (names : List Text) (g g' : Session) : Prop where
  phase : g'.phase = g.phase
  delivered : g'.delivered = g.delivered
  kept : ∀ name, g.Has name → g'.Has name
  installed : ∀ name ∈ names, g'.Has name

def namesOf (files : List (String × String)) : List Text := files.map fun file => file.1.toList

/-- **Each file is on the list, or is stored**, and none that is there is stored again. -/
theorem secures_installMissing (files : List (String × String)) {g : Session}
    (plain : ∀ file ∈ files, PlainName file.1) (distinct : (namesOf files).Nodup)
    (fresh : ∀ name ∈ namesOf files, name ∉ g.stored) (apart : g.phase.Apart)
    (same : g.delivered = delivered) :
    Secures (sessionWatch broker delivered) (installMissing g.listed files)
      (fun _ g' => Installs (namesOf files) g g') (Undelivered delivered) g := by
  induction files generalizing g with
  | nil => exact ⟨rfl, rfl, fun _ has => has, by simp [namesOf]⟩
  | cons file files ih =>
      obtain ⟨remoteName, localPath⟩ := file
      obtain ⟨new, distinct⟩ := List.nodup_cons.mp distinct
      have plain' := fun other mem => plain other (List.mem_cons_of_mem _ mem)
      have fresh' := fun name mem => fresh name (List.mem_cons_of_mem _ mem)
      unfold installMissing
      split
      · rename_i listed
        refine (ih plain' distinct fresh' apart same).mono (fun _ g' installs => ?_)
          fun _ _ kept => kept
        refine ⟨installs.phase, installs.delivered, installs.kept, fun name mem => ?_⟩
        rcases List.mem_cons.mp mem with rfl | mem
        · exact installs.kept _ (.inl listed)
        · exact installs.installed name mem
      · rename_i unlisted
        refine secures_bind_iff.mpr (secures_readFile apart same (fun data => ?_)
          fun exc => ⟨rfl, same⟩)
        have storable : Storable data ↔ ¬ (data = [] ∨ 10240 < data.length) := by
          rw [Storable, not_or, not_lt]
        by_cases unfit : data = [] ∨ 10240 < data.length
        · have broken : g.read (.ok data) = g.broken := if_neg fun fit => storable.mp fit unfit
          rw [if_pos unfit, broken]
          exact ⟨rfl, same⟩
        · have fit := storable.mpr unfit
          have kept : g.read (.ok data) = g := if_pos fit
          rw [if_neg unfit, kept]
          have lacks : ¬ g.Has remoteName.toList :=
            not_or.mpr ⟨unlisted, fresh _ List.mem_cons_self⟩
          refine secures_bind_iff.mpr (secures_promptUpload
            (request?_storeCertificate (plain _ List.mem_cons_self) data)
            ⟨apart, fit, lacks⟩ same (fun text => ?_) fun exc => ⟨rfl, same⟩)
          set stored := g.answered (.storeCertificate remoteName.toList data) (.ok text)
          have fresh'' : ∀ name ∈ namesOf files, name ∉ stored.stored := by
            intro name mem
            have other : name ≠ remoteName.toList := by
              rintro rfl
              exact new mem
            exact List.not_mem_cons_of_ne_of_not_mem other (fresh' name mem)
          refine (ih (g := stored) plain' distinct fresh'' apart same).mono
            (fun _ g' installs => ?_) fun _ _ kept => kept
          have kept : ∀ name, g.Has name → g'.Has name := fun name has =>
            installs.kept name (has.imp_right (List.mem_cons_of_mem _))
          refine ⟨installs.phase, installs.delivered, kept, fun name mem => ?_⟩
          rcases List.mem_cons.mp mem with rfl | mem
          · exact installs.kept _ (.inr List.mem_cons_self)
          · exact installs.installed name mem

theorem certificateFiles_plain (broker : Broker) : ∀ file ∈ certificateFiles broker,
    PlainName file.1 := by
  simp only [certificateFiles, List.forall_mem_cons]
  exact ⟨⟨by decide, by decide⟩, ⟨by decide, by decide⟩, ⟨by decide, by decide⟩, by simp⟩

theorem certificateNames_nodup (broker : Broker) : (namesOf (certificateFiles broker)).Nodup := by
  simp only [namesOf, certificateFiles, List.map_cons, List.map_nil]
  decide

theorem secures_provisionCertificates (apart : g.phase.Apart) (same : g.delivered = delivered) :
    Secures (sessionWatch broker delivered) (provisionCertificates broker)
      (fun _ g' => g'.phase = g.phase ∧ g'.delivered = delivered ∧
        ∀ name ∈ certificateNames broker, g'.Has name)
      (Undelivered delivered) g := by
  refine secures_bind_iff.mpr (secures_command rfl apart same (fun text => ?_)
    fun exc => ⟨rfl, same⟩)
  set listed := g.answered .listCertificates (.ok text)
  have none : ∀ name ∈ namesOf (certificateFiles broker), name ∉ listed.stored :=
    fun name _ => List.not_mem_nil
  refine (secures_installMissing (g := listed) (certificateFiles broker)
    (certificateFiles_plain broker) (certificateNames_nodup broker) none apart same).mono
    (fun _ g' installs => ?_) fun _ _ kept => kept
  exact ⟨installs.phase, installs.delivered.trans same, installs.installed⟩

/-! ### Cleanup -/

theorem secures_attempt {line : String} {request : Request} {g' : Session}
    {post : Unit → Session → Prop} {raised : PyError → Session → Prop}
    (reads : (Exchange.command line 5000 true).request? = some request)
    (legal : g.Legal (certificateNames broker) request) (same : g.delivered = delivered)
    (either : ∀ answer, g.answered request answer = g') (returns : post () g') :
    Secures (sessionWatch broker delivered) (attempt line) post raised g := by
  refine secures_tryCatch_iff.mpr (secures_bind_iff.mpr (secures_command reads legal same ?_ ?_))
  · intro text
    rw [either]
    exact returns
  · intro exc
    rw [either]
    exact returns

/-- **The cleanup raises nothing**, and closes whatever session there was. -/
theorem secures_cleanup (same : g.delivered = delivered) :
    Secures (sessionWatch broker delivered) cleanup (fun _ g' => g' = { g with phase := .closed })
      (fun _ _ => False) g := by
  refine secures_bind_iff.mpr (secures_attempt rfl trivial same (fun _ => rfl) ?_)
  refine secures_bind_iff.mpr (secures_attempt rfl rfl same (fun _ => rfl) ?_)
  exact secures_attempt rfl rfl same (fun _ => rfl) rfl

/-! ### Connecting -/

theorem secures_plainCommand {line : String} {request : Request} {post : Unit → Session → Prop}
    {raised : PyError → Session → Prop}
    (reads : (Exchange.command line broker.commandTimeoutMs false).request? = some request)
    (legal : g.Legal (certificateNames broker) request) (same : g.delivered = delivered)
    (returns : ∀ text, post () (g.answered request (.ok text)))
    (raises : ∀ exc, raised exc (g.answered request (.error exc))) :
    Secures (sessionWatch broker delivered) (plainCommand broker line) post raised g :=
  secures_bind_iff.mpr (secures_command reads legal same returns raises)

theorem secures_tls (lines : List String)
    (reads : ∀ line ∈ lines,
      (Exchange.command line broker.commandTimeoutMs false).request? = some .setTls)
    (legal : g.Legal (certificateNames broker) .setTls) (same : g.delivered = delivered) :
    Secures (sessionWatch broker delivered) (plainCommands broker lines) (fun _ g' => g' = g)
      (Undelivered delivered) g := by
  induction lines with
  | nil => exact rfl
  | cons line lines ih =>
      refine secures_bind_iff.mpr (secures_plainCommand (reads line List.mem_cons_self) legal same
        (fun text => ?_) fun exc => ⟨rfl, same⟩)
      exact ih fun other mem => reads other (List.mem_cons_of_mem _ mem)

theorem request?_acquire (clientId : String) (timeoutMs : Nat) :
    (Exchange.command ("AT+CMQTTACCQ=0,\"" ++ clientId ++ "\",1") timeoutMs false).request? =
      some .acquire := by
  simp only [Exchange.request?]
  rw [atName_eq "AT+CMQTTACCQ".toList ("0,\"".toList ++ clientId.toList ++ "\",1".toList)
    (by decide) (by simp)]
  rfl

theorem request?_connect (broker : Broker) :
    (Exchange.commandUntil ("AT+CMQTTCONNECT=0,\"tcp://" ++ broker.host ++ ":" ++
      toString broker.port ++ "\"," ++ toString broker.keepaliveSeconds ++ ",1") "+CMQTTCONNECT:"
      90000).request? = some .connect := by
  simp only [Exchange.request?]
  rw [atName_eq "AT+CMQTTCONNECT".toList ("0,\"tcp://".toList ++ broker.host.toList ++
    ":".toList ++ Nat.toDigits 10 broker.port ++ "\",".toList ++
    Nat.toDigits 10 broker.keepaliveSeconds ++ ",1".toList) (by decide) (by simp)]
  rfl

/-- **`_connect` up to `CONNECTING`** leaves a session that is acquired and secured, with
all certificates installed before it is started. -/
theorem secures_provision (apart : g.phase.Apart) (same : g.delivered = delivered) :
    Secures (sessionWatch broker delivered) (provision cfg broker)
      (fun _ g' => g'.phase = .secured ∧ g'.delivered = delivered) (Undelivered delivered) g := by
  refine secures_bind_iff.mpr
    ((secures_provisionCertificates apart same).mono ?_ fun _ _ kept => kept)
  rintro - installed ⟨-, same, has⟩
  refine secures_bind_iff.mpr ((secures_cleanup same).mono ?_ fun _ _ no => no.elim)
  rintro - g' rfl
  set closed := { installed with phase := .closed }
  refine secures_bind_iff.mpr
    ((secures_tls (g := closed) tlsLines ?_ ⟨rfl, has⟩ same).mono ?_ fun _ _ kept => kept)
  · simp only [tlsLines, List.forall_mem_cons]
    exact ⟨rfl, rfl, rfl, rfl, rfl, rfl, by simp⟩
  · rintro - g' rfl
    refine secures_bind_iff.mpr (secures_commandResult rfl ⟨rfl, has⟩ same (fun _ => rfl)
      (fun _ => rfl) ?_ fun exc => ⟨rfl, same⟩)
    refine secures_bind_iff.mpr (secures_plainCommand (request?_acquire _ _) rfl same
      (fun text => ?_) fun exc => ⟨rfl, same⟩)
    exact secures_plainCommand rfl rfl same (fun text => ⟨rfl, same⟩) fun exc => ⟨rfl, same⟩

/-- **`_connect` from `CONNECTING` on** leaves a session that is subscribed to the topic of
the commands. -/
theorem secures_openSession (secured : g.phase = .secured) (same : g.delivered = delivered) :
    Secures (sessionWatch broker delivered) (openSession cfg broker)
      (fun _ g' => g'.phase = .subscribed ∧ g'.subscription = encoded cfg.commandTopic ∧
        g'.delivered = delivered)
      (Undelivered delivered) g := by
  have named : (Exchange.promptUpload
      ("AT+CMQTTSUBTOPIC=0," ++ toString (encoded cfg.commandTopic).length ++ ",1")
      (encoded cfg.commandTopic) 10000).request? = some (.nameTopic (encoded cfg.commandTopic)) :=
    request?_upload "AT+CMQTTSUBTOPIC".toList ['0'] ",1".toList 10000 (by decide) (by decide)
      (.inr ⟨_, rfl⟩) (by simp)
  refine secures_bind_iff.mpr (secures_commandResult (request?_connect broker) secured same
    (fun _ => rfl) (fun _ => rfl) ?_ fun exc => ⟨rfl, same⟩)
  refine secures_bind_iff.mpr (secures_promptUpload named rfl same (fun text => ?_)
    fun exc => ⟨rfl, same⟩)
  exact secures_commandResult rfl ⟨_, rfl⟩ same (fun _ => rfl) (fun _ => rfl) ⟨rfl, rfl, same⟩
    fun exc => ⟨rfl, same⟩

/-! ### Publishing -/

/-- **A `_publish` that returns has delivered its topic and its payload**, and one that
raises has delivered nothing, as far as the modem has reported. -/
theorem secures_publish {topic payload : String} (subscribed : g.phase = .subscribed)
    (same : g.delivered = delivered) :
    Secures (sessionWatch broker delivered) (publish topic payload)
      (fun _ g' => g'.phase = .subscribed ∧ g'.subscription = g.subscription ∧
        g'.delivered = delivered ++ [(encoded topic, encoded payload)])
      (Undelivered delivered) g := by
  have setsTopic : (Exchange.promptUpload ("AT+CMQTTTOPIC=0," ++ toString (encoded topic).length)
      (encoded topic) 10000).request? = some (.setTopic (encoded topic)) :=
    request?_upload "AT+CMQTTTOPIC".toList ['0'] [] 10000 (by decide) (by decide) (.inl rfl)
      (by simp)
  have setsPayload : (Exchange.promptUpload
      ("AT+CMQTTPAYLOAD=0," ++ toString (encoded payload).length) (encoded payload)
      30000).request? = some (.setPayload (encoded payload)) :=
    request?_upload "AT+CMQTTPAYLOAD".toList ['0'] [] 30000 (by decide) (by decide) (.inl rfl)
      (by simp)
  refine secures_bind_iff.mpr (secures_promptUpload setsTopic subscribed same (fun text => ?_)
    fun exc => ⟨rfl, same⟩)
  refine secures_bind_iff.mpr (secures_promptUpload setsPayload ⟨_, rfl⟩ same (fun text => ?_)
    fun exc => ⟨rfl, same⟩)
  exact secures_commandResult rfl ⟨_, _, rfl⟩ same (fun _ => rfl) (fun _ => rfl)
    ⟨rfl, rfl, same ▸ rfl⟩ fun exc => ⟨rfl, same⟩

end Programs

end EdgeGateway.Mqtt
