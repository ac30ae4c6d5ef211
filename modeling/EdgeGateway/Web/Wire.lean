import EdgeGateway.Lib.Http
import EdgeGateway.Lib.Watch
import EdgeGateway.Web.Response

/-!
What a client reads from a connection.

`Wire` follows a handler: the request, the bytes that went out, and whether the gateway
was reset. Each coroutine of the server has one lemma about it, under any answers and
under steady ones: nothing raises behind headers, and a file has the size that `stat`
said.

* `one_response`: on a steady connection the client reads nothing, or one whole
  response of the server's table, with as many bytes as its `Content-Length` says.
* `reset_behind_response`: whatever is answered, the gateway is reset at most once, for
  `POST /api/restart` only, and when the whole `202` has been written and drained.
-/

namespace EdgeGateway.Web

open EdgeGateway.Lib

/-! ### The wire -/

/-- The bytes of the connection so far. -/
def written (events : Events) : Bytes :=
  events.flatMap fun
    | ⟨.write piece, .ok _⟩ => piece.bytes
    | _ => []

structure Wire where
  /-- what `read` returned -/
  request : Bytes
  out : Bytes
  /-- headers have gone out -/
  begun : Bool
  /-- a drain returned behind the last write -/
  drained : Bool
  /-- what `stat` said -/
  size : Nat
  reset : Bool
deriving DecidableEq, Repr

def Wire.start : Wire := ⟨[], [], false, false, 0, false⟩

def Wire.next (g : Wire) : (op : Op) → Ans op → Wire
  | .read _, .ok bytes => { g with request := bytes }
  | .write (.headers status contentType length), .ok _ =>
      { g with
        out := g.out ++ (Piece.headers status contentType length).bytes
        begun := true
        drained := false }
  | .write (.body data), .ok _ => { g with out := g.out ++ data, drained := false }
  | .drain, .ok _ => { g with drained := true }
  | .stat _, .ok size => { g with size := size }
  | .reset, _ => { g with reset := true }
  | _, _ => g

/-- The bytes that the loop of `_file` writes. -/
def fileBytes (chunks : List Bytes) : Bytes := (chunks.takeWhile (· ≠ [])).flatten

/-- A file has the size that `stat` said. -/
def Wire.keepsSize (g : Wire) : (op : Op) → Ans op → Bool
  | .openFile _, .ok chunks => (fileBytes chunks).length = g.size
  | _, _ => true

/-- Nothing raises behind headers, and files keep their size. -/
def Wire.Steady (g : Wire) (op : Op) (answer : Ans op) : Prop :=
  (g.begun = true → raised ⟨op, answer⟩ = none) ∧ g.keepsSize op answer = true

/-- The client does not leave: no write raises, and no cancellation is raised. -/
def stays : Event Op Ans → Bool
  | ⟨.write _, .error _⟩ => false
  | ev => (raised ev).all fun exc => !exc.cancelled

/-! ### Responses -/

/-- What the server sends, with this body. -/
def responseOf (status : Nat) (contentType : String) (length : Nat) (body : Bytes) :
    Http.Response where
  status := status
  reason := (reasonOf status).toList
  fields := [("Content-Type".toList, contentType.toList),
    (Http.contentLength, Nat.toDigits 10 length), ("Cache-Control".toList, "no-cache".toList),
    ("Connection".toList, "close".toList)]
  body := body

/-- The answer of `_json`. -/
def jsonResponse (codec : Mqtt.Codec) (status : Nat) (value : Json) : Http.Response :=
  let body := Utf8.encode (codec.dumps value).toList
  responseOf status "application/json" body.length body

/-- The answer to `/api/restart`. -/
def accepted (codec : Mqtt.Codec) : Http.Response :=
  jsonResponse codec 202 (.dict [("status", .str "restarting")])

/-- A type of the server's table, or the one of `_json`. -/
def contentTypes : List String :=
  ["text/html; charset=utf-8", "text/css", "application/javascript", "image/svg+xml",
    "application/octet-stream", "application/json"]

theorem contentTypeOf_mem (ext : Text) : contentTypeOf ext ∈ contentTypes := by
  unfold contentTypeOf
  split_ifs <;> simp [contentTypes]

theorem reasonOf_noReturn (status : Nat) : '\r' ∉ (reasonOf status).toList := by
  unfold reasonOf
  split <;> decide

theorem contentTypes_plain : ∀ contentType ∈ contentTypes,
    '\r' ∉ contentType.toList ∧ contentType.toList.head? ≠ some ' ' := by decide

theorem framed_responseOf {contentType : String} (listed : contentType ∈ contentTypes)
    (status : Nat) (body : Bytes) : (responseOf status contentType body.length body).Framed := by
  obtain ⟨noReturn, solid⟩ := contentTypes_plain contentType listed
  have digits : ∀ c ∈ Nat.toDigits 10 body.length, c.isDigit = true := fun c mem =>
    Nat.isDigit_of_mem_toDigits (by decide) (by decide) mem
  have length : (Nat.toDigits 10 body.length).head? ≠ some ' ' := by
    intro space
    exact absurd (digits ' ' (List.mem_of_mem_head? space)) (by decide)
  refine ⟨reasonOf_noReturn status, ?_, ?_, rfl⟩
  · unfold responseOf
    simp only [List.forall_mem_cons, List.not_mem_nil, false_implies, implies_true, and_true]
    decide
  · have fixed : ('\r' ∉ "no-cache".toList ∧ "no-cache".toList.head? ≠ some ' ') ∧
        '\r' ∉ "close".toList ∧ "close".toList.head? ≠ some ' ' := by decide
    unfold responseOf
    simp only [List.forall_mem_cons, List.not_mem_nil, false_implies, implies_true, and_true]
    exact ⟨⟨noReturn, solid⟩, ⟨not_mem_toDigits rfl _, length⟩, fixed⟩

/-- The headers are those of the response. -/
theorem bytes_headers (status : Nat) (contentType : String) (length : Nat) (body : Bytes) :
    (Piece.headers status contentType length).bytes ++ body =
      (responseOf status contentType length body).bytes := by
  have version : "HTTP/1.1 ".toList = Http.version ++ [' '] := by decide
  have kind : "\r\nContent-Type: ".toList = Http.crlf ++ ("Content-Type".toList ++ [':', ' ']) := by
    decide
  have size : "\r\nContent-Length: ".toList = Http.crlf ++ (Http.contentLength ++ [':', ' ']) := by
    decide
  have rest : "\r\nCache-Control: no-cache\r\nConnection: close\r\n\r\n".toList =
      Http.crlf ++ (Http.fieldLine ("Cache-Control".toList, "no-cache".toList) ++ (Http.crlf ++
        (Http.fieldLine ("Connection".toList, "close".toList) ++ (Http.crlf ++ Http.crlf)))) := by
    decide
  unfold Piece.bytes Http.Response.bytes Http.Response.head Http.Response.lines
    Http.Response.statusLine responseOf
  simp only [String.toList_append, version, kind, size, rest]
  congr 2
  simp [Http.fieldLine]

/-! ### The watch -/

/-- The request line asks for `POST /api/restart`. -/
def AsksRestart (request : Bytes) : Prop :=
  ∃ rest, Utf8.decode? (firstLine request) = some ("POST /api/restart".toList ++ rest) ∧
    ∀ c ∈ rest.head?, c = ' ' ∨ c = '?'

/-- The gateway may be reset. -/
structure Wire.Due (codec : Mqtt.Codec) (g : Wire) : Prop where
  asked : AsksRestart g.request
  answered : g.out = (accepted codec).bytes
  drained : g.drained = true
  once : g.reset = false

/-- The wire of a connection, which is steady or is not, and whose client stays or
does not. -/
def wire (codec : Mqtt.Codec) (steady kept : Prop) : Watch Op Ans Wire where
  allows g op := op = .reset → g.Due codec
  gives g op answer := (steady → g.Steady op answer) ∧ (kept → stays ⟨op, answer⟩ = true)
  next := Wire.next

/-- Nothing has gone out. -/
structure Wire.Fresh (g : Wire) : Prop where
  out : g.out = []
  begun : g.begun = false

/-- One response has gone out. -/
def Wire.Complete (g : Wire) : Prop := ∃ r : Http.Response, r.Framed ∧ g.out = r.bytes

/-- These bytes went out, the last of them behind headers. -/
def Wire.sent (g : Wire) (bytes : Bytes) : Wire :=
  { g with out := g.out ++ bytes, begun := true, drained := true }

theorem Wire.sent_sent (g : Wire) (first second : Bytes) :
    (g.sent first).sent second = g.sent (first ++ second) := by
  unfold sent
  rw [List.append_assoc]

/-- A file goes out behind its headers. -/
structure Wire.Streaming (g : Wire) : Prop where
  begun : g.begun = true
  drained : g.drained = true

/-- One chunk of a file. -/
def Wire.streamed (g : Wire) (chunk : Bytes) : Wire :=
  { g with out := g.out ++ chunk, drained := true }

theorem Wire.Streaming.streamed_eq {g : Wire} (streaming : g.Streaming) (chunk : Bytes) :
    g.streamed chunk = g.sent chunk := by
  unfold Wire.streamed Wire.sent
  rw [streaming.begun]

theorem Wire.Streaming.sent_nil {g : Wire} (streaming : g.Streaming) : g.sent [] = g := by
  obtain ⟨request, out, begun, drained, size, reset⟩ := g
  obtain ⟨rfl, rfl⟩ := streaming
  simp [Wire.sent]

/-- The wire does not notice the operation. -/
def Op.Silent : Op → Prop
  | .read _ | .write _ | .drain | .stat _ | .reset => False
  | _ => True

theorem Wire.next_silent {op : Op} (silent : op.Silent) (g : Wire) (answer : Ans op) :
    g.next op answer = g := by
  cases op with
  | read | write | drain | stat | reset => exact silent.elim
  | _ => rfl

section Wire

variable {codec : Mqtt.Codec} {steady kept : Prop} {g : Wire}

theorem ensures_silent {α : Type} {p : Prog Op Ans α} (silent : p.Only Op.Silent) :
    p.Ensures (wire codec steady kept) (fun _ g' => g' = g) g :=
  silent.ensures (fun _ silent reset => (reset ▸ silent).elim)
    fun _ silent => g.next_silent silent

/-- An operation that raises nothing. -/
theorem secures_call {α : Type} {op : Op} {f : Ans op → Handler α} {post : α → Wire → Prop}
    {raised : Exc → Wire → Prop} (silent : op.Silent)
    (rest : ∀ answer, Secures (wire codec steady kept) (f answer) post raised g) :
    Secures (wire codec steady kept) (ExceptT.lift (call op) >>= f) post raised g := by
  refine secures_bind_iff.mpr (secures_lift_iff.mpr ⟨?_, fun answer _ => ?_⟩)
  · rintro rfl
    exact silent.elim
  · change Secures _ (f answer) post raised (g.next op answer)
    rw [g.next_silent silent]
    exact rest answer

/-! ### Each write -/

/-- Behind headers, a steady connection raises nothing. -/
theorem unbegun {op : Op} {answer : Ans op} {exc : Exc} (failed : raised ⟨op, answer⟩ = some exc)
    (given : (wire codec steady kept).gives g op answer) : steady → g.begun = false := by
  intro holds
  by_contra begun
  have calm := (given.1 holds).1 (by simpa using begun)
  rw [failed] at calm
  cases calm

/-- While the client stays, no cancellation is raised. -/
theorem answered {op : Op} {answer : Ans op} {exc : Exc} (failed : raised ⟨op, answer⟩ = some exc)
    (given : (wire codec steady kept).gives g op answer) : kept → exc.cancelled = false := by
  intro holds
  have stay := given.2 holds
  unfold stays at stay
  split at stay
  · cases stay
  · rw [failed] at stay
    simpa using stay

/-- A steady connection does not come here. -/
theorem not_steady (streaming : steady → g.Streaming) (unbegun : steady → g.begun = false) :
    ¬ steady := by
  intro holds
  have none := unbegun holds
  rw [(streaming holds).begun] at none
  cases none

theorem secures_write {piece : Piece} {post : Unit → Wire → Prop} {raised : Exc → Wire → Prop}
    (returns : post () (g.next (.write piece) (.ok ())))
    (raises : ∀ exc, (steady → g.begun = false) → ¬ kept → raised exc g) :
    Secures (wire codec steady kept) (write piece) post raised g := by
  refine ⟨nofun, fun answer given => ?_⟩
  change Except Exc Unit at answer
  cases answer with
  | ok done => exact returns
  | error exc =>
      have same : g.next (.write piece) (.error exc) = g := by cases piece <;> rfl
      change raised exc (g.next (.write piece) (.error exc))
      rw [same]
      exact raises exc (unbegun rfl given) fun holds => Bool.false_ne_true (given.2 holds)

theorem secures_drain {post : Unit → Wire → Prop} {raised : Exc → Wire → Prop}
    (returns : post () { g with drained := true })
    (raises : ∀ exc, (steady → g.begun = false) → raised exc g) :
    Secures (wire codec steady kept) drain post raised g := by
  refine ⟨nofun, fun answer given => ?_⟩
  change Except Exc Unit at answer
  cases answer with
  | ok done => exact returns
  | error exc => exact raises exc (unbegun rfl given)

/-- What a response leaves behind that raised: on a steady connection, nothing, and the
client has left. -/
def Unsent (steady kept : Prop) (g : Wire) (_ : Exc) (g' : Wire) : Prop :=
  steady → g.begun = false ∧ g' = g ∧ ¬ kept

theorem secures_headers (status : Nat) (contentType : String) (length : Nat) :
    Secures (wire codec steady kept) (headers status contentType length)
      (fun _ g' => g' = g.sent (Piece.headers status contentType length).bytes)
      (Unsent steady kept g) g := by
  refine secures_bind_iff.mpr (secures_write ?_ fun exc unbegun left holds =>
    ⟨unbegun holds, rfl, left⟩)
  refine secures_drain rfl fun exc unbegun holds => ?_
  cases unbegun holds

theorem secures_json (status : Nat) (value : Json) :
    Secures (wire codec steady kept) (json codec status value)
      (fun _ g' => g' = g.sent (jsonResponse codec status value).bytes)
      (Unsent steady kept g) g := by
  set body := Utf8.encode (codec.dumps value).toList with encoded
  refine secures_bind_iff.mpr ((secures_headers status "application/json" body.length).mono ?_
    fun _ _ unsent => unsent)
  rintro - g' rfl
  refine secures_bind_iff.mpr (secures_write ?_ fun exc unbegun _ holds => ?_)
  · refine secures_drain ?_ fun exc unbegun holds => ?_
    · unfold jsonResponse
      rw [← encoded, ← bytes_headers, ← g.sent_sent]
      rfl
    · cases unbegun holds
  · cases unbegun holds

/-! ### Each coroutine -/

/-- Behind a coroutine that returned, one response has gone out. -/
def Responds (steady : Prop) (_ : Unit) (g : Wire) : Prop := steady → g.Complete

/-- Behind one that raised, nothing has, and what it raised is answered while the
client stays. -/
def Abandons (steady kept : Prop) (exc : Exc) (g : Wire) : Prop :=
  steady → g.Fresh ∧ (kept → exc.cancelled = false)

/-- Behind the `try` block and its handlers: the client that stays got a response to
what it sent. -/
def Concludes (steady kept : Prop) (g : Wire) : Prop :=
  steady → g.Complete ∨ g.Fresh ∧ (kept → g.request = [])

theorem complete_json (fresh : g.Fresh) (status : Nat) (value : Json) :
    (g.sent (jsonResponse codec status value).bytes).Complete := by
  have listed : "application/json" ∈ contentTypes := by decide
  refine ⟨jsonResponse codec status value, framed_responseOf listed status _, ?_⟩
  change g.out ++ _ = _
  rw [fresh.out, List.nil_append]

theorem secures_json_fresh (fresh : steady → g.Fresh) (status : Nat) (value : Json) :
    Secures (wire codec steady kept) (json codec status value) (Responds steady)
      (Abandons steady kept) g := by
  refine (secures_json status value).mono ?_ fun _ g' unsent holds => ?_
  · rintro - g' rfl holds
    exact complete_json (fresh holds) status value
  · obtain ⟨-, rfl, left⟩ := unsent holds
    exact ⟨fresh holds, fun kept => absurd kept left⟩

theorem secures_sendPage (fresh : g.Fresh) (page : Page) (value : Json → Json) :
    Secures (wire codec steady kept) (sendPage codec page value) (Responds steady)
      (Abandons steady kept) g := by
  refine secures_bind_iff.mpr ⟨nofun, fun answer given => ?_⟩
  change Except Exc Json at answer
  cases answer with
  | ok built => exact secures_json_fresh (fun _ => fresh) 200 (value built)
  | error exc => exact fun _ => ⟨fresh, answered rfl given⟩

/-- **The loop writes the bytes of the file**, and what has begun raises nothing. -/
theorem secures_stream {chunks : List Bytes} (streaming : steady → g.Streaming) :
    Secures (wire codec steady kept) (stream chunks)
      (fun _ g' => steady → g' = g.sent (fileBytes chunks)) (fun _ _ => ¬ steady) g := by
  have ends : steady → g = g.sent [] := fun holds => ((streaming holds).sent_nil).symm
  induction chunks generalizing g with
  | nil =>
      refine ⟨nofun, fun answer given => ?_⟩
      change Except Exc Unit at answer
      cases answer with
      | ok done => exact ends
      | error exc => exact not_steady streaming (unbegun rfl given)
  | cons chunk chunks ih =>
      refine secures_bind_iff.mpr ⟨nofun, fun answer given => ?_⟩
      change Except Exc Unit at answer
      cases answer with
      | error exc => exact not_steady streaming (unbegun rfl given)
      | ok done =>
          change Secures _ (if chunk = [] then pure () else _) _ _ g
          split
          · rename_i last
            intro holds
            rw [last]
            exact ends holds
          · rename_i more
            refine secures_bind_iff.mpr (secures_write ?_ fun exc unbegun _ =>
              not_steady streaming unbegun)
            refine secures_bind_iff.mpr (secures_drain ?_ fun exc unbegun =>
              not_steady streaming unbegun)
            have streaming' : steady → (g.streamed chunk).Streaming := fun holds =>
              ⟨(streaming holds).begun, rfl⟩
            refine (ih streaming' fun holds => ((streaming' holds).sent_nil).symm).mono
              (fun _ g' streamed holds => ?_) fun _ _ no => no
            have split : fileBytes (chunk :: chunks) = chunk ++ fileBytes chunks := by
              simp [fileBytes, more]
            rw [streamed holds, (streaming holds).streamed_eq, Wire.sent_sent, split]

theorem secures_sendFile {path : Text} (streaming : steady → g.Streaming) :
    Secures (wire codec steady kept) (sendFile path)
      (fun _ g' => steady → ∃ body, body.length = g.size ∧ g' = g.sent body)
      (fun _ _ => ¬ steady) g := by
  refine secures_bind_iff.mpr ⟨nofun, fun answer given => ?_⟩
  change Except Exc (List Bytes) at answer
  cases answer with
  | error exc => exact not_steady streaming (unbegun rfl given)
  | ok chunks =>
      refine secures_bind_iff.mpr (secures_tryCatch_iff.mpr ?_)
      refine (secures_stream streaming).mono (fun _ g' streamed => ?_) fun exc g' broken => ?_
      · refine ⟨nofun, fun answer given' => ?_⟩
        change Except Exc Unit at answer
        cases answer with
        | ok done =>
            intro holds
            have size := (given.1 holds).2
            exact ⟨_, of_decide_eq_true size, streamed holds⟩
        | error exc =>
            intro holds
            have none := unbegun rfl given' holds
            rw [streamed holds] at none
            cases none
      · refine secures_bind_iff.mpr ⟨nofun, fun answer _ => ?_⟩
        change Except Exc Unit at answer
        cases answer with
        | ok done => exact broken
        | error exc => exact broken

theorem secures_tryFile {path : Text} (fresh : g.Fresh) :
    Secures (wire codec steady kept) (tryFile path) (Responds steady) (Abandons steady kept) g := by
  refine secures_bind_iff.mpr ⟨nofun, fun answer given => ?_⟩
  change Except Exc Nat at answer
  cases answer with
  | error exc => exact fun _ => ⟨fresh, answered rfl given⟩
  | ok size =>
      set contentType := contentTypeOf (lastPart '.' path)
      refine secures_bind_iff.mpr ((secures_headers 200 contentType size).mono ?_
        fun _ g' unsent holds => ?_)
      · rintro - g' rfl
        refine (secures_sendFile fun _ => ⟨rfl, rfl⟩).mono (fun _ g' sent holds => ?_)
          fun _ _ broken holds => absurd holds broken
        obtain ⟨body, length, rfl⟩ := sent holds
        change body.length = size at length
        refine ⟨responseOf 200 contentType body.length body,
          framed_responseOf (contentTypeOf_mem _) 200 body, ?_⟩
        rw [Wire.sent_sent, ← length, bytes_headers]
        change g.out ++ _ = _
        rw [fresh.out, List.nil_append]
      · obtain ⟨-, rfl, left⟩ := unsent holds
        exact ⟨⟨fresh.out, fresh.begun⟩, fun kept => absurd kept left⟩

theorem secures_file {path : Text} (fresh : g.Fresh) :
    Secures (wire codec steady kept) (file codec path) (Responds steady)
      (Abandons steady kept) g := by
  refine secures_tryCatch_iff.mpr ((secures_tryFile fresh).mono (fun _ _ responds => responds) ?_)
  intro exc g' abandons
  cases exc with
  | osError errno text => exact secures_json_fresh (fun holds => (abandons holds).1) 404 _
  | other text => exact abandons

/-- **The gateway is reset behind the whole answer.** -/
theorem secures_restartGateway (fresh : g.Fresh) (asked : AsksRestart g.request)
    (once : g.reset = false) :
    Secures (wire codec steady kept) (restartGateway codec) (Responds steady)
      (Abandons steady kept) g := by
  refine secures_call trivial fun _ => secures_bind_iff.mpr ?_
  refine (secures_json 202 _).mono ?_ fun _ g' unsent holds => ?_
  · rintro - g' rfl
    refine secures_call trivial fun _ => secures_lift_iff.mpr ⟨fun _ => ?_, fun _ _ holds => ?_⟩
    · refine ⟨asked, ?_, rfl, once⟩
      change g.out ++ _ = _
      rw [fresh.out, List.nil_append]
      rfl
    · exact complete_json fresh 202 _
  · obtain ⟨-, rfl, left⟩ := unsent holds
    exact ⟨fresh, fun kept => absurd kept left⟩

theorem secures_testLte {cfg : Config} (fresh : g.Fresh) :
    Secures (wire codec steady kept) (testLte cfg codec) (Responds steady)
      (Abandons steady kept) g := by
  unfold testLte
  split
  · exact secures_call trivial fun _ => secures_json_fresh (fun _ => fresh) 202 _
  · exact secures_json_fresh (fun _ => fresh) 503 _

theorem secures_ite {c : Prop} [Decidable c] {x y : Handler Unit} {post : Unit → Wire → Prop}
    {raised : Exc → Wire → Prop} (yes : c → Secures (wire codec steady kept) x post raised g)
    (no : Secures (wire codec steady kept) y post raised g) :
    Secures (wire codec steady kept) (if c then x else y) post raised g := by
  split
  · rename_i holds
    exact yes holds
  · exact no

theorem secures_route {cfg : Config} {method path : Text} (fresh : g.Fresh)
    (asked : method = "POST".toList → path = "/api/restart".toList → AsksRestart g.request)
    (once : g.reset = false) :
    Secures (wire codec steady kept) (route cfg codec method path) (Responds steady)
      (Abandons steady kept) g := by
  have answers (status : Nat) (value : Json) : Secures (wire codec steady kept)
      (json codec status value) (Responds steady) (Abandons steady kept) g :=
    secures_json_fresh (fun _ => fresh) status value
  have paged (page : Page) (value : Json → Json) : Secures (wire codec steady kept)
      (sendPage codec page value) (Responds steady) (Abandons steady kept) g :=
    secures_sendPage fresh page value
  refine secures_ite (fun _ => secures_call trivial fun _ => secures_call trivial fun _ =>
    answers 200 _) ?_
  refine secures_ite (fun _ => secures_call trivial fun _ => paged _ id) ?_
  refine secures_ite (fun _ => paged _ id) ?_
  refine secures_ite (fun _ => secures_call trivial fun _ => paged _ id) ?_
  refine secures_ite (fun _ => paged _ id) ?_
  refine secures_ite (fun _ => paged _ id) ?_
  refine secures_ite (fun _ => paged _ _) ?_
  refine secures_ite (fun _ => paged _ _) ?_
  refine secures_ite (fun due => secures_restartGateway fresh (asked due.1 due.2) once) ?_
  refine secures_ite (fun _ => secures_testLte fresh) ?_
  exact secures_ite (fun _ => answers 405 _) (secures_ite (fun _ => secures_file fresh)
    (answers 404 _))

theorem intercalate_eq (sep : Char) (first : Text) (more : List Text) :
    [sep].intercalate (first :: more) = first ++ more.flatMap (sep :: ·) := by
  induction more generalizing first with
  | nil => simp
  | cons next more ih =>
      rw [List.intercalate_cons_cons, ih, List.flatMap_cons]
      simp

/-- A request line of these parts asks for the restart. -/
theorem asksRestart {request : Bytes} {first method target : Text} {more : List Text}
    (decoded : Utf8.decode? (firstLine request) = some first)
    (parts : first.splitOn ' ' = method :: target :: more) (post : method = "POST".toList)
    (path : target.takeWhile (· ≠ '?') = "/api/restart".toList) : AsksRestart request := by
  have split : target = "/api/restart".toList ++ target.dropWhile (· ≠ '?') := by
    rw [← path, List.takeWhile_append_dropWhile]
  have query : ∀ c ∈ (target.dropWhile (· ≠ '?')).head?, c = '?' := by
    intro c mem
    have stops := List.head?_dropWhile_not (· ≠ '?') target
    rw [Option.mem_def.mp mem] at stops
    simpa using stops
  have joined : [' '].intercalate (first.splitOn ' ') = first := List.intercalate_splitOn ' '
  have version : ∀ c ∈ (more.flatMap (' ' :: ·)).head?, c = ' ' := by
    intro c mem
    cases more with
    | nil => cases mem
    | cons next more => exact (Option.some.inj (Option.mem_def.mp mem)).symm
  refine ⟨target.dropWhile (· ≠ '?') ++ more.flatMap (' ' :: ·), ?_, fun c mem => ?_⟩
  · rw [decoded, ← joined, parts, intercalate_eq, List.flatMap_cons, post]
    conv_lhs => rw [split]
    simp
  · rw [List.head?_append] at mem
    cases rest : (target.dropWhile (· ≠ '?')).head? with
    | none =>
        rw [rest, Option.none_or] at mem
        exact .inl (version c mem)
    | some mark =>
        rw [rest, Option.some_or] at mem
        exact .inr (query c (rest ▸ mem))

/-- **The `try` block sends one response or none**, and resets the gateway behind one. -/
theorem secures_serve {cfg : Config} (fresh : g.Fresh) (once : g.reset = false) :
    Secures (wire codec steady kept) (serve cfg codec)
      (fun _ => Concludes steady kept) (Abandons steady kept) g := by
  refine secures_bind_iff.mpr ⟨nofun, fun answer given => ?_⟩
  change Except Exc Bytes at answer
  cases answer with
  | error exc => exact fun _ => ⟨fresh, answered rfl given⟩
  | ok request =>
      set g' : Wire := { g with request := request }
      have fresh' : g'.Fresh := ⟨fresh.out, fresh.begun⟩
      have responds {x : Handler Unit}
          (secures : Secures (wire codec steady kept) x (Responds steady)
            (Abandons steady kept) g') :
          Secures (wire codec steady kept) x (fun _ => Concludes steady kept)
            (Abandons steady kept) g' :=
        secures.mono (fun _ _ complete holds => .inl (complete holds)) fun _ _ fresh => fresh
      change Secures _ (if request = [] then pure () else _) _ _ g'
      split
      · rename_i nothing
        exact fun _ => .inr ⟨fresh', fun _ => nothing⟩
      · split
        · exact fun _ => ⟨fresh', fun _ => rfl⟩
        · rename_i first decoded
          split
          · rename_i method target more parts
            exact responds (secures_route fresh' (asksRestart decoded parts) once)
          · exact responds (secures_json_fresh (fun _ => fresh') 400 _)

/-! ### A connection -/

theorem silent_release (cfg : Config) : (release cfg).Only Op.Silent := by
  refine .bind (.ask trivial) fun _ => .bind (.ask trivial) fun a => ?_
  refine .bind (.ask trivial) fun _ => .bind ?_ fun due => ?_
  · unfold gcDue
    split
    · trivial
    · exact .bind (.ask trivial) fun _ => trivial
  · split
    · refine .bind (.ask trivial) fun _ => ?_
      exact .bind (.ask trivial) fun a => .ask trivial
    · trivial

/-- The `except` branches: a response of their own, if none has gone out. -/
theorem ensures_recover {outcome : Except Exc Unit}
    (ended : Outcomes (fun _ => Concludes steady kept) (Abandons steady kept) outcome g) :
    (recover codec outcome).Ensures (wire codec steady kept)
      (fun _ => Concludes steady kept) g := by
  unfold recover
  split
  · exact ended
  · rename_i exc
    change Abandons steady kept exc g at ended
    split
    · rename_i cancelled
      intro holds
      obtain ⟨fresh, answered⟩ := ended holds
      refine .inr ⟨fresh, fun kept => ?_⟩
      rw [answered kept] at cancelled
      cases cancelled
    · refine ensures_bind_iff.mpr (ensures_ask_iff.mpr ⟨nofun, fun _ _ => ensures_bind_iff.mpr ?_⟩)
      refine Prog.Ensures.mono (secures_json 500 _) fun result g' sent holds => ?_
      obtain ⟨fresh, -⟩ := ended holds
      cases result with
      | ok done =>
          obtain rfl := sent
          exact .inl (complete_json fresh 500 _)
      | error exc =>
          obtain ⟨-, rfl, left⟩ := sent holds
          exact .inr ⟨fresh, fun kept => absurd kept left⟩

theorem ensures_handle {cfg : Config} : (handle cfg codec).Ensures (wire codec steady kept)
    (fun _ => Concludes steady kept) Wire.start := by
  refine ensures_bind_iff.mpr (ensures_ask_iff.mpr ⟨nofun, fun a _ => ?_⟩)
  split
  · refine ensures_bind_iff.mpr (ensures_ask_iff.mpr ⟨nofun, fun _ _ => ?_⟩)
    exact ensures_ask_iff.mpr ⟨nofun, fun _ _ _ => .inr ⟨⟨rfl, rfl⟩, fun _ => rfl⟩⟩
  · refine ensures_bind_iff.mpr (ensures_ask_iff.mpr ⟨nofun, fun _ _ => ensures_bind_iff.mpr ?_⟩)
    refine Prog.Ensures.mono (secures_serve ⟨rfl, rfl⟩ rfl) fun outcome g ended => ?_
    refine ensures_bind_iff.mpr ((ensures_recover ended).mono fun _ g' holds => ?_)
    exact (ensures_silent (silent_release cfg)).mono fun _ g'' same => same ▸ holds

/-! ### Runs -/

/-- The wire behind these events. -/
def Wire.behind (g : Wire) (events : Events) : Wire :=
  events.foldl (fun g ev => g.next ev.op ev.answer) g

/-- On a steady connection, nothing raises behind headers, and files keep their size. -/
def SteadyFrom : Wire → Events → Prop
  | _, [] => True
  | g, ev :: events => g.Steady ev.op ev.answer ∧ SteadyFrom (g.next ev.op ev.answer) events

instance (g : Wire) (op : Op) (answer : Ans op) : Decidable (g.Steady op answer) :=
  inferInstanceAs (Decidable (_ ∧ _))

instance decidableSteadyFrom : (g : Wire) → (events : Events) → Decidable (SteadyFrom g events)
  | _, [] => .isTrue trivial
  | g, ev :: events =>
      have := decidableSteadyFrom (g.next ev.op ev.answer) events
      inferInstanceAs (Decidable (_ ∧ _))

theorem out_next (ev : Event Op Ans) (g : Wire) :
    (g.next ev.op ev.answer).out = g.out ++ written [ev] := by
  obtain ⟨op, answer⟩ := ev
  cases op with
  | write piece =>
      change Except Exc Unit at answer
      cases answer with
      | ok done => cases piece <;> simp [Wire.next, written, Piece.bytes]
      | error exc => cases piece <;> simp [Wire.next, written]
  | read size =>
      change Except Exc Bytes at answer
      cases answer <;> simp [Wire.next, written]
  | drain =>
      change Except Exc Unit at answer
      cases answer <;> simp [Wire.next, written]
  | stat path =>
      change Except Exc Nat at answer
      cases answer <;> simp [Wire.next, written]
  | _ => simp [Wire.next, written]

theorem out_behind (events : Events) (g : Wire) :
    (g.behind events).out = g.out ++ written events := by
  induction events generalizing g with
  | nil => simp [Wire.behind, written]
  | cons ev events ih =>
      have split : written (ev :: events) = written [ev] ++ written events := by simp [written]
      change ((g.next ev.op ev.answer).behind events).out = _
      rw [ih, out_next, split, List.append_assoc]

/-- Who was reset stays so. -/
theorem Wire.reset_next {ev : Event Op Ans} {g : Wire} (due : g.reset = true ∨ ev.op = .reset) :
    (g.next ev.op ev.answer).reset = true := by
  obtain ⟨op, answer⟩ := ev
  obtain reset | rfl := due
  · cases op with
    | write piece =>
        change Except Exc Unit at answer
        cases answer <;> cases piece <;> exact reset
    | read size =>
        change Except Exc Bytes at answer
        cases answer <;> exact reset
    | drain =>
        change Except Exc Unit at answer
        cases answer <;> exact reset
    | stat path =>
        change Except Exc Nat at answer
        cases answer <;> exact reset
    | reset => rfl
    | _ => exact reset
  · rfl

theorem Wire.reset_behind {events : Events} {g : Wire}
    (due : g.reset = true ∨ (⟨.reset, ()⟩ : Event Op Ans) ∈ events) :
    (g.behind events).reset = true := by
  induction events generalizing g with
  | nil =>
      obtain reset | mem := due
      · exact reset
      · cases mem
  | cons ev events ih =>
      refine ih ?_
      obtain reset | mem := due
      · exact .inl (reset_next (.inl reset))
      · obtain rfl | later := List.mem_cons.mp mem
        · exact .inl (reset_next (.inr rfl))
        · exact .inr later

theorem admits_of (events : Events) {g : Wire} (steadily : steady → SteadyFrom g events)
    (staying : kept → ∀ ev ∈ events, stays ev = true) :
    (wire codec steady kept).Admits g events := by
  induction events generalizing g with
  | nil => trivial
  | cons ev events ih =>
      refine ⟨⟨fun holds => (steadily holds).1, fun holds => ?_⟩, ih ?_ ?_⟩
      · exact staying holds ev List.mem_cons_self
      · exact fun holds => (steadily holds).2
      · exact fun holds later mem => staying holds later (List.mem_cons_of_mem _ mem)

/-- **On a steady connection the client reads one whole response at most**, and one if
it sent something and stays. -/
theorem one_response {cfg : Config} {events : Events} (run : Runs (handle cfg codec) events ())
    (steady : SteadyFrom .start events) :
    ∃ responses : List Http.Response, (∀ r ∈ responses, r.Framed) ∧
      Http.readAll 1 (written events) = some responses ∧
      ((Wire.start.behind events).request ≠ [] → (∀ ev ∈ events, stays ev = true) →
        responses ≠ []) := by
  have admits : (wire codec True (∀ ev ∈ events, stays ev = true)).Admits .start events :=
    admits_of events (fun _ => steady) fun stays => stays
  obtain ⟨-, concludes⟩ := run.ensured ensures_handle admits
  have out : (Wire.start.behind events).out = written events := out_behind events .start
  obtain ⟨r, framed, sent⟩ | ⟨fresh, nothing⟩ := concludes trivial
  · have one : ∀ other ∈ [r], other.Framed := by simpa using framed
    have read := Http.readAll_bytes one (Nat.le_refl 1)
    rw [← out]
    change (Wire.start.behind events).out = r.bytes at sent
    refine ⟨[r], one, ?_, fun _ _ => List.cons_ne_nil r []⟩
    rw [sent]
    simpa using read
  · have none : (Wire.start.behind events).out = [] := fresh.out
    rw [← out, none]
    exact ⟨[], nofun, rfl, fun some stays => absurd (nothing stays) some⟩

/-- A browser asks for the dashboard, and gets a file of two bytes. -/
def wholeFile : Events := ((handle .shipped Mqtt.idleCodec).play (fun n op =>
  match op with
  | .stat _ => .ok 2
  | op => breaksAt 20 n op) 0).1

theorem one_response_file : ∃ responses : List Http.Response, (∀ r ∈ responses, r.Framed) ∧
    Http.readAll 1 (written wholeFile) = some responses ∧
    ((Wire.start.behind wholeFile).request ≠ [] → (∀ ev ∈ wholeFile, stays ev = true) →
      responses ≠ []) :=
  one_response (runs_play _ 0 (handle .shipped Mqtt.idleCodec)) (by decide)

/-- **The gateway is reset once at most, for the request for it, behind the whole answer.** -/
theorem reset_behind_response {cfg : Config} {events before after : Events}
    (run : Runs (handle cfg codec) events ())
    (split : events = before ++ ⟨.reset, ()⟩ :: after) :
    AsksRestart (Wire.start.behind before).request ∧
      Http.readAll 1 (written before) = some [accepted codec] ∧
      (Wire.start.behind before).drained = true ∧ (⟨.reset, ()⟩ : Event Op Ans) ∉ before := by
  have admits : (wire codec False False).Admits .start events := admits_of events nofun nofun
  obtain ⟨permits, -⟩ := run.ensured ensures_handle admits
  rw [split] at permits
  have due : (Wire.start.behind before).Due codec := permits.of_append rfl
  have out : (Wire.start.behind before).out = written before := out_behind before .start
  have listed : "application/json" ∈ contentTypes := by decide
  have framed : ∀ r ∈ [accepted codec], r.Framed := by
    intro r mem
    obtain rfl := List.mem_singleton.mp mem
    exact framed_responseOf listed 202 _
  refine ⟨due.asked, ?_, due.drained, ?_⟩
  · rw [← out, due.answered]
    simpa using Http.readAll_bytes framed (Nat.le_refl 1)
  · intro mem
    have again : (Wire.start.behind before).reset = true := Wire.reset_behind (.inr mem)
    rw [due.once] at again
    cases again

/-- The dashboard asks for a restart. -/
def restarted : Events := ((handle .shipped Mqtt.idleCodec).play (fun n op =>
  match op with
  | .read _ => .ok (Utf8.encode "POST /api/restart HTTP/1.1\r\n\r\n".toList)
  | op => breaksAt 20 n op) 0).1

theorem reset_behind_response_restarted :
    (restarted.drop 9).head?.map Event.op = some .reset ∧
      Http.readAll 1 (written (restarted.take 9)) = some [accepted Mqtt.idleCodec] := by
  have split : restarted = restarted.take 9 ++ ⟨.reset, ()⟩ :: restarted.drop 10 := rfl
  have due := reset_behind_response (runs_play _ 0 (handle .shipped Mqtt.idleCodec)) split
  exact ⟨rfl, due.2.1⟩

end Wire

end EdgeGateway.Web
