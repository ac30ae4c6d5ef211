import EdgeGateway.Lib.Utf8

/-!
HTTP/1.1 responses as bytes.

A response is a status line, header fields, an empty line and a body of as many bytes
as `Content-Length` says. `read?` is a client: it splits the lines at their CRLF, and
takes the body by its length. A stream of framed responses is read back, each of them
and nothing else (`readAll_bytes`).
-/

namespace EdgeGateway.Lib.Http

structure Response where
  status : Nat
  reason : Text
  fields : List (Text × Text)
  body : Bytes
deriving DecidableEq, Repr

/-! ### Writing -/

def version : Text := ['H', 'T', 'T', 'P', '/', '1', '.', '1']

def crlf : Text := ['\r', '\n']

def Response.statusLine (r : Response) : Text :=
  version ++ ' ' :: (Nat.toDigits 10 r.status ++ ' ' :: r.reason)

def fieldLine (field : Text × Text) : Text := field.1 ++ ':' :: ' ' :: field.2

def Response.lines (r : Response) : List Text := r.statusLine :: r.fields.map fieldLine

/-- The status line, the fields and the empty line. -/
def Response.head (r : Response) : Text := r.lines.flatMap (· ++ crlf) ++ crlf

def Response.bytes (r : Response) : Bytes := Utf8.encode r.head ++ r.body

/-! ### Reading -/

/-- The first line, and what follows its CRLF. -/
def line? : Bytes → Option (Bytes × Bytes)
  | [] => none
  | b :: bs =>
      if b = 13 ∧ bs.head? = some 10 then some ([], bs.tail)
      else (line? bs).map fun (line, rest) => (b :: line, rest)

/-- The lines up to the empty one, at most `fuel` many of them. -/
def lines? : Nat → Bytes → Option (List Bytes × Bytes)
  | 0, _ => none
  | fuel + 1, bytes =>
      match line? bytes with
      | none => none
      | some ([], rest) => some ([], rest)
      | some (line, rest) => (lines? fuel rest).map fun (lines, body) => (line :: lines, body)

/-- The code and the reason. -/
def status? (line : Text) : Option (Nat × Text) :=
  if line.takeWhile (· ≠ ' ') = version then do
    let rest ← afterFirst ' ' line
    let code ← digitsOf 0 false (rest.takeWhile (· ≠ ' '))
    let reason ← afterFirst ' ' rest
    some (code, reason)
  else none

/-- The name, and the value without the spaces before it. -/
def field? (line : Text) : Option (Text × Text) := do
  let value ← afterFirst ':' line
  some (line.takeWhile (· ≠ ':'), value.dropWhile (· = ' '))

def contentLength : Text := "Content-Length".toList

/-- As many bytes as the fields say. -/
def body? (fields : List (Text × Text)) (rest : Bytes) : Option (Bytes × Bytes) := do
  let length ← digitsOf 0 false (← fields.lookup contentLength)
  if length ≤ rest.length then some (rest.take length, rest.drop length) else none

/-- One response, and the bytes behind it. -/
def read? (bytes : Bytes) : Option (Response × Bytes) := do
  let (lines, rest) ← lines? bytes.length bytes
  let texts ← lines.mapM Utf8.decode?
  let first ← texts.head?
  let (status, reason) ← status? first
  let fields ← texts.tail.mapM field?
  let (body, rest) ← body? fields rest
  some (⟨status, reason, fields, body⟩, rest)

/-- At most `fuel` responses, up to the end of the stream. -/
def readAll : Nat → Bytes → Option (List Response)
  | _, [] => some []
  | 0, _ :: _ => none
  | fuel + 1, bytes => do
      let (response, rest) ← read? bytes
      let later ← readAll fuel rest
      some (response :: later)

/-! ### Framed responses -/

/-- The response can be told from its bytes. -/
structure Response.Framed (r : Response) : Prop where
  reason : '\r' ∉ r.reason
  names : ∀ field ∈ r.fields, '\r' ∉ field.1 ∧ ':' ∉ field.1
  values : ∀ field ∈ r.fields, '\r' ∉ field.2 ∧ field.2.head? ≠ some ' '
  length : r.fields.lookup contentLength = some (Nat.toDigits 10 r.body.length)

theorem line?_append {line : Bytes} (noReturn : 13 ∉ line) (rest : Bytes) :
    line? (line ++ 13 :: 10 :: rest) = some (line, rest) := by
  induction line with
  | nil => rfl
  | cons b line ih =>
      have other : ¬ b = 13 := fun same => noReturn (same ▸ List.mem_cons_self)
      have tail := ih fun mem => noReturn (List.mem_cons_of_mem _ mem)
      simp [line?, other, tail]

theorem lines?_append {lines : List Bytes} (nonempty : ∀ line ∈ lines, line ≠ [])
    (noReturn : ∀ line ∈ lines, 13 ∉ line) {fuel : Nat} (enough : lines.length < fuel)
    (rest : Bytes) :
    lines? fuel (lines.flatMap (· ++ [13, 10]) ++ 13 :: 10 :: rest) = some (lines, rest) := by
  induction lines generalizing fuel with
  | nil =>
      obtain ⟨fuel, rfl⟩ := Nat.exists_eq_add_of_lt enough
      rfl
  | cons line lines ih =>
      obtain _ | fuel := fuel
      · cases enough
      have tail := ih (fun other mem => nonempty other (List.mem_cons_of_mem _ mem))
        (fun other mem => noReturn other (List.mem_cons_of_mem _ mem))
        (Nat.lt_of_succ_lt_succ enough)
      have split : (line :: lines).flatMap (· ++ [13, 10]) ++ 13 :: 10 :: rest =
          line ++ 13 :: 10 :: (lines.flatMap (· ++ [13, 10]) ++ 13 :: 10 :: rest) := by
        simp
      rw [split, lines?, line?_append (noReturn line List.mem_cons_self)]
      cases line with
      | nil => exact absurd rfl (nonempty [] List.mem_cons_self)
      | cons b line => simp only [tail, Option.map_some]

/-- What stands before the first separator. -/
theorem takeWhile_append {sep : Char} {name : Text} (first : sep ∉ name) (value : Text) :
    (name ++ sep :: value).takeWhile (· ≠ sep) = name := by
  rw [List.takeWhile_append_of_pos]
  · simp
  · intro c mem
    have other : c ≠ sep := fun same => first (same ▸ mem)
    simpa using other

theorem digitsOf_toDigits (n : Nat) : digitsOf 0 false (Nat.toDigits 10 n) = some n := by
  have digits : ∀ c ∈ Nat.toDigits 10 n, c.isDigit = true := fun c mem =>
    Nat.isDigit_of_mem_toDigits (by decide) (by decide) mem
  have whole := digitsOf_digits digits 0
  rw [Nat.ofDigitChars_ten_toDigits] at whole
  cases shape : Nat.toDigits 10 n with
  | nil => exact absurd shape Nat.toDigits_ne_nil
  | cons c ds =>
      have digit := digits c (by simp [shape])
      rw [shape] at whole
      simpa [digitsOf, digit] using whole

theorem status?_statusLine (r : Response) : status? r.statusLine = some (r.status, r.reason) := by
  have code : ' ' ∉ Nat.toDigits 10 r.status := not_mem_toDigits rfl _
  unfold status? Response.statusLine
  rw [takeWhile_append (by decide), if_pos rfl, afterFirst_append (by decide)]
  simp only [Option.bind_eq_bind, Option.bind_some, takeWhile_append code,
    digitsOf_toDigits, afterFirst_append code]

theorem field?_fieldLine {field : Text × Text} (name : ':' ∉ field.1)
    (value : field.2.head? ≠ some ' ') : field? (fieldLine field) = some field := by
  have solid : (' ' :: field.2).dropWhile (· = ' ') = field.2 := by
    cases shape : field.2 with
    | nil => rfl
    | cons c cs =>
        rw [shape] at value
        have other : ¬ c = ' ' := fun same => value (congrArg some same)
        simp [other]
  unfold field? fieldLine
  rw [afterFirst_append name, takeWhile_append name]
  simp only [Option.bind_eq_bind, Option.bind_some, solid]

section Framed

variable {r : Response}

theorem Response.Framed.noReturn (framed : r.Framed) : ∀ line ∈ r.lines, '\r' ∉ line := by
  refine List.forall_mem_cons.mpr ⟨?_, fun line mem => ?_⟩
  · have code : '\r' ∉ Nat.toDigits 10 r.status := not_mem_toDigits rfl _
    simp [statusLine, version, code, framed.reason]
  · obtain ⟨field, inFields, rfl⟩ := List.mem_map.mp mem
    simp [fieldLine, (framed.names field inFields).1, (framed.values field inFields).1]

theorem Response.lines_ne_nil (r : Response) : ∀ line ∈ r.lines, line ≠ [] := by
  refine List.forall_mem_cons.mpr ⟨?_, fun line mem => ?_⟩
  · simp [statusLine]
  · obtain ⟨field, -, rfl⟩ := List.mem_map.mp mem
    simp [fieldLine]

theorem Response.encode_head (r : Response) :
    Utf8.encode r.head = (r.lines.map Utf8.encode).flatMap (· ++ [13, 10]) ++ [13, 10] := by
  have joined (lines : List Text) : Utf8.encode (lines.flatMap (· ++ crlf)) =
      (lines.map Utf8.encode).flatMap (· ++ [13, 10]) := by
    induction lines with
    | nil => rfl
    | cons line lines ih =>
        rw [List.flatMap_cons, Utf8.encode_append, Utf8.encode_append, ih]
        rfl
  unfold head
  rw [Utf8.encode_append, joined]
  rfl

theorem mapM_decode?_encode (texts : List Text) :
    (texts.map Utf8.encode).mapM Utf8.decode? = some texts := by
  induction texts with
  | nil => rfl
  | cons text texts ih => simp [Utf8.decode?_encode, ih]

theorem mapM_field? {fields : List (Text × Text)} (names : ∀ field ∈ fields, ':' ∉ field.1)
    (values : ∀ field ∈ fields, field.2.head? ≠ some ' ') :
    (fields.map fieldLine).mapM field? = some fields := by
  induction fields with
  | nil => rfl
  | cons field fields ih =>
      have first := field?_fieldLine (names field List.mem_cons_self)
        (values field List.mem_cons_self)
      have later := ih (fun other mem => names other (List.mem_cons_of_mem _ mem))
        fun other mem => values other (List.mem_cons_of_mem _ mem)
      simp [first, later]

theorem length_lines_lt (lines : List Bytes) (rest : Bytes) :
    lines.length < (lines.flatMap (· ++ [13, 10]) ++ 13 :: 10 :: rest).length := by
  induction lines with
  | nil => simp
  | cons line lines ih =>
      simp only [List.flatMap_cons, List.length_append, List.length_cons, List.length_nil] at ih ⊢
      omega

/-- **A framed response is read back, and the bytes behind it are left alone.** -/
theorem read?_bytes (framed : r.Framed) (rest : Bytes) :
    read? (r.bytes ++ rest) = some (r, rest) := by
  have split : r.bytes ++ rest =
      (r.lines.map Utf8.encode).flatMap (· ++ [13, 10]) ++ 13 :: 10 :: (r.body ++ rest) := by
    simp [Response.bytes, r.encode_head]
  have nonempty : ∀ line ∈ r.lines.map Utf8.encode, line ≠ [] := by
    intro line mem empty
    obtain ⟨text, inLines, rfl⟩ := List.mem_map.mp mem
    have decoded := Utf8.decode?_encode text
    rw [empty] at decoded
    exact r.lines_ne_nil text inLines (Option.some.inj decoded).symm
  have noReturn : ∀ line ∈ r.lines.map Utf8.encode, 13 ∉ line := by
    intro line mem inLine
    obtain ⟨text, inLines, rfl⟩ := List.mem_map.mp mem
    exact framed.noReturn text inLines (Utf8.mem_of_ascii_mem_encode (by decide) inLine)
  have fields : (r.fields.map fieldLine).mapM field? = some r.fields :=
    mapM_field? (fun field mem => (framed.names field mem).2)
      fun field mem => (framed.values field mem).2
  have body : body? r.fields (r.body ++ rest) = some (r.body, rest) := by
    unfold body?
    simp [framed.length, digitsOf_toDigits]
  unfold read?
  rw [split, lines?_append nonempty noReturn (length_lines_lt _ _)]
  simp only [Option.bind_eq_bind, Option.bind_some, mapM_decode?_encode]
  simp only [Response.lines, List.head?_cons, List.tail_cons, Option.bind_some,
    status?_statusLine, fields, body]

/-- A response begins with its version and its status. -/
theorem Response.prefix_bytes (r : Response) :
    Utf8.encode (version ++ ' ' :: Nat.toDigits 10 r.status) <+: r.bytes := by
  have split : r.head = (version ++ ' ' :: Nat.toDigits 10 r.status) ++ (' ' :: r.reason ++ crlf ++
      (r.fields.map fieldLine).flatMap (· ++ crlf) ++ crlf) := by
    simp [head, lines, statusLine]
  unfold bytes
  rw [split, Utf8.encode_append (version ++ ' ' :: Nat.toDigits 10 r.status), List.append_assoc]
  exact List.prefix_append _ _

theorem Response.bytes_ne_nil (r : Response) : r.bytes ≠ [] := by
  simp [Response.bytes, r.encode_head]

/-- **A stream of framed responses is read back, each of them and nothing else.** -/
theorem readAll_bytes {responses : List Response} (framed : ∀ r ∈ responses, r.Framed)
    {fuel : Nat} (enough : responses.length ≤ fuel) :
    readAll fuel (responses.flatMap Response.bytes) = some responses := by
  induction responses generalizing fuel with
  | nil =>
      cases fuel with
      | zero => rfl
      | succ fuel => rfl
  | cons r responses ih =>
      obtain _ | fuel := fuel
      · cases enough
      have first := read?_bytes (framed r List.mem_cons_self) (responses.flatMap Response.bytes)
      have later := ih (fun other mem => framed other (List.mem_cons_of_mem _ mem))
        (Nat.le_of_succ_le_succ enough)
      have some : ∃ b bytes, r.bytes ++ responses.flatMap Response.bytes = b :: bytes :=
        List.exists_cons_of_ne_nil (by simp [r.bytes_ne_nil])
      obtain ⟨b, bytes, shape⟩ := some
      rw [List.flatMap_cons, shape, readAll, ← shape, first]
      · simp only [Option.bind_eq_bind, Option.bind_some, later]
      · rintro ⟨⟩

end Framed

end EdgeGateway.Lib.Http
