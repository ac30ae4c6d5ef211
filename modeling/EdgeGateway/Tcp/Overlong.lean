import EdgeGateway.Tcp.StopAndWait

/-!
Frames above the limit on a stop-and-wait connection.

If the frames are not orderly, the handler serves those before the first that is
not kept, reads that one up to the limit, and accepts the part. So there is a run
in which a part of a frame is acknowledged (`part_accepted`), and `frames_in_step`
is exact. A frame of exactly the limit is still delivered, but its newline is left
over and closes the connection (`limit_frame_closes`).
-/

namespace EdgeGateway.Tcp

open EdgeGateway.Lib EdgeGateway.Mqtt

variable {cfg : Config} {codec : Codec} {frames : List Bytes}

/-! ### Building a run -/

theorem reachable_handler {w : StopAndWait} {act : HandlerAct} {conn : Conn}
    (reach : Reachable (stopAndWait cfg codec frames) w)
    (step : w.conn.step cfg codec [] act = some conn)
    (calm : act ≠ .timeout ∧ act ≠ .reset) :
    Reachable (stopAndWait cfg codec frames) { w with conn := conn } := by
  apply reach.step (i := .handler act)
  obtain ⟨inTime, noError⟩ := calm
  have same : (w.failed || decide (act = .reset)) = w.failed := by simp [noError]
  cases act with
  | timeout => exact absurd rfl inTime
  | reset => exact absurd rfl noError
  | read count | endOfStream | full | flush count | proceed =>
      simp only [stopAndWait, StopAndWait.step, step, Option.map_some, same]

/-- The handler reads a chunk without a newline byte by byte. -/
theorem reachable_read (positive : 0 < cfg.readSize) {w : StopAndWait} {data chunk rest : Bytes}
    (reach : Reachable (stopAndWait cfg codec frames) w) (phase : w.conn.phase = .reading data)
    (wire : w.conn.wire = chunk ++ rest) (plain : newline ∉ chunk)
    (fits : (data ++ chunk).length ≤ cfg.maxMessageSize) :
    Reachable (stopAndWait cfg codec frames)
      { w with
        conn := { w.conn with
          wire := rest, taken := w.conn.taken ++ chunk, phase := .reading (data ++ chunk) } } := by
  induction chunk generalizing w data with
  | nil =>
      have same : w.conn = { w.conn with
          wire := rest, taken := w.conn.taken ++ [], phase := .reading (data ++ []) } := by
        rw [List.append_nil, List.append_nil, ← phase, ← List.nil_append rest, ← wire]
      rw [← same]
      exact reach
  | cons b chunk ih =>
      obtain ⟨other, plain⟩ : newline ≠ b ∧ newline ∉ chunk := by simpa using plain
      have step : w.conn.step cfg codec [] (.read 1) = some { w.conn with
          wire := chunk ++ rest, taken := w.conn.taken ++ [b], phase :=
            .reading (data ++ [b]) } := by
        have short : data.length < cfg.maxMessageSize ∧
            1 ≤ min cfg.readSize (cfg.maxMessageSize - data.length) := by
          simp only [List.length_append, List.length_cons] at fits
          omega
        simp [Conn.step, phase, wire, short, other]
      have one := ih (reachable_handler reach step (by simp)) rfl rfl plain (by simpa using fits)
      simpa using one

/-- An acknowledgement gets out, and its message is processed. -/
theorem reachable_ack {w : StopAndWait} {received : Received}
    (reach : Reachable (stopAndWait cfg codec frames) w)
    (phase : w.conn.phase = .acking received ack) :
    Reachable (stopAndWait cfg codec frames)
      { w with
        conn := { w.conn with
          phase := .reading []
          written := w.conn.written ++ ack
          handled := w.conn.handled ++ [received] } } := by
  have flush : w.conn.step cfg codec [] (.flush ack.length) = some { w.conn with
      phase := .acking received []
      written := w.conn.written ++ ack } := by
    have some : 0 < ack.length := by decide
    simp [Conn.step, phase, some]
  have proceed : Conn.step cfg codec [] { w.conn with
      phase := .acking received []
      written := w.conn.written ++ ack } .proceed = some { w.conn with
        phase := .reading []
        written := w.conn.written ++ ack
        handled := w.conn.handled ++ [received] } := rfl
  have flushed := reachable_handler reach flush (by simp)
  have processed := reachable_handler flushed proceed (by simp)
  exact processed

/-! ### Up to the first frame that is not kept -/

/-- The first frames of the client are served, and the handler waits for a message. -/
structure StopAndWait.Served (before after : List Bytes) (w : StopAndWait) : Prop where
  phase : w.conn.phase = .reading []
  wire : w.conn.wire = []
  accepted : w.conn.accepted = before
  sent : w.sent = before
  unsent : w.unsent = after
  written : before.length * ack.length ≤ w.conn.written.length
  calm : w.failed = false

/-- The client sends its next frame, and the handler reads a part of it. -/
theorem StopAndWait.Served.read (positive : 0 < cfg.readSize) {before after : List Bytes}
    {frame part rest : Bytes} {w : StopAndWait} (served : w.Served before (frame :: after))
    (reach : Reachable (stopAndWait cfg codec frames) w) (split : frame = part ++ rest)
    (plain : newline ∉ part) (fits : part.length ≤ cfg.maxMessageSize) :
    Reachable (stopAndWait cfg codec frames)
      { w with
        conn := { w.conn with
          wire := rest ++ [newline], taken := w.conn.taken ++ part, phase := .reading part }
        sent := before ++ [frame]
        unsent := after } := by
  have sends : (stopAndWait cfg codec frames).step w .send = some { w with
      conn := { w.conn with wire := frame ++ [newline] }
      sent := before ++ [frame]
      unsent := after } := by
    simp only [stopAndWait, StopAndWait.step, served.unsent, served.wire, served.sent,
      List.nil_append, if_pos served.written]
  have wire : frame ++ [newline] = part ++ (rest ++ [newline]) := by
    rw [split, List.append_assoc]
  exact reachable_read positive (reach.step sends) served.phase wire plain fits

/-- A frame that is kept is served. -/
theorem StopAndWait.Served.next (positive : 0 < cfg.readSize) {before after : List Bytes}
    {frame : Bytes}
    {w : StopAndWait} (served : w.Served before (frame :: after))
    (reach : Reachable (stopAndWait cfg codec frames) w) (oneLine : newline ∉ frame)
    (kept : Kept cfg codec frame) :
    ∃ w', Reachable (stopAndWait cfg codec frames) w' ∧ w'.Served (before ++ [frame]) after := by
  have whole := served.read positive reach (List.append_nil frame).symm oneLine kept.short.le
  obtain ⟨received, isFrame, accepts⟩ := @Conn.message_accepted codec frame kept.accepted
    { w.conn with
      wire := []
      taken := w.conn.taken ++ (frame ++ [newline])
      phase := .reading frame }
  have line : Conn.step cfg codec [] { w.conn with
      wire := [] ++ [newline], taken := w.conn.taken ++ frame, phase := .reading frame } (.read 1) =
      some { w.conn with
        wire := [], taken := w.conn.taken ++ (frame ++ [newline]), phase :=
          .acking received ack } := by
    have room : frame.length < cfg.maxMessageSize ∧
        1 ≤ min cfg.readSize (cfg.maxMessageSize - frame.length) := by
      have short := kept.short
      omega
    have message : beforeNewline (frame ++ [newline]) = frame := by
      rw [beforeNewline_append oneLine, beforeNewline_newline, List.append_nil]
    simp [Conn.step, room, message, accepts]
  have acked := reachable_ack (reachable_handler whole line (by simp)) rfl
  refine ⟨_, acked, rfl, rfl, ?_, rfl, rfl, ?_, served.calm⟩
  · rw [Conn.accepted_reading rfl, List.map_append, ← Conn.accepted_reading served.phase,
      served.accepted, List.map_singleton, isFrame]
  · have written := served.written
    simp only [List.length_append, List.length_singleton, Nat.add_mul, Nat.one_mul]
    omega

/-- The frames before the first that is not kept are served. -/
theorem reachable_served (codec : Codec) (positive : 0 < cfg.readSize)
    (oneLine : ∀ f ∈ frames, newline ∉ f)
    {before after : List Bytes} (split : frames = before ++ after)
    (kept : ∀ f ∈ before, Kept cfg codec f) :
    ∃ w, Reachable (stopAndWait cfg codec frames) w ∧ w.Served before after := by
  induction before using List.reverseRecOn generalizing after with
  | nil => exact ⟨_, Reachable.init _, rfl, rfl, rfl, rfl, split, Nat.zero_le _, rfl⟩
  | append_singleton before frame ih =>
      rw [List.append_assoc, List.singleton_append] at split
      obtain ⟨w, reach, served⟩ := ih split fun f mem => kept f (List.mem_append_left _ mem)
      exact served.next positive reach (oneLine frame (by simp [split])) (kept frame (by simp))

/-- **If the frames are not orderly, a part of one is accepted in some run.** -/
theorem part_accepted (codec : Codec) (positive : 0 < cfg.readSize)
    (oneLine : ∀ f ∈ frames, newline ∉ f)
    (disorderly : ¬ Orderly cfg codec frames) :
    ∃ w, Reachable (stopAndWait cfg codec frames) w ∧ ¬ w.conn.accepted <+: frames := by
  simp only [Orderly, not_forall, not_or] at disorderly
  obtain ⟨before, frame, after, split, kept, long, accepted⟩ := disorderly
  obtain ⟨w, reach, served⟩ := reachable_served codec positive oneLine split kept
  set part := frame.take cfg.maxMessageSize with partEq
  have full : part.length = cfg.maxMessageSize := List.length_take_of_le (not_le.mp long).le
  have plain : newline ∉ part := fun mem =>
    oneLine frame (by simp [split]) (List.mem_of_mem_take mem)
  have reads :=
    served.read positive reach (List.take_append_drop cfg.maxMessageSize frame).symm plain full.le
  obtain ⟨received, isPart, accepts⟩ := @Conn.message_accepted codec part accepted
    { w.conn with
      wire := frame.drop cfg.maxMessageSize ++ [newline]
      taken := w.conn.taken ++ part
      phase := .reading part }
  have stops : Conn.step cfg codec [] { w.conn with
      wire := frame.drop cfg.maxMessageSize ++ [newline]
      taken := w.conn.taken ++ part
      phase := .reading part } .full =
      some { w.conn with
        wire := frame.drop cfg.maxMessageSize ++ [newline]
        taken := w.conn.taken ++ part
        phase := .acking received ack } := by
    simp only [Conn.step, full, le_refl, if_true, accepts]
  refine ⟨_, reachable_handler reads stops (by simp), ?_⟩
  rw [Conn.accepted_acking rfl, ← Conn.accepted_reading served.phase, served.accepted,
    isPart, split, List.prefix_append_right_inj]
  intro sub
  have same := (List.cons_prefix_cons.mp sub).1
  exact long (same ▸ full.le)

/-! ### A frame of exactly the limit -/

/-- A handler that has read nothing yet and has a newline before it closes, whatever
it does next: the newline is an empty message. -/
theorem Conn.step_closes {text : Bytes} {c c' : Conn} {act : HandlerAct} {rest : Bytes}
    (phase : c.phase = .reading []) (wire : c.wire = newline :: rest)
    (step : c.step cfg codec text act = some c') : c'.phase = .closed := by
  have message (c : Conn) : (c.message codec []).phase = .closed := by
    unfold Conn.message
    rw [if_pos rfl]
  have isEmpty {data : Bytes} (phase' : c.phase = .reading data) : data = [] :=
    Phase.reading.inj (phase'.symm.trans phase)
  cases Conn.step_takes step with
  | @read data count phase' short positive sent =>
      obtain rfl := isEmpty phase'
      obtain ⟨count, rfl⟩ := Nat.exists_eq_succ_of_ne_zero positive.ne'
      rw [wire, List.take_succ_cons, if_pos List.mem_cons_self, List.nil_append,
        beforeNewline_newline]
      exact message _
  | timeout phase' short =>
      obtain rfl := isEmpty phase'
      exact message _
  | endOfStream phase' short hungUp none =>
      rw [wire] at none
      cases none
  | full phase' limit =>
      obtain rfl := isEmpty phase'
      exact message _
  | reset unwritten => rfl
  | flush phase' positive left => simp [phase] at phase'
  | proceed phase' => simp [phase] at phase'

/-- Frames around one of exactly the limit. -/
structure AtLimit (cfg : Config) (codec : Codec) (before : List Bytes) (frame : Bytes) : Prop where
  kept : ∀ f ∈ before, Kept cfg codec f
  full : frame.length = cfg.maxMessageSize
  accepted : ¬ Refused codec frame

theorem AtLimit.not_kept {before : List Bytes} {frame : Bytes}
    (atLimit : AtLimit cfg codec before frame) : ¬ Kept cfg codec frame :=
  fun kept => absurd kept.short (not_lt.mpr atLimit.full.ge)

/-- **A frame of exactly the limit is delivered, and its newline closes the connection.**
No run gets behind it: a handler that reads on after it closes with its next step. -/
theorem limit_frame_closes (positive : 0 < cfg.readSize) {before after : List Bytes} {frame : Bytes}
    (oneLine : ∀ f ∈ before ++ frame :: after, newline ∉ f)
    (atLimit : AtLimit cfg codec before frame) :
    (∀ talks w, Run (stopAndWait cfg codec (before ++ frame :: after)) talks w →
      w.conn.accepted <+: before ++ [frame] ∧
      (w.conn.accepted = before ++ [frame] → ∀ data act conn, w.conn.phase = .reading data →
        w.conn.step cfg codec [] act = some conn → conn.phase = .closed)) ∧
    ∃ talks w, Run (stopAndWait cfg codec (before ++ frame :: after)) talks w ∧
      w.conn.handled.map Received.data = before ++ [frame] ∧ w.conn.phase = .closed ∧
      w.failed = false := by
  have orderly : Orderly cfg codec (before ++ frame :: after) :=
    orderly_of_first rfl atLimit.kept atLimit.not_kept (.inl atLimit.full.le)
  refine ⟨fun talks w run => ?_, ?_⟩
  · obtain ⟨sane, fate⟩ := fate_of_run oneLine run
    refine ⟨(fate.inStep sane orderly).first before frame after rfl atLimit.not_kept, ?_⟩
    intro all data act conn phase step
    cases fate with
    | waiting waiting =>
        refine absurd (waiting.kept frame ?_) atLimit.not_kept
        rw [← waiting.accepted, all]
        simp
    | inside inside =>
        refine absurd (inside.kept frame ?_) atLimit.not_kept
        rw [← inside.accepted, all]
        simp
    | leftover isOpen none wire accepted orderly =>
        obtain rfl : data = [] := by simpa [phase, Phase.data] using none
        exact Conn.step_closes phase wire step
    | stopped closed accepted orderly =>
        rw [closed] at phase
        cases phase
    | derailed disorderly wrong => exact absurd orderly disorderly
  · obtain ⟨w, reach, served⟩ := reachable_served codec positive oneLine rfl atLimit.kept
    have reads := served.read positive reach (List.append_nil frame).symm
      (oneLine frame (by simp)) atLimit.full.le
    obtain ⟨received, isFrame, accepts⟩ := @Conn.message_accepted codec frame atLimit.accepted
      { w.conn with
        wire := [] ++ [newline]
        taken := w.conn.taken ++ frame
        phase := .reading frame }
    have stops : Conn.step cfg codec [] { w.conn with
        wire := [] ++ [newline]
        taken := w.conn.taken ++ frame
        phase := .reading frame } .full =
        some { w.conn with
          wire := [] ++ [newline]
          taken := w.conn.taken ++ frame
          phase := .acking received ack } := by
      simp only [Conn.step, atLimit.full, le_refl, if_true, accepts]
    have acked := reachable_ack (reachable_handler reads stops (by simp)) rfl
    have closes : Conn.step cfg codec [] { w.conn with
        wire := [] ++ [newline]
        taken := w.conn.taken ++ frame
        phase := .reading []
        written := w.conn.written ++ ack
        handled := w.conn.handled ++ [received] } (.read 1) =
        some { w.conn with
          wire := []
          taken := w.conn.taken ++ frame ++ [newline]
          phase := .closed
          written := w.conn.written ++ ack
          handled := w.conn.handled ++ [received] } := by
      have room : 0 < cfg.maxMessageSize := by
        rw [← atLimit.full, List.length_pos_iff]
        exact fun empty => atLimit.accepted (.inl empty)
      have one : 1 ≤ min cfg.readSize cfg.maxMessageSize := by omega
      simp [Conn.step, room, one, beforeNewline_newline, Conn.message]
    obtain ⟨talks, run⟩ := reachable_handler acked closes (by simp)
    refine ⟨talks, _, run, ?_, rfl, served.calm⟩
    rw [List.map_append, ← Conn.accepted_reading served.phase, served.accepted,
      List.map_singleton, isFrame]

/-! ### Every run -/

/-- **While no timeout fires, the messages accepted are the frames in order in every
run, exactly if the frames are orderly.** -/
theorem frames_in_step (positive : 0 < cfg.readSize) (oneLine : ∀ f ∈ frames, newline ∉ f) :
    (∀ talks w, Run (stopAndWait cfg codec frames) talks w → w.conn.accepted <+: frames) ↔
      Orderly cfg codec frames := by
  constructor
  · intro always
    by_contra disorderly
    obtain ⟨w, ⟨talks, run⟩, wrong⟩ := part_accepted codec positive oneLine disorderly
    exact wrong (always talks w run)
  · intro orderly talks w run
    exact (accepted_of_run oneLine run).1 orderly

/-- A service with a limit of eight bytes. -/
def narrow : Config := ⟨4, 8, true⟩

/-- A runtime that reads the numbers of these frames. -/
def numbers : Codec := readsOnly [("1234567".toList, .int 1234567),
  ("12345678".toList, .int 12345678), ("90".toList, .int 90)]

/-- Frames below, at and above the limit. -/
def aroundLimit : List Bytes := [frame "1234567", frame "12345678", frame "1234567890"]

theorem atLimit_around : AtLimit narrow numbers [frame "1234567"] (frame "12345678") where
  kept := by
    intro f mem
    obtain rfl := List.mem_singleton.mp mem
    exact ⟨by decide, fun refused =>
      absurd ((refused_iff (readsOnly_parses _)).mp refused) (by decide)⟩
  full := by decide
  accepted refused := absurd ((refused_iff (readsOnly_parses _)).mp refused) (by decide)

/-- Up to the newline behind the frame at the limit. -/
def aroundRun : List Talk :=
  [.send, .handler (.read 4), .handler (.read 4), .handler (.flush 15), .handler .proceed,
    .send, .handler (.read 4), .handler (.read 4), .handler .full, .handler (.flush 15),
    .handler .proceed, .handler (.read 1)]

theorem frames_in_step_around : ∃ w, Run (stopAndWait narrow numbers aroundLimit) aroundRun w ∧
    w.conn.accepted = [frame "1234567", frame "12345678"] ∧ w.conn.phase = .closed ∧
    w.conn.accepted <+: aroundLimit := by
  have orderly : Orderly narrow numbers aroundLimit :=
    orderly_of_first rfl atLimit_around.kept atLimit_around.not_kept (.inl (by decide))
  have run : ∃ w, Run (stopAndWait narrow numbers aroundLimit) aroundRun w ∧
      w.conn.accepted = [frame "1234567", frame "12345678"] ∧ w.conn.phase = .closed :=
    ⟨_, run_iff_exec.mpr rfl, by decide, rfl⟩
  obtain ⟨w, run, accepted, closed⟩ := run
  exact ⟨w, run, accepted, closed,
    (frames_in_step (by decide) (by decide)).mpr orderly _ w run⟩

def longRun : List Talk :=
  [.send, .handler (.read 4), .handler (.read 4), .handler .full, .handler (.flush 15),
    .handler .proceed, .handler (.read 3)]

/-- The first eight digits are acknowledged as a message, and then the other two. -/
theorem long_frame_split :
    ∃ w, Run (stopAndWait narrow numbers [frame "1234567890"]) longRun w ∧
      w.conn.accepted = [frame "12345678", frame "90"] ∧
      ¬ w.conn.accepted <+: [frame "1234567890"] :=
  ⟨_, run_iff_exec.mpr rfl, by decide, by decide⟩

end EdgeGateway.Tcp
