import EdgeGateway.Lib.Seq
import EdgeGateway.Tcp.Server
import Mathlib.Algebra.Order.BigOperators.Group.List
import Mathlib.Algebra.Order.Ring.Nat

/-!
Framing and deframing on a persistent connection.

A client sends frames, each followed by a newline, and the connection delivers
the stream in chunks. `readMessage` keeps what precedes the first newline of a
chunk and drops the rest of it, so the frames come through exactly when no chunk
reaches beyond a newline (`frames_handled_iff`). A single message is read the
same way from any chunks, with its newline or without (`read_identically`).
-/

namespace EdgeGateway.Tcp

open EdgeGateway.Lib EdgeGateway.Mqtt

variable {cfg : Config} {codec : Codec}

/-- A frame as a client may send it. -/
structure Frame (cfg : Config) (frame : Bytes) : Prop where
  nonempty : frame ≠ []
  oneLine : newline ∉ frame
  utf8 : (Utf8.decode? frame).isSome = true
  fits : frame.length < cfg.maxMessageSize

instance (frame : Bytes) : Decidable (Frame cfg frame) :=
  decidable_of_iff (frame ≠ [] ∧ newline ∉ frame ∧ (Utf8.decode? frame).isSome = true ∧
      frame.length < cfg.maxMessageSize)
    ⟨fun ⟨nonempty, oneLine, utf8, fits⟩ => ⟨nonempty, oneLine, utf8, fits⟩,
      fun isFrame => ⟨isFrame.nonempty, isFrame.oneLine, isFrame.utf8, isFrame.fits⟩⟩

/-- The frames on the wire, each followed by a newline. -/
def stream (frames : List Bytes) : Bytes := frames.flatMap (· ++ [newline])

def frame (text : String) : Bytes := Utf8.encode text.toList

/-- The chunk does not reach beyond a newline. -/
def Aligned (chunk : Bytes) : Prop := newline ∉ chunk.dropLast

instance (chunk : Bytes) : Decidable (Aligned chunk) := inferInstanceAs (Decidable (¬ _))

/-! ### Aligned chunks lose nothing -/

theorem beforeNewline_append {data : Bytes} (plain : newline ∉ data) (more : Bytes) :
    beforeNewline (data ++ more) = data ++ beforeNewline more := by
  unfold beforeNewline
  rw [List.takeWhile_append_of_pos]
  intro b mem
  have other : b ≠ newline := fun same => plain (same ▸ mem)
  simpa using other

theorem beforeNewline_newline (more : Bytes) : beforeNewline (newline :: more) = [] := by
  simp [beforeNewline]

theorem beforeNewline_plain {data : Bytes} (plain : newline ∉ data) :
    beforeNewline data = data := by
  have whole := beforeNewline_append plain []
  simpa [beforeNewline] using whole

/-- An aligned chunk with a newline ends with it and holds no other. -/
theorem Aligned.split {chunk : Bytes} (aligned : Aligned chunk) (mem : newline ∈ chunk) :
    ∃ pre, chunk = pre ++ [newline] ∧ newline ∉ pre := by
  rcases List.eq_nil_or_concat chunk with rfl | ⟨pre, last, rfl⟩
  · cases mem
  · rw [List.concat_eq_append] at aligned mem ⊢
    have plain : newline ∉ pre := by simpa [Aligned] using aligned
    refine ⟨pre, ?_, plain⟩
    rcases List.mem_append.mp mem with early | isLast
    · exact absurd early plain
    · rw [List.mem_singleton.mp isLast]

/-- A frame is read from the aligned chunks that hold it, and no byte behind it. -/
theorem readMessage_frame {frame rest : Bytes} (oneLine : newline ∉ frame)
    (fits : frame.length < cfg.maxMessageSize) {chunks : List Bytes} {data : Bytes}
    (plain : newline ∉ data) (split : data ++ chunks.flatten = frame ++ newline :: rest)
    (nonempty : ∀ c ∈ chunks, c ≠ []) (aligned : ∀ c ∈ chunks, Aligned c) :
    ∃ later, readMessage cfg data (chunks.map some) = (frame, later.map some) ∧
      later.flatten = rest ∧ later <:+ chunks := by
  induction chunks generalizing data with
  | nil =>
      rw [List.flatten_nil, List.append_nil] at split
      exact absurd (split ▸ by simp) plain
  | cons chunk chunks ih =>
      have short : data.length < cfg.maxMessageSize := by
        have parts := congrArg beforeNewline split
        rw [beforeNewline_append plain, beforeNewline_append oneLine, beforeNewline_newline,
          List.append_nil] at parts
        have := congrArg List.length parts
        rw [List.length_append] at this
        omega
      rw [List.flatten_cons, ← List.append_assoc] at split
      cases chunk with
      | nil => exact absurd rfl (nonempty [] (by simp))
      | cons b bs =>
          simp only [List.map_cons, readMessage, short, if_true]
          by_cases mem : newline ∈ b :: bs
          · obtain ⟨pre, ends, prePlain⟩ := (aligned _ (by simp)).split mem
            rw [if_pos mem, ends]
            rw [ends, ← List.append_assoc, List.append_assoc, List.singleton_append] at split
            have both : newline ∉ data ++ pre := by simp [plain, prePlain]
            obtain ⟨same, tail⟩ := first_split both oneLine split
            refine ⟨chunks, ?_, tail, List.suffix_cons _ _⟩
            rw [← List.append_assoc, beforeNewline_append both, beforeNewline_newline,
              List.append_nil, same]
          · rw [if_neg mem]
            have both : newline ∉ data ++ b :: bs := by
              rw [List.mem_append]
              exact fun either => either.elim plain mem
            obtain ⟨later, read, tail, suffix⟩ := ih both split
              (fun c hc => nonempty c (List.mem_cons_of_mem _ hc))
              fun c hc => aligned c (List.mem_cons_of_mem _ hc)
            exact ⟨later, read, tail, suffix.trans (List.suffix_cons _ _)⟩

/-! ### Framed and legacy messages -/

/-- Chunks without a newline only add to the data, up to the limit. -/
theorem readMessage_plain {chunks : List Bytes} {data : Bytes} (plain : newline ∉ chunks.flatten)
    (nonempty : ∀ c ∈ chunks, c ≠ []) (fits : (data ++ chunks.flatten).length ≤ cfg.maxMessageSize)
    (later : List (Option Bytes)) :
    readMessage cfg data (chunks.map some ++ later) =
      readMessage cfg (data ++ chunks.flatten) later := by
  induction chunks generalizing data with
  | nil => simp
  | cons chunk chunks ih =>
      rw [List.flatten_cons] at plain fits ⊢
      rw [← List.append_assoc] at fits ⊢
      obtain ⟨here, rest⟩ : newline ∉ chunk ∧ newline ∉ chunks.flatten := by simpa using plain
      cases chunk with
      | nil => exact absurd rfl (nonempty [] (by simp))
      | cons b bs =>
          have short : data.length < cfg.maxMessageSize := by
            simp only [List.length_append, List.length_cons] at fits
            omega
          simp only [List.map_cons, List.cons_append, readMessage, short, here, if_true, if_false]
          exact ih rest (fun c mem => nonempty c (List.mem_cons_of_mem _ mem)) fits

/-- A line shorter than the limit is read up to its newline, and no read more. -/
theorem readMessage_line {m : Bytes} (oneLine : newline ∉ m) (fits : m.length < cfg.maxMessageSize)
    {chunks : List Bytes} (nonempty : ∀ c ∈ chunks, c ≠ [])
    (split : chunks.flatten = m ++ [newline])
    (later : List (Option Bytes)) :
    readMessage cfg [] (chunks.map some ++ later) = (m, later) := by
  rcases List.eq_nil_or_concat chunks with rfl | ⟨front, last, rfl⟩
  · cases m <;> cases split
  · rw [List.concat_eq_append] at nonempty split ⊢
    have isCons : last ≠ [] := nonempty last (by simp)
    obtain ⟨pre, b, rfl⟩ := (List.eq_nil_or_concat last).resolve_left isCons
    rw [List.concat_eq_append] at split isCons ⊢
    rw [List.flatten_append, List.flatten_singleton, ← List.append_assoc] at split
    obtain ⟨whole, ends⟩ := List.append_inj' split rfl
    obtain rfl : b = newline := List.singleton_inj.mp ends
    have plain : newline ∉ front.flatten ∧ newline ∉ pre := by simpa [← whole] using oneLine
    have short : front.flatten.length < cfg.maxMessageSize := by
      rw [← whole, List.length_append] at fits
      omega
    rw [List.map_append, List.append_assoc, readMessage_plain plain.1
      (fun c mem => nonempty c (List.mem_append_left _ mem)) short.le, List.nil_append]
    cases tail : pre ++ [newline] with
    | nil => exact absurd tail isCons
    | cons b bs =>
        have hit : newline ∈ b :: bs := tail ▸ by simp
        simp only [List.map_singleton, List.singleton_append, readMessage, short, hit, if_true]
        rw [← tail, ← List.append_assoc, whole, beforeNewline_append oneLine, beforeNewline_newline,
          List.append_nil]

/-- A text that no newline follows is read when the next read ends the message. -/
theorem readMessage_unframed {m : Bytes} (oneLine : newline ∉ m)
    (fits : m.length ≤ cfg.maxMessageSize)
    {chunks : List Bytes} (nonempty : ∀ c ∈ chunks, c ≠ []) (split : chunks.flatten = m)
    {stop : Option Bytes} (stops : stop = none ∨ stop = some []) (later : List (Option Bytes)) :
    (readMessage cfg [] (chunks.map some ++ stop :: later)).1 = m := by
  subst split
  rw [readMessage_plain oneLine nonempty fits, List.nil_append]
  unfold readMessage
  split
  · rcases stops with rfl | rfl <;> rfl
  · rfl

/-- **A framed and a legacy message are read identically, from any chunks.** -/
theorem read_identically {m : Bytes} (oneLine : newline ∉ m) {chunks : List Bytes}
    (nonempty : ∀ c ∈ chunks, c ≠ []) (later : List (Option Bytes)) :
    (m.length + 1 ≤ cfg.maxMessageSize → chunks.flatten = m ++ [newline] →
        readMessage cfg [] (chunks.map some ++ later) = (m, later)) ∧
      (m.length ≤ cfg.maxMessageSize → chunks.flatten = m →
        ∀ stop, stop = none ∨ stop = some [] →
          (readMessage cfg [] (chunks.map some ++ stop :: later)).1 = m) :=
  ⟨fun fits split => readMessage_line oneLine fits nonempty split later,
    fun fits split _ stops => readMessage_unframed oneLine fits nonempty split stops later⟩

theorem read_identically_two :
    readMessage .shipped [] ([frame "1", frame "2\n"].map some ++ [none]) = (frame "12", [none]) ∧
      (readMessage .shipped [] ([frame "1", frame "2"].map some ++ none :: [])).1 = frame "12" :=
  ⟨(read_identically (m := frame "12") (by decide) (by decide) [none]).1 (by decide) (by decide),
    (read_identically (m := frame "12") (by decide) (by decide) []).2 (by decide) (by decide) none
      (.inl rfl)⟩

/-! ### Frames on a persistent connection -/

/-- A frame gets its acknowledgement. -/
theorem Frame.received (parses : Codec.Parses codec) {frame : Bytes} (isFrame : Frame cfg frame) :
    ∃ received, receive codec frame = some received ∧ received.data = frame := by
  obtain ⟨trailing, ascii, split⟩ := rstrip_split frame
  have utf8 := isFrame.utf8
  rw [split] at utf8
  obtain ⟨payload, decoded⟩ := Option.isSome_iff_exists.mp (Utf8.decode?_of_append_ascii ascii utf8)
  obtain ⟨received, read⟩ := receive_of_parses parses decoded
  exact ⟨received, read, (receive_spec read).1⟩

/-- **Aligned chunks deliver every frame.** -/
theorem frames_of_aligned (parses : Codec.Parses codec) {frames : List Bytes}
    (valid : ∀ f ∈ frames, Frame cfg f) {chunks : List Bytes}
    (split : chunks.flatten = stream frames) (nonempty : ∀ c ∈ chunks, c ≠ [])
    (aligned : ∀ c ∈ chunks, Aligned c) :
    (handle cfg codec (chunks.map some)).map Received.data = frames := by
  induction frames generalizing chunks with
  | nil =>
      cases chunks with
      | nil => rfl
      | cons chunk chunks =>
          have empty : chunk ++ chunks.flatten = [] := split
          exact absurd (List.append_eq_nil_iff.mp empty).1 (nonempty chunk (by simp))
  | cons frame frames ih =>
      have isFrame := valid frame (by simp)
      have first : [] ++ chunks.flatten = frame ++ newline :: stream frames := by
        simpa [stream] using split
      obtain ⟨later, read, tail, suffix⟩ :=
        readMessage_frame isFrame.oneLine isFrame.fits (by simp) first nonempty aligned
      obtain ⟨received, decoded, same⟩ := isFrame.received parses
      have rest := ih (fun f mem => valid f (List.mem_cons_of_mem _ mem)) tail
        (fun c mem => nonempty c (suffix.subset mem)) fun c mem => aligned c (suffix.subset mem)
      rw [handle_eq, read]
      cases frame with
      | nil => exact absurd rfl isFrame.nonempty
      | cons b bs =>
          dsimp only
          rw [decoded]
          simp only [List.map_cons, same, rest]

/-! ### What the messages weigh -/

/-- The bytes of the chunks that can become part of a message. -/
def weight (reads : List (Option Bytes)) : Nat :=
  (reads.map fun read => (beforeNewline (read.getD [])).length).sum

theorem weight_cons (read : Option Bytes) (reads : List (Option Bytes)) :
    weight (read :: reads) = (beforeNewline (read.getD [])).length + weight reads := rfl

/-- A message weighs no more than the reads it was taken from. -/
theorem readMessage_weight (reads : List (Option Bytes)) {data : Bytes} (plain : newline ∉ data) :
    (readMessage cfg data reads).1.length + weight (readMessage cfg data reads).2 ≤
      data.length + weight reads := by
  induction reads generalizing data with
  | nil => exact le_refl _
  | cons read later ih =>
      unfold readMessage
      rw [weight_cons]
      split
      · cases read with
        | none => dsimp only; omega
        | some chunk =>
            cases chunk with
            | nil => dsimp only; omega
            | cons b bs =>
                dsimp only [Option.getD_some]
                split
                · dsimp only
                  rw [beforeNewline_append plain, List.length_append]
                  omega
                · rename_i noNewline
                  have both : newline ∉ data ++ b :: bs := by
                    rw [List.mem_append]
                    exact fun either => either.elim plain noNewline
                  have rest := ih both
                  rw [List.length_append] at rest
                  rw [beforeNewline_plain noNewline]
                  omega
      · rw [weight_cons]

/-- **The messages weigh no more than the reads.** -/
theorem handle_weight (fuel : Nat) (reads : List (Option Bytes)) :
    ((handleFor cfg codec fuel reads).map fun r => r.data.length).sum ≤ weight reads := by
  induction fuel generalizing reads with
  | zero => exact Nat.zero_le _
  | succ fuel ih =>
      have step := @readMessage_weight cfg reads [] (by simp)
      unfold handleFor
      cases message : readMessage cfg [] reads with
      | mk data later =>
          rw [message] at step
          cases data with
          | nil => exact Nat.zero_le _
          | cons b bs =>
              dsimp only
              cases decoded : receive codec (b :: bs) with
              | none => exact Nat.zero_le _
              | some received =>
                  have rest := ih later
                  simp only [List.map_cons, List.sum_cons, (receive_spec decoded).1]
                  dsimp only [List.length_nil] at step
                  omega

/-! ### A chunk beyond a newline loses bytes -/

/-- The bytes of a chunk other than newlines. -/
def content (chunk : Bytes) : Nat := (chunk.filter (· ≠ newline)).length

theorem content_append (left right : Bytes) :
    content (left ++ right) = content left + content right := by
  simp [content]

theorem content_plain {data : Bytes} (plain : newline ∉ data) : content data = data.length := by
  rw [content, filter_ne_eq_self plain]

theorem content_stream {frames : List Bytes} (oneLine : ∀ f ∈ frames, newline ∉ f) :
    content (stream frames) = (frames.map List.length).sum := by
  induction frames with
  | nil => rfl
  | cons frame frames ih =>
      have rest := ih fun f mem => oneLine f (List.mem_cons_of_mem _ mem)
      have shape :
        stream (frame :: frames) = frame ++ ([newline] ++ stream frames) := by simp [stream]
      rw [shape, content_append, content_append, content_plain (oneLine frame (by simp)), rest]
      simp [content]

theorem content_flatten (chunks : List Bytes) :
    content chunks.flatten = (chunks.map content).sum := by
  induction chunks with
  | nil => rfl
  | cons chunk chunks ih => rw [List.flatten_cons, content_append, ih, List.map_cons, List.sum_cons]

/-- What precedes the first newline, and the rest. -/
theorem beforeNewline_split (chunk : Bytes) :
    ∃ rest, chunk = beforeNewline chunk ++ rest ∧ newline ∉ beforeNewline chunk ∧
      (newline ∈ chunk → ∃ more, rest = newline :: more) := by
  refine ⟨chunk.dropWhile (· ≠ newline), List.takeWhile_append_dropWhile.symm, ?_, ?_⟩
  · intro mem
    have other := List.mem_takeWhile_imp mem
    simp at other
  · intro mem
    cases tail : chunk.dropWhile (· ≠ newline) with
    | nil =>
        have other := List.dropWhile_eq_nil_iff.mp tail newline mem
        simp at other
    | cons b more =>
        have stop := List.head?_dropWhile_not (· ≠ newline) chunk
        rw [tail] at stop
        have same : b = newline := by simpa using stop
        exact ⟨more, by rw [same]⟩

theorem beforeNewline_le_content (chunk : Bytes) :
    (beforeNewline chunk).length ≤ content chunk := by
  obtain ⟨rest, split, plain, -⟩ := beforeNewline_split chunk
  calc (beforeNewline chunk).length
      = content (beforeNewline chunk) := (content_plain plain).symm
    _ ≤ content (beforeNewline chunk) + content rest := Nat.le_add_right _ _
    _ = content chunk := by rw [← content_append, ← split]

/-- Frames are not empty, so no two newlines are adjacent on the wire. -/
theorem no_adjacent_newlines {frames : List Bytes} (valid : ∀ f ∈ frames, Frame cfg f)
    (before after : Bytes) : stream frames ≠ before ++ newline :: newline :: after := by
  have lines : (stream frames).splitOn newline = frames ++ [[]] := by
    clear before after
    induction frames with
    | nil => rfl
    | cons frame frames ih =>
        have rest := ih fun f mem => valid f (List.mem_cons_of_mem _ mem)
        have shape :
          stream (frame :: frames) = frame ++ newline :: stream frames := by simp [stream]
        rw [shape, List.splitOn_append_cons_self, rest,
          List.splitOn_eq_singleton (valid frame (by simp)).oneLine]
        rfl
  intro same
  rw [same, List.splitOn_append_cons_self] at lines
  have cut : (newline :: after).splitOn newline = [] :: after.splitOn newline :=
    List.splitOn_append_cons_self [] after
  rw [cut] at lines
  obtain ⟨front, last, tail⟩ := List.eq_nil_or_concat (after.splitOn newline) |>.resolve_left
    (List.splitOn_ne_nil newline after)
  rw [tail, List.concat_eq_append, ← List.cons_append, ← List.append_assoc] at lines
  obtain ⟨same, -⟩ := List.append_inj' lines rfl
  have empty : ([] : Bytes) ∈ frames := same ▸ by simp
  exact (valid [] empty).nonempty rfl

/-- A chunk that reaches beyond a newline holds content behind it. -/
theorem beforeNewline_lt_content {frames : List Bytes} (valid : ∀ f ∈ frames, Frame cfg f)
    {chunks : List Bytes} (split : chunks.flatten = stream frames) {chunk : Bytes}
    (mem : chunk ∈ chunks) (beyond : ¬ Aligned chunk) :
    (beforeNewline chunk).length < content chunk := by
  have inside : newline ∈ chunk.dropLast := not_not.mp beyond
  obtain ⟨rest, cut, plain, ends⟩ := beforeNewline_split chunk
  obtain ⟨more, rfl⟩ := ends (List.dropLast_subset chunk inside)
  obtain ⟨front, back, whole⟩ := List.append_of_mem mem
  cases more with
  | nil =>
      rw [cut, List.dropLast_concat] at inside
      exact absurd inside plain
  | cons b more =>
      have other : b ≠ newline := by
        rintro rfl
        refine no_adjacent_newlines valid (front.flatten ++ beforeNewline chunk)
          (more ++ back.flatten) ?_
        rw [← split, whole, List.flatten_append, List.flatten_cons]
        nth_rewrite 1 [cut]
        simp
      have total : content chunk = (beforeNewline chunk).length + (content more + 1) := by
        nth_rewrite 1 [cut]
        rw [content_append, content_plain plain]
        simp [content, other]
      omega

/-- **The handler acknowledges and processes exactly the frames, in order and
each once, if and only if no chunk reaches beyond a newline.** -/
theorem frames_handled_iff (parses : Codec.Parses codec) {frames : List Bytes}
    (valid : ∀ f ∈ frames, Frame cfg f) {chunks : List Bytes}
    (split : chunks.flatten = stream frames) (nonempty : ∀ c ∈ chunks, c ≠ []) :
    (handle cfg codec (chunks.map some)).map Received.data = frames ↔
      ∀ c ∈ chunks, Aligned c := by
  constructor
  · intro handled chunk mem
    by_contra beyond
    have heavy := @handle_weight cfg codec (chunks.map some).length (chunks.map some)
    have lost : weight (chunks.map some) < (chunks.map content).sum := by
      unfold weight
      rw [List.map_map]
      exact List.sum_lt_sum _ _ (fun c _ => beforeNewline_le_content c)
        ⟨chunk, mem, beforeNewline_lt_content valid split mem beyond⟩
    have total : ((handleFor cfg codec (chunks.map some).length (chunks.map some)).map
        fun r => r.data.length).sum = (frames.map List.length).sum := by
      rw [← handled, List.map_map]
      rfl
    rw [total, ← content_stream fun f hf => (valid f hf).oneLine, ← split, content_flatten] at heavy
    omega
  · exact frames_of_aligned parses valid split nonempty

/-- A runtime whose only JSON texts are the numbers 1 and 2. -/
def twoCodec : Codec := readsOnly [("1".toList, .int 1), ("2".toList, .int 2)]

theorem frames_handled_iff_two :
    (handle .shipped twoCodec ([frame "1\n", frame "2\n"].map some)).map Received.data =
        [frame "1", frame "2"] ↔
      ∀ c ∈ [frame "1\n", frame "2\n"], Aligned c :=
  frames_handled_iff (readsOnly_parses _) (by decide) (by decide) (by decide)

/-- Two frames in one chunk: the second is lost. -/
theorem second_frame_lost :
    (∀ f ∈ [frame "1", frame "2"], Frame .shipped f) ∧
      [frame "1\n2\n"].flatten = stream [frame "1", frame "2"] ∧
      (∀ c ∈ [frame "1\n2\n"], c ≠ [] ∧ c.length ≤ Config.shipped.readSize) ∧
      (handle .shipped twoCodec ([frame "1\n2\n"].map some)).map Received.data ≠
        [frame "1", frame "2"] := by
  decide

end EdgeGateway.Tcp
