import EdgeGateway.Lib.Text
import Mathlib.Data.List.Induction

/-!
UTF-8 as a transducer over bytes.

`Utf8.decodeIgnore` is `bytes.decode("utf-8", "ignore")`, which skips what does
not decode, and `Utf8.decode?` is the strict `bytes.decode("utf-8")`. Both run
one decoder byte by byte, so a text decoded from the first part of a stream is a
prefix of the text decoded from more of it (`decodeIgnore_prefix`). `decode?`
inverts `encode` and accepts nothing else (`decode?_eq_some_iff`), and an encoded
text is found in any stream (`decodeIgnore_middle`). Every character has one byte
that starts it (`countP_isLead_encode`).
-/

namespace EdgeGateway.Lib

abbrev Bytes := List UInt8

namespace Utf8

/-! ### Decoding -/

/-- A character whose first byte was read: the bytes it still needs, the range
the next one must lie in, and the code so far. -/
structure Pending where
  need : Nat
  low : Nat
  high : Nat
  code : Nat
deriving DecidableEq, Repr

/-- What the decoder makes of one byte. `valid` is false when something was skipped. -/
structure Yield where
  state : Option Pending
  chars : Text
  valid : Bool
deriving DecidableEq, Repr

/-- The first byte of a character. -/
def start (b : Nat) : Yield :=
  if b < 0x80 then ⟨none, [Char.ofNat b], true⟩
  else if 0xC2 ≤ b ∧ b ≤ 0xDF then ⟨some ⟨1, 0x80, 0xBF, b - 0xC0⟩, [], true⟩
  else if b = 0xE0 then ⟨some ⟨2, 0xA0, 0xBF, 0⟩, [], true⟩
  else if b = 0xED then ⟨some ⟨2, 0x80, 0x9F, 0xD⟩, [], true⟩
  else if 0xE1 ≤ b ∧ b ≤ 0xEF then ⟨some ⟨2, 0x80, 0xBF, b - 0xE0⟩, [], true⟩
  else if b = 0xF0 then ⟨some ⟨3, 0x90, 0xBF, 0⟩, [], true⟩
  else if b = 0xF4 then ⟨some ⟨3, 0x80, 0x8F, 4⟩, [], true⟩
  else if 0xF1 ≤ b ∧ b ≤ 0xF3 then ⟨some ⟨3, 0x80, 0xBF, b - 0xF0⟩, [], true⟩
  else ⟨none, [], false⟩

/-- A byte that cannot continue the pending character starts the next one. -/
def feed (state : Option Pending) (b : Nat) : Yield :=
  match state with
  | none => start b
  | some p =>
      if p.low ≤ b ∧ b ≤ p.high then
        let code := p.code * 64 + (b - 0x80)
        if p.need = 1 then ⟨none, [Char.ofNat code], true⟩
        else ⟨some ⟨p.need - 1, 0x80, 0xBF, code⟩, [], true⟩
      else { start b with valid := false }

/-- The state after some bytes. -/
def after (state : Option Pending) (bytes : Bytes) : Option Pending :=
  bytes.foldl (fun s b => (feed s b.toNat).state) state

/-- The characters completed along the way. -/
def decodeFrom : Option Pending → Bytes → Text
  | _, [] => []
  | state, b :: bytes =>
      (feed state b.toNat).chars ++ decodeFrom (feed state b.toNat).state bytes

/-- Nothing is skipped, and no character is left unfinished. -/
def validFrom : Option Pending → Bytes → Bool
  | state, [] => state.isNone
  | state, b :: bytes =>
      (feed state b.toNat).valid && validFrom (feed state b.toNat).state bytes

/-- `bytes.decode("utf-8", "ignore")`. -/
def decodeIgnore (bytes : Bytes) : Text := decodeFrom none bytes

/-- `bytes.decode("utf-8")`, with `none` for `UnicodeError`. -/
def decode? (bytes : Bytes) : Option Text :=
  if validFrom none bytes then some (decodeFrom none bytes) else none

theorem of_decode? {bytes : Bytes} {text : Text} (decoded : decode? bytes = some text) :
    validFrom none bytes = true ∧ decodeIgnore bytes = text := by
  unfold decode? at decoded
  split at decoded
  · rename_i valid
    exact ⟨valid, Option.some.inj decoded⟩
  · cases decoded

theorem decodeFrom_append (state : Option Pending) (xs ys : Bytes) :
    decodeFrom state (xs ++ ys) = decodeFrom state xs ++ decodeFrom (after state xs) ys := by
  induction xs generalizing state with
  | nil => rfl
  | cons b xs ih =>
      have tail := ih (feed state b.toNat).state
      simp only [List.cons_append, decodeFrom, tail, List.append_assoc]
      rfl

/-- More bytes never change the text decoded so far. -/
theorem decodeIgnore_prefix {xs ys : Bytes} (sub : xs <+: ys) :
    decodeIgnore xs <+: decodeIgnore ys := by
  obtain ⟨rest, rfl⟩ := sub
  unfold decodeIgnore
  rw [decodeFrom_append]
  exact List.prefix_append _ _

/-- A byte below 0x80 continues no character. -/
def Live (state : Option Pending) : Prop := ∀ p ∈ state, 0x80 ≤ p.low

theorem start_live (b : Nat) : Live (start b).state := by
  unfold start Live
  split_ifs <;> simp

theorem feed_live {state : Option Pending} (live : Live state) (b : Nat) :
    Live (feed state b).state := by
  cases state with
  | none => exact start_live b
  | some p =>
      unfold feed
      dsimp only
      split
      · split
        · simp [Live]
        · simp [Live]
      · exact start_live b

theorem validFrom_of_concat {state : Option Pending} (live : Live state) {bytes : Bytes} {b : UInt8}
    (ascii : b.toNat < 0x80) (valid : validFrom state (bytes ++ [b]) = true) :
    validFrom state bytes = true := by
  induction bytes generalizing state with
  | nil =>
      cases state with
      | none => rfl
      | some p =>
          have least : 0x80 ≤ p.low := live p rfl
          have outside : ¬ (p.low ≤ b.toNat ∧ b.toNat ≤ p.high) := by omega
          simp [validFrom, feed, outside] at valid
  | cons c bytes ih =>
      simp only [List.cons_append, validFrom, Bool.and_eq_true] at valid ⊢
      exact ⟨valid.1, ih (feed_live live _) valid.2⟩

/-- Trailing ASCII bytes can be taken off. -/
theorem decode?_of_append_ascii {bytes trailing : Bytes} (ascii : ∀ b ∈ trailing, b.toNat < 0x80)
    (valid : (decode? (bytes ++ trailing)).isSome = true) : (decode? bytes).isSome = true := by
  obtain ⟨text, decoded⟩ := Option.isSome_iff_exists.mp valid
  have checked := (of_decode? decoded).1
  have shorter : validFrom none bytes = true := by
    clear valid decoded
    induction trailing using List.reverseRecOn with
    | nil => rwa [List.append_nil] at checked
    | append_singleton trailing b ih =>
        rw [← List.append_assoc] at checked
        exact ih (fun c mem => ascii c (List.mem_append_left _ mem))
          (validFrom_of_concat (by simp [Live]) (ascii b (by simp)) checked)
  simp [decode?, shorter]

/-! ### Encoding -/

/-- The UTF-8 bytes of the code point `n`. -/
def encodeCode (n : Nat) : List Nat :=
  if n < 0x80 then [n]
  else if n < 0x800 then [0xC0 + n / 0x40, 0x80 + n % 0x40]
  else if n < 0x10000 then [0xE0 + n / 0x1000, 0x80 + n / 0x40 % 0x40, 0x80 + n % 0x40]
  else [0xF0 + n / 0x40000, 0x80 + n / 0x1000 % 0x40, 0x80 + n / 0x40 % 0x40, 0x80 + n % 0x40]

def encodeChar (c : Char) : Bytes := (encodeCode c.toNat).map UInt8.ofNat

/-- `text.encode("utf-8")`. -/
def encode (text : Text) : Bytes := text.flatMap encodeChar

theorem encode_append (xs ys : Text) : encode (xs ++ ys) = encode xs ++ encode ys :=
  List.flatMap_append

/-- The decoder on bytes given as numbers. -/
def Reads (state : Option Pending) (codes : List Nat) (chars : Text) (state' : Option Pending) :
    Prop :=
  ∀ rest : Bytes,
    decodeFrom state (codes.map UInt8.ofNat ++ rest) = chars ++ decodeFrom state' rest ∧
      validFrom state (codes.map UInt8.ofNat ++ rest) = validFrom state' rest

/-- A byte that completes a character. -/
theorem Reads.last {state : Option Pending} {b : Nat} {c : Char} (byte : b < 256)
    (fed : feed state b = ⟨none, [c], true⟩) : Reads state [b] [c] none := by
  intro rest
  have same : (UInt8.ofNat b).toNat = b := UInt8.toNat_ofNat_of_lt' byte
  simp [decodeFrom, validFrom, same, fed]

/-- A byte after which the character goes on. -/
theorem Reads.more {state mid state' : Option Pending} {b : Nat} {codes : List Nat} {chars : Text}
    (byte : b < 256) (fed : feed state b = ⟨mid, [], true⟩) (later : Reads mid codes chars state') :
    Reads state (b :: codes) chars state' := by
  intro rest
  have same : (UInt8.ofNat b).toNat = b := UInt8.toNat_ofNat_of_lt' byte
  simpa [decodeFrom, validFrom, same, fed] using later rest

/-- A continuation byte in the middle of a character. -/
theorem feed_middle {need low high code b : Nat} (range : low ≤ b ∧ b ≤ high) :
    feed (some ⟨need + 2, low, high, code⟩) b =
      ⟨some ⟨need + 1, 0x80, 0xBF, code * 64 + (b - 0x80)⟩, [], true⟩ := by
  simp [feed, range]

/-- The last continuation byte of a character. -/
theorem feed_last {low high code b n : Nat} (range : low ≤ b ∧ b ≤ high)
    (total : code * 64 + (b - 0x80) = n) :
    feed (some ⟨1, low, high, code⟩) b = ⟨none, [Char.ofNat n], true⟩ := by
  simp [feed, range, total]

/-- The lead byte of three admits the second byte of every code point. -/
theorem start_three {n : Nat} (lower : 0x800 ≤ n) (upper : n < 0x10000)
    (valid : n < 0xD800 ∨ 0xDFFF < n) :
    ∃ low high, start (0xE0 + n / 0x1000) = ⟨some ⟨2, low, high, n / 0x1000⟩, [], true⟩ ∧
      low ≤ 0x80 + n / 0x40 % 0x40 ∧ 0x80 + n / 0x40 % 0x40 ≤ high := by
  by_cases first : n / 0x1000 = 0
  · exact ⟨0xA0, 0xBF, by rw [first]; rfl, by omega, by omega⟩
  · by_cases surrogate : n / 0x1000 = 0xD
    · exact ⟨0x80, 0x9F, by rw [surrogate]; rfl, by omega, by omega⟩
    · refine ⟨0x80, 0xBF, ?_, by omega, by omega⟩
      unfold start
      rw [if_neg (by omega), if_neg (by omega), if_neg (by omega), if_neg (by omega),
        if_pos (by omega), Nat.add_sub_cancel_left]

/-- The lead byte of four admits the second byte of every code point. -/
theorem start_four {n : Nat} (lower : 0x10000 ≤ n) (upper : n < 0x110000) :
    ∃ low high, start (0xF0 + n / 0x40000) = ⟨some ⟨3, low, high, n / 0x40000⟩, [], true⟩ ∧
      low ≤ 0x80 + n / 0x1000 % 0x40 ∧ 0x80 + n / 0x1000 % 0x40 ≤ high := by
  by_cases first : n / 0x40000 = 0
  · exact ⟨0x90, 0xBF, by rw [first]; rfl, by omega, by omega⟩
  · by_cases last : n / 0x40000 = 4
    · exact ⟨0x80, 0x8F, by rw [last]; rfl, by omega, by omega⟩
    · refine ⟨0x80, 0xBF, ?_, by omega, by omega⟩
      unfold start
      rw [if_neg (by omega), if_neg (by omega), if_neg (by omega), if_neg (by omega),
        if_neg (by omega), if_neg (by omega), if_neg (by omega), if_pos (by omega),
        Nat.add_sub_cancel_left]

/-- **Decoding the bytes of one character yields the character.** -/
theorem reads_encodeCode (c : Char) : Reads none (encodeCode c.toNat) [c] none := by
  have valid : c.toNat < 0xD800 ∨ 0xDFFF < c.toNat ∧ c.toNat < 0x110000 := c.valid
  have back : Char.ofNat c.toNat = c := Char.ofNat_toNat c
  generalize c.toNat = n at valid back
  subst back
  unfold encodeCode
  split
  · rename_i one
    exact .last (by omega) (by simp [feed, start, one])
  · split
    · rename_i two
      have led : feed none (0xC0 + n / 0x40) = ⟨some ⟨1, 0x80, 0xBF, n / 0x40⟩, [], true⟩ := by
        unfold feed start
        rw [if_neg (by omega), if_pos (by omega), Nat.add_sub_cancel_left]
      exact .more (by omega) led (.last (by omega) (feed_last (by omega) (by omega)))
    · split
      · rename_i three
        obtain ⟨low, high, led, range⟩ := start_three (n := n) (by omega) three (by omega)
        refine .more (by omega) led (.more (by omega) (feed_middle range) ?_)
        exact .last (by omega) (feed_last (by omega) (by omega))
      · obtain ⟨low, high, led, range⟩ := start_four (n := n) (by omega) (by omega)
        refine .more (by omega) led (.more (by omega) (feed_middle range) ?_)
        refine .more (by omega) (feed_middle (by omega)) ?_
        exact .last (by omega) (feed_last (by omega) (by omega))

theorem decode?_encode (text : Text) : decode? (encode text) = some text := by
  have both : decodeFrom none (encode text) = text ∧ validFrom none (encode text) = true := by
    induction text with
    | nil => exact ⟨rfl, rfl⟩
    | cons c text ih =>
        obtain ⟨chars, valid⟩ := reads_encodeCode c (encode text)
        exact ⟨chars.trans (by rw [ih.1]; rfl), valid.trans ih.2⟩
  unfold decode?
  rw [both.2, both.1]
  rfl

theorem decodeIgnore_encode (text : Text) : decodeIgnore (encode text) = text :=
  (of_decode? (decode?_encode text)).2

/-- The characters of an encoded text come back, whatever follows. -/
theorem decodeFrom_encode (text : Text) (rest : Bytes) :
    decodeFrom none (encode text ++ rest) = text ++ decodeFrom none rest := by
  induction text with
  | nil => rfl
  | cons c text ih =>
      have first := (reads_encodeCode c (encode text ++ rest)).1
      rw [ih] at first
      have split : encode (c :: text) ++ rest = encodeChar c ++ (encode text ++ rest) := by
        simp [encode]
      rw [split]
      exact first

theorem after_live {state : Option Pending} (live : Live state) (bytes : Bytes) :
    Live (after state bytes) := by
  induction bytes generalizing state with
  | nil => exact live
  | cons b bytes ih => exact ih (feed_live live b.toNat)

/-- An ASCII character is read in every state. -/
theorem feed_ascii {state : Option Pending} (live : Live state) {b : Nat} (ascii : b < 0x80) :
    (feed state b).state = none ∧ (feed state b).chars = [Char.ofNat b] := by
  have fresh : start b = ⟨none, [Char.ofNat b], true⟩ := by simp [start, ascii]
  cases state with
  | none => simp [feed, fresh]
  | some p =>
      have least : 0x80 ≤ p.low := live p rfl
      have outside : ¬ (p.low ≤ b ∧ b ≤ p.high) := by omega
      simp [feed, outside, fresh]

/-- **An encoded text that begins with an ASCII character is found in any stream.** -/
theorem decodeIgnore_middle {c : Char} (ascii : c.toNat < 0x80) (before : Bytes) (text : Text)
    (rest : Bytes) :
    decodeIgnore (before ++ encode (c :: text) ++ rest) =
      decodeIgnore before ++ (c :: text) ++ decodeIgnore rest := by
  have byte : encode (c :: text) = UInt8.ofNat c.toNat :: encode text := by
    have one : encodeCode c.toNat = [c.toNat] := by simp [encodeCode, ascii]
    simp [encode, encodeChar, one]
  have same : (UInt8.ofNat c.toNat).toNat = c.toNat :=
    UInt8.toNat_ofNat_of_lt' (ascii.trans (by decide))
  have live : Live (after none before) := after_live (by simp [Live]) before
  obtain ⟨state, chars⟩ := feed_ascii live ascii
  unfold decodeIgnore
  rw [List.append_assoc, decodeFrom_append, byte, List.cons_append, decodeFrom, same, state, chars,
    decodeFrom_encode, Char.ofNat_toNat]
  simp

/-! ### What decodes is an encoding -/

/-- A valid text goes on from a pending character with a byte in its range. -/
theorem validFrom_pending {p : Pending} {bytes : Bytes} (valid : validFrom (some p) bytes = true) :
    ∃ b rest, bytes = b :: rest ∧ (p.low ≤ b.toNat ∧ b.toNat ≤ p.high) ∧
      validFrom (feed (some p) b.toNat).state rest = true := by
  cases bytes with
  | nil => cases valid
  | cons b rest =>
      simp only [validFrom, Bool.and_eq_true] at valid
      refine ⟨b, rest, rfl, ?_, valid.2⟩
      by_contra outside
      simp [feed, outside] at valid

theorem validFrom_middle {need low high code : Nat} {bytes : Bytes}
    (valid : validFrom (some ⟨need + 2, low, high, code⟩) bytes = true) :
    ∃ b rest, bytes = b :: rest ∧ (low ≤ b.toNat ∧ b.toNat ≤ high) ∧
      validFrom (some ⟨need + 1, 0x80, 0xBF, code * 64 + (b.toNat - 0x80)⟩) rest = true := by
  obtain ⟨b, rest, rfl, range, later⟩ := validFrom_pending valid
  rw [feed_middle range] at later
  exact ⟨b, rest, rfl, range, later⟩

theorem validFrom_last {low high code : Nat} {bytes : Bytes}
    (valid : validFrom (some ⟨1, low, high, code⟩) bytes = true) :
    ∃ b rest, bytes = b :: rest ∧ (low ≤ b.toNat ∧ b.toNat ≤ high) ∧
      validFrom none rest = true := by
  obtain ⟨b, rest, rfl, range, later⟩ := validFrom_pending valid
  rw [feed_last range rfl] at later
  exact ⟨b, rest, rfl, range, later⟩

/-- The bytes are those of the code point `n`. -/
theorem eq_encodeChar {n : Nat} (scalar : n < 0xD800 ∨ 0xDFFF < n ∧ n < 0x110000) {bytes : Bytes}
    (codes : encodeCode n = bytes.map UInt8.toNat) : bytes = encodeChar (Char.ofNat n) := by
  have code : (Char.ofNat n).toNat = n := by
    have valid : n.isValidChar := scalar
    calc (Char.ofNat n).toNat = (Char.ofNatAux n valid).toNat := congrArg Char.toNat (dif_pos valid)
      _ = n := rfl
  rw [encodeChar, code, codes, List.map_map]
  simp [Function.comp_def]

/-- The bytes begin with those of a character, and the rest is valid. -/
def Leads (bytes : Bytes) : Prop :=
  ∃ c rest, bytes = encodeChar c ++ rest ∧ validFrom none rest = true

theorem leads_two {b : UInt8} {bytes : Bytes} (lead : 0xC2 ≤ b.toNat ∧ b.toNat ≤ 0xDF)
    (valid : validFrom (some ⟨1, 0x80, 0xBF, b.toNat - 0xC0⟩) bytes = true) :
    Leads (b :: bytes) := by
  obtain ⟨b₁, rest, rfl, range, later⟩ := validFrom_last valid
  have char : [b, b₁] = encodeChar (.ofNat ((b.toNat - 0xC0) * 64 + (b₁.toNat - 0x80))) := by
    apply eq_encodeChar
    · omega
    · unfold encodeCode
      rw [if_neg (by omega), if_pos (by omega)]
      simp only [List.map_cons, List.map_nil, List.cons.injEq, and_true]
      omega
  exact ⟨_, rest, congrArg (· ++ rest) char, later⟩

/-- The second byte keeps the code point above 0x7FF and off the surrogates. -/
theorem leads_three {b : UInt8} {low high : Nat} {bytes : Bytes}
    (lead : 0xE0 ≤ b.toNat ∧ b.toNat ≤ 0xEF) (within : 0x80 ≤ low ∧ high ≤ 0xBF)
    (least : b.toNat = 0xE0 → 0xA0 ≤ low) (surrogate : b.toNat = 0xED → high ≤ 0x9F)
    (valid : validFrom (some ⟨2, low, high, b.toNat - 0xE0⟩) bytes = true) :
    Leads (b :: bytes) := by
  obtain ⟨b₁, bytes, rfl, range, valid⟩ := validFrom_middle valid
  obtain ⟨b₂, rest, rfl, tail, later⟩ := validFrom_last valid
  have char : [b, b₁, b₂] = encodeChar (.ofNat
      (((b.toNat - 0xE0) * 64 + (b₁.toNat - 0x80)) * 64 + (b₂.toNat - 0x80))) := by
    apply eq_encodeChar
    · omega
    · unfold encodeCode
      rw [if_neg (by omega), if_neg (by omega), if_pos (by omega)]
      simp only [List.map_cons, List.map_nil, List.cons.injEq, and_true]
      omega
  exact ⟨_, rest, congrArg (· ++ rest) char, later⟩

/-- The second byte keeps the code point between 0xFFFF and 0x110000. -/
theorem leads_four {b : UInt8} {low high : Nat} {bytes : Bytes}
    (lead : 0xF0 ≤ b.toNat ∧ b.toNat ≤ 0xF4) (within : 0x80 ≤ low ∧ high ≤ 0xBF)
    (least : b.toNat = 0xF0 → 0x90 ≤ low) (greatest : b.toNat = 0xF4 → high ≤ 0x8F)
    (valid : validFrom (some ⟨3, low, high, b.toNat - 0xF0⟩) bytes = true) :
    Leads (b :: bytes) := by
  obtain ⟨b₁, bytes, rfl, range, valid⟩ := validFrom_middle valid
  obtain ⟨b₂, bytes, rfl, tail, valid⟩ := validFrom_middle valid
  obtain ⟨b₃, rest, rfl, tail', later⟩ := validFrom_last valid
  have char : [b, b₁, b₂, b₃] = encodeChar (.ofNat
      ((((b.toNat - 0xF0) * 64 + (b₁.toNat - 0x80)) * 64 + (b₂.toNat - 0x80)) * 64 +
        (b₃.toNat - 0x80))) := by
    apply eq_encodeChar
    · omega
    · unfold encodeCode
      rw [if_neg (by omega), if_neg (by omega), if_neg (by omega)]
      simp only [List.map_cons, List.map_nil, List.cons.injEq, and_true]
      omega
  exact ⟨_, rest, congrArg (· ++ rest) char, later⟩

/-- **A valid text begins with the bytes of a character.** -/
theorem leads_of_valid {b : UInt8} {bytes : Bytes} (valid : validFrom none (b :: bytes) = true) :
    Leads (b :: bytes) := by
  have led : (start b.toNat).valid = true ∧ validFrom (start b.toNat).state bytes = true := by
    simpa [validFrom, feed] using valid
  have byte := b.toNat_lt
  -- One case for each kind of first byte.
  clear valid
  unfold start at led
  split at led
  · rename_i ascii
    have char : [b] = encodeChar (.ofNat b.toNat) :=
      eq_encodeChar (by omega) (by simp [encodeCode, ascii])
    exact ⟨_, bytes, congrArg (· ++ bytes) char, led.2⟩
  split at led
  · exact leads_two (by assumption) led.2
  split at led
  · rw [show 0 = b.toNat - 0xE0 by omega] at led
    exact leads_three (by omega) (by omega) (by omega) (by omega) led.2
  split at led
  · rw [show 0xD = b.toNat - 0xE0 by omega] at led
    exact leads_three (by omega) (by omega) (by omega) (by omega) led.2
  split at led
  · exact leads_three (by omega) (by omega) (by omega) (by omega) led.2
  split at led
  · rw [show 0 = b.toNat - 0xF0 by omega] at led
    exact leads_four (by omega) (by omega) (by omega) (by omega) led.2
  split at led
  · rw [show 4 = b.toNat - 0xF0 by omega] at led
    exact leads_four (by omega) (by omega) (by omega) (by omega) led.2
  split at led
  · exact leads_four (by omega) (by omega) (by omega) (by omega) led.2
  · cases led.1

/-- **The strict decoder accepts the encodings and nothing else.** -/
theorem decode?_eq_some_iff {bytes : Bytes} {text : Text} :
    decode? bytes = some text ↔ bytes = encode text := by
  have encoding : ∀ bytes, validFrom none bytes = true → ∃ text, bytes = encode text := by
    intro bytes
    induction size : bytes.length using Nat.strongRecOn generalizing bytes with
    | ind n ih =>
        intro valid
        cases bytes with
        | nil => exact ⟨[], rfl⟩
        | cons b bytes =>
            obtain ⟨c, rest, split, later⟩ := leads_of_valid valid
            have shorter : rest.length < n := by
              have nonempty : 0 < (encodeChar c).length := by
                unfold encodeChar encodeCode
                split_ifs <;> simp
              rw [← size, split, List.length_append]
              omega
            obtain ⟨text, rfl⟩ := ih _ shorter rest rfl later
            exact ⟨c :: text, split⟩
  constructor
  · intro decoded
    obtain ⟨text', rfl⟩ := encoding bytes (of_decode? decoded).1
    rw [decode?_encode] at decoded
    exact congrArg encode (Option.some.inj decoded)
  · rintro rfl
    exact decode?_encode text

/-! ### Bytes and characters -/

/-- The byte starts a character. -/
def isLead (b : UInt8) : Bool := b.toNat < 0x80 || 0xC0 ≤ b.toNat

/-- A byte below 0x80 is a code point of its own. -/
theorem mem_encodeCode {n b : Nat} (valid : n < 0x110000) (mem : b ∈ encodeCode n) :
    b = n ∧ n < 0x80 ∨ 0x80 ≤ b ∧ b < 0x100 := by
  unfold encodeCode at mem
  split at mem
  · exact .inl ⟨List.mem_singleton.mp mem, by assumption⟩
  · right
    split_ifs at mem <;> simp only [List.mem_cons, List.not_mem_nil, or_false] at mem <;> omega

theorem toNat_lt (c : Char) : c.toNat < 0x110000 := by
  have valid : c.toNat < 0xD800 ∨ 0xDFFF < c.toNat ∧ c.toNat < 0x110000 := c.valid
  omega

/-- The bytes of a text below 0x80 are its characters of that code. -/
theorem mem_of_ascii_mem_encode {text : Text} {b : UInt8} (ascii : b.toNat < 0x80)
    (mem : b ∈ encode text) : Char.ofNat b.toNat ∈ text := by
  obtain ⟨c, inText, inChar⟩ := List.mem_flatMap.mp mem
  obtain ⟨code, inCode, rfl⟩ := List.mem_map.mp inChar
  rcases mem_encodeCode (toNat_lt c) inCode with ⟨rfl, small⟩ | ⟨high, byte⟩
  · have same : (UInt8.ofNat c.toNat).toNat = c.toNat :=
      UInt8.toNat_ofNat_of_lt' (small.trans (by decide))
    rwa [same, Char.ofNat_toNat]
  · have same : (UInt8.ofNat code).toNat = code := UInt8.toNat_ofNat_of_lt' byte
    omega

theorem ascii_mem_encode {text : Text} {c : Char} (ascii : c.toNat < 0x80) (mem : c ∈ text) :
    UInt8.ofNat c.toNat ∈ encode text := by
  refine List.mem_flatMap.mpr ⟨c, mem, ?_⟩
  simp [encodeChar, encodeCode, ascii]

theorem isLead_ofNat {b : Nat} (byte : b < 0x100) :
    isLead (UInt8.ofNat b) = decide (b < 0x80 ∨ 0xC0 ≤ b) := by
  have same : (UInt8.ofNat b).toNat = b := UInt8.toNat_ofNat_of_lt' byte
  simp [isLead, same]

theorem countP_isLead_encodeCode {n : Nat} (valid : n < 0x110000) :
    ((encodeCode n).map UInt8.ofNat).countP isLead = 1 := by
  have low : ∀ k, isLead (UInt8.ofNat (0x80 + k % 0x40)) = false := by
    intro k
    rw [isLead_ofNat (by omega)]
    exact decide_eq_false (by omega)
  have lead : ∀ b, b < 0x100 → (b < 0x80 ∨ 0xC0 ≤ b) → isLead (UInt8.ofNat b) = true := by
    intro b byte range
    rw [isLead_ofNat byte]
    exact decide_eq_true range
  unfold encodeCode
  split_ifs
  · simp [lead n (by omega) (by omega)]
  · simp only [List.map_cons, List.map_nil, List.countP_cons, List.countP_nil, low,
      Bool.false_eq_true, if_false, if_true, Nat.zero_add, Nat.add_zero,
      lead (0xC0 + n / 0x40) (by omega) (by omega)]
  · simp only [List.map_cons, List.map_nil, List.countP_cons, List.countP_nil, low,
      Bool.false_eq_true, if_false, if_true, Nat.zero_add, Nat.add_zero,
      lead (0xE0 + n / 0x1000) (by omega) (by omega)]
  · simp only [List.map_cons, List.map_nil, List.countP_cons, List.countP_nil, low,
      Bool.false_eq_true, if_false, if_true, Nat.zero_add, Nat.add_zero,
      lead (0xF0 + n / 0x40000) (by omega) (by omega)]

/-- An encoded character has one byte that starts a character. -/
theorem countP_isLead_encode (text : Text) : (encode text).countP isLead = text.length := by
  induction text with
  | nil => rfl
  | cons c text ih =>
      have one : (encodeChar c).countP isLead = 1 := countP_isLead_encodeCode (toNat_lt c)
      have split : encode (c :: text) = encodeChar c ++ encode text := rfl
      rw [split, List.countP_append, one, ih, List.length_cons, Nat.add_comm]

/-- Every decoded character has one byte that starts it. -/
theorem length_of_decode? {bytes : Bytes} {text : Text} (decoded : decode? bytes = some text) :
    text.length = bytes.countP isLead := by
  rw [decode?_eq_some_iff.mp decoded, countP_isLead_encode]

/-- A text has at least a byte for every character, and exactly that many when it is ASCII. -/
theorem length_le_length_encode (text : Text) : text.length ≤ (encode text).length := by
  rw [← countP_isLead_encode]
  exact List.countP_le_length

theorem length_encode_eq_iff {text : Text} :
    (encode text).length = text.length ↔ ∀ c ∈ text, c.toNat < 0x80 := by
  induction text with
  | nil => simp [encode]
  | cons c text ih =>
      have split : encode (c :: text) = encodeChar c ++ encode text := rfl
      have atLeast := length_le_length_encode text
      rw [split, List.length_append, List.length_cons]
      by_cases ascii : c.toNat < 0x80
      · have one : (encodeChar c).length = 1 := by simp [encodeChar, encodeCode, ascii]
        rw [one, List.forall_mem_cons, ← ih]
        omega
      · have more : 2 ≤ (encodeChar c).length := by
          unfold encodeChar encodeCode
          split_ifs <;> simp
        constructor
        · intro same
          omega
        · intro all
          exact absurd (all c (by simp)) ascii

end Utf8

end EdgeGateway.Lib
