import EdgeGateway.Lib.Seq
import Mathlib.Data.List.DropRight
import Mathlib.Data.List.Infix
import Mathlib.Data.List.TakeWhile

/-!
Python string operations over decoded text, a list of characters.

`find?` is `str.find` and `contains` is the `in` test; `find?_line` locates the
first occurrence when it begins a line. `text.split` on a character is `List.splitOn`,
and `prefix_line` relates the lines of a text to those of more of it. `intOf` is
`int(text)` for base ten, which reads back the digits of a number (`intOf_toDigits`);
`lastField` is what `rsplit(sep, 1)[1]` selects and `slice` is `text[a:b]` for a stop
that may be negative.
-/

namespace EdgeGateway.Lib

/-- Decoded text. -/
abbrev Text := List Char

/-! ### Searching -/

/-- `text.find(sub)`, with `none` for `-1`. -/
def find? (sub : Text) : Text → Option Nat
  | [] => if sub = [] then some 0 else none
  | c :: cs => if sub <+: c :: cs then some 0 else (find? sub cs).map (· + 1)

/-- `text.find(sub, start)`. -/
def findFrom? (sub : Text) (start : Nat) (text : Text) : Option Nat :=
  (find? sub (text.drop start)).map (· + start)

/-- `sub in text`. -/
def contains (sub text : Text) : Bool := (find? sub text).isSome

theorem find?_isSome_iff {sub text : Text} : (find? sub text).isSome = true ↔ sub <:+: text := by
  induction text with
  | nil =>
      by_cases h : sub = [] <;> simp [find?, h]
  | cons c cs ih =>
      by_cases here : sub <+: c :: cs
      · simp [find?, here, here.isInfix]
      · rw [List.infix_cons_iff]
        simp [find?, here, ← ih]

theorem contains_iff {sub text : Text} : contains sub text = true ↔ sub <:+: text :=
  find?_isSome_iff

/-! ### Trimming and folding -/

/-- What `str.strip()` removes: MicroPython's ASCII white space. -/
def isSpace (c : Char) : Bool :=
  c = ' ' || c = '\t' || c = '\n' || c = '\r' || c.toNat = 11 || c.toNat = 12

/-- `text.strip()`. -/
def strip (text : Text) : Text :=
  ((text.dropWhile isSpace).reverse.dropWhile isSpace).reverse

/-- `text.lower()`. MicroPython folds the ASCII letters only. -/
def lower (text : Text) : Text := text.map Char.toLower

/-- `text.replace("\r", "")`. -/
def dropCR (text : Text) : Text := text.filter (· ≠ '\r')

theorem dropCR_append (xs ys : Text) : dropCR (xs ++ ys) = dropCR xs ++ dropCR ys :=
  List.filter_append _ _

theorem dropCR_eq_self {text : Text} (noReturn : '\r' ∉ text) : dropCR text = text :=
  filter_ne_eq_self noReturn

/-! ### Lines -/

/-- More text leaves all lines but the last alone, and continues the last one. -/
theorem splitOn_extend (sep : Char) (xs more : Text) :
    ∃ init last tail rest, xs.splitOn sep = init ++ [last] ∧
      (xs ++ more).splitOn sep = init ++ (last ++ tail) :: rest := by
  induction xs with
  | nil =>
      cases split : more.splitOn sep with
      | nil => exact absurd split (List.splitOn_ne_nil sep more)
      | cons tail rest => exact ⟨[], [], tail, rest, by simp, by simpa using split⟩
  | cons c xs ih =>
      obtain ⟨init, last, tail, rest, short, long⟩ := ih
      rw [List.cons_append, List.splitOn_cons_eq_if_modifyHead, List.splitOn_cons_eq_if_modifyHead,
        short, long]
      by_cases isSep : (c == sep) = true
      · exact ⟨[] :: init, last, tail, rest, by simp [isSep], by simp [isSep]⟩
      · cases init with
        | nil => exact ⟨[], c :: last, tail, rest, by simp [isSep], by simp [isSep]⟩
        | cons line init => exact ⟨(c :: line) :: init, last, tail,
            rest, by simp [isSep], by simp [isSep]⟩

/-- Every line of a text is the beginning of a line of any longer text. -/
theorem prefix_line {sep : Char} {xs ys : Text} (sub : xs <+: ys) :
    ∀ line ∈ xs.splitOn sep, ∃ line' ∈ ys.splitOn sep, line <+: line' := by
  obtain ⟨more, rfl⟩ := sub
  obtain ⟨init, last, tail, rest, short, long⟩ := splitOn_extend sep xs more
  intro line mem
  rw [short] at mem
  rw [long]
  rcases List.mem_append.mp mem with early | isLast
  · exact ⟨line, List.mem_append_left _ early, List.prefix_refl _⟩
  · obtain rfl := List.mem_singleton.mp isLast
    exact ⟨line ++ tail, by simp, List.prefix_append _ _⟩

theorem prefix_of_line (xs : Text) {sub ys : Text} (oneLine : '\n' ∉ sub)
    (pre : sub <+: xs ++ '\n' :: ys) :
    sub <+: xs := by
  have whole : xs ++ ['\n'] <+: xs ++ '\n' :: ys := ⟨ys, by simp⟩
  rcases List.prefix_or_prefix_of_prefix pre whole with short | long
  · rcases List.prefix_concat_iff.mp short with rfl | sub
    · simp at oneLine
    · exact sub
  · exact absurd (long.subset (by simp)) oneLine

/-- A text without a line break occurs within one line. -/
theorem infix_line {sub xs ys : Text} (oneLine : '\n' ∉ sub) (occurs : sub <:+: xs ++ '\n' :: ys) :
    sub <:+: xs ∨ sub <:+: ys := by
  induction xs with
  | nil =>
      rcases List.infix_cons_iff.mp occurs with pre | later
      · exact .inl (prefix_of_line [] oneLine pre).isInfix
      · exact .inr later
  | cons c xs ih =>
      rcases List.infix_cons_iff.mp occurs with pre | later
      · exact .inl (prefix_of_line (c :: xs) oneLine pre).isInfix
      · exact (ih later).imp_left fun inside => inside.trans (List.suffix_cons c xs).isInfix

/-- What ends one line and fills the next occurs before a line break or behind it. -/
theorem infix_line_end {body xs ys : Text} (oneLine : '\n' ∉ body)
    (occurs : '\r' :: '\n' :: (body ++ ['\n']) <:+: xs ++ '\n' :: ys) :
    '\r' :: '\n' :: (body ++ ['\n']) <:+: xs ++ ['\n'] ∨
      '\r' :: '\n' :: (body ++ ['\n']) <:+: '\r' :: '\n' :: ys := by
  set sub := '\r' :: '\n' :: (body ++ ['\n']) with subEq
  obtain ⟨s, t, whole⟩ := occurs
  rw [List.append_assoc] at whole
  rcases List.append_eq_append_iff.mp whole with ⟨w, rfl, rest⟩ | ⟨w, rfl, rest⟩
  · rcases List.append_eq_append_iff.mp rest with ⟨v, rfl, -⟩ | ⟨v, cut, tail⟩
    · exact .inl ⟨s, v ++ ['\n'], by simp⟩
    · cases v with
      | nil => exact .inl ⟨s, ['\n'], by rw [cut]; simp⟩
      | cons c v =>
          obtain ⟨rfl, rfl⟩ := List.cons.inj tail
          by_cases early : '\n' ∈ w
          · -- The break is the one `sub` ends with.
            obtain ⟨w₁, w₂, rfl, first⟩ := List.eq_append_cons_of_mem early
            rw [List.append_assoc, List.cons_append] at cut
            obtain ⟨-, inner⟩ := first_split (show '\n' ∉ ['\r'] by decide) first cut
            have last : '\n' ∉ w₂ := by
              intro mem
              obtain ⟨u₁, u₂, rfl, first'⟩ := List.eq_append_cons_of_mem mem
              rw [List.append_assoc, List.cons_append] at inner
              obtain ⟨-, none⟩ := first_split oneLine first' inner
              simp at none
            obtain ⟨rfl, rfl⟩ := first_split oneLine last inner
            exact .inl ⟨s, [], by rw [cut]; simp⟩
          · -- The break is the first of `sub`.
            obtain ⟨rfl, rfl⟩ := first_split (show '\n' ∉ ['\r'] by decide) early cut
            exact .inr ⟨[], t, by rw [subEq]; simp⟩
  · cases w with
    | nil => simp [subEq] at rest
    | cons c w =>
        obtain ⟨rfl, rfl⟩ := List.cons.inj rest
        exact .inr ⟨'\r' :: '\n' :: w, t, by simp⟩

/-- The first occurrence begins a line when no earlier line has one. -/
theorem find?_line {sub ahead : Text} (oneLine : '\n' ∉ sub) (ne : sub ≠ [])
    (absent : ¬ sub <:+: ahead) (post : Text) :
    find? sub (ahead ++ '\n' :: (sub ++ post)) = some (ahead.length + 1) := by
  induction ahead with
  | nil =>
      have here : find? sub (sub ++ post) = some 0 := by
        cases sub with
        | nil => exact absurd rfl ne
        | cons c cs => simp [find?]
      have notBreak : ¬ sub <+: '\n' :: (sub ++ post) := fun pre =>
        absent (prefix_of_line [] oneLine pre).isInfix
      simp [find?, notBreak, here]
  | cons c ahead ih =>
      have notHere : ¬ sub <+: c :: (ahead ++ '\n' :: (sub ++ post)) := fun pre =>
        absent (prefix_of_line (c :: ahead) oneLine pre).isInfix
      have rest := ih fun inside => absent (inside.trans (List.suffix_cons c ahead).isInfix)
      simp [find?, notHere, rest]

theorem find?_char {c : Char} {ahead : Text} (first : c ∉ ahead) (post : Text) :
    find? [c] (ahead ++ c :: post) = some ahead.length := by
  induction ahead with
  | nil => simp [find?]
  | cons d ahead ih =>
      have other : c ≠ d := fun same => first (by simp [same])
      have rest := ih fun mem => first (List.mem_cons_of_mem _ mem)
      simp [find?, other, rest]

/-- A text that begins with a character found nowhere else occurs at the front only. -/
theorem prefix_of_infix {c : Char} {sub xs : Text} (once : c ∉ xs)
    (occurs : c :: sub <:+: c :: xs) : c :: sub <+: c :: xs := by
  rcases List.infix_cons_iff.mp occurs with pre | later
  · exact pre
  · exact absurd (later.subset (by simp)) once

/-! ### Fields and numbers -/

/-- `text.split(sep)[-1]`: what follows the last separator, or all of the text. -/
def lastPart (sep : Char) (text : Text) : Text := (text.reverse.takeWhile (· ≠ sep)).reverse

/-- `text.rsplit(sep, 1)[1]`, with `none` for `IndexError`. -/
def lastField (sep : Char) (text : Text) : Option Text :=
  if sep ∈ text then some (lastPart sep text) else none

/-- `text.split(sep, 1)[1]`, with `none` for `IndexError`. -/
def afterFirst (sep : Char) (text : Text) : Option Text :=
  match text.dropWhile (· ≠ sep) with
  | [] => none
  | _ :: rest => some rest

theorem afterFirst_append {sep : Char} {name : Text} (first : sep ∉ name) (value : Text) :
    afterFirst sep (name ++ sep :: value) = some value := by
  have skip : (name ++ sep :: value).dropWhile (· ≠ sep) = sep :: value := by
    rw [List.dropWhile_append_of_pos]
    · simp
    · intro c mem
      have other : c ≠ sep := fun same => first (same ▸ mem)
      simpa using other
  unfold afterFirst
  rw [skip]

theorem lastField_append {sep : Char} {value : Text} (last : sep ∉ value) (ahead : Text) :
    lastField sep (ahead ++ sep :: value) = some value := by
  have tail : (ahead ++ sep :: value).reverse.takeWhile (· ≠ sep) = value.reverse := by
    rw [List.reverse_append, List.reverse_cons, List.append_assoc, List.takeWhile_append_of_pos]
    · simp
    · intro c mem
      have other : c ≠ sep := fun same => last (same ▸ List.mem_reverse.mp mem)
      simpa using other
  rw [lastField, if_pos (by simp), lastPart, tail, List.reverse_reverse]

/-- The last of the parts between the separators. -/
theorem getLast?_splitOn (sep : Char) (text : Text) :
    (text.splitOn sep).getLast? = some (lastPart sep text) := by
  by_cases mem : sep ∈ text.reverse
  · obtain ⟨back, front, split, last⟩ := List.eq_append_cons_of_mem mem
    have whole : text = front.reverse ++ sep :: back.reverse := by
      rw [← List.reverse_reverse text, split]
      simp
    have field := lastField_append (fun inBack => last (List.mem_reverse.mp inBack)) front.reverse
    rw [← whole, lastField, if_pos (List.mem_reverse.mp mem)] at field
    rw [field, whole, List.splitOn_append_cons_self,
      List.splitOn_eq_singleton fun inBack => last (List.mem_reverse.mp inBack)]
    simp
  · have none : (text.reverse.takeWhile (· ≠ sep)) = text.reverse := by
      refine List.takeWhile_eq_self_iff.mpr fun c inText => ?_
      have other : c ≠ sep := fun same => mem (same ▸ inText)
      simpa using other
    rw [List.splitOn_eq_singleton fun inText => mem (List.mem_reverse.mpr inText), lastPart, none,
      List.reverse_reverse]
    rfl

/-- Another character ahead belongs to the last part if there is no separator. -/
theorem lastPart_cons {sep c : Char} (other : c ≠ sep) (text : Text) :
    lastPart sep (c :: text) = lastPart sep text ∨
      lastPart sep (c :: text) = c :: lastPart sep text := by
  unfold lastPart
  rw [List.reverse_cons, List.takeWhile_append]
  split
  · rename_i all
    have whole := (List.takeWhile_prefix (· ≠ sep)).eq_of_length all
    refine .inr ?_
    rw [whole, List.takeWhile_cons_of_pos (by simpa using other)]
    simp
  · exact .inl rfl

theorem strip_strip (text : Text) : strip (strip text) = strip text := by
  unfold strip
  set lead := text.dropWhile isSpace with leadEq
  have once : (lead.reverse.dropWhile isSpace).reverse.dropWhile isSpace =
      (lead.reverse.dropWhile isSpace).reverse := by
    cases shape : (lead.reverse.dropWhile isSpace).reverse with
    | nil => rfl
    | cons c rest =>
        -- What is left of `lead` begins as `lead` does.
        have sub : c :: rest <+: lead := by
          rw [← shape, ← List.reverse_suffix, List.reverse_reverse]
          exact List.dropWhile_suffix _
        obtain ⟨more, whole⟩ := sub
        have solid := List.head?_dropWhile_not isSpace text
        rw [← leadEq, ← whole] at solid
        exact List.dropWhile_cons_of_neg (by simpa using solid)
  rw [once, List.reverse_reverse, List.dropWhile_idempotent]

/-- The digits of a number, with single underscores allowed between them. -/
def digitsOf : Nat → Bool → Text → Option Nat
  | acc, true, [] => some acc
  | _, false, [] => none
  | acc, afterDigit, c :: cs =>
      if c.isDigit then digitsOf (acc * 10 + (c.toNat - '0'.toNat)) true cs
      else if c = '_' ∧ afterDigit = true then digitsOf acc false cs
      else none

/-- `int(text)`, with `none` for `ValueError`. -/
def intOf (text : Text) : Option Int :=
  match strip text with
  | '-' :: digits => (digitsOf 0 false digits).map fun n => -(n : Int)
  | '+' :: digits => (digitsOf 0 false digits).map Int.ofNat
  | digits => (digitsOf 0 false digits).map Int.ofNat

theorem intOf_strip (text : Text) : intOf (strip text) = intOf text := by
  unfold intOf
  rw [strip_strip]

theorem digitsOf_digits {ds : Text} (digits : ∀ c ∈ ds, c.isDigit = true) (acc : Nat) :
    digitsOf acc true ds = some (Nat.ofDigitChars 10 ds acc) := by
  induction ds generalizing acc with
  | nil => simp [digitsOf]
  | cons c ds ih =>
      have digit := digits c (by simp)
      have rest := ih (fun d mem => digits d (List.mem_cons_of_mem _ mem))
      rw [Nat.ofDigitChars_cons, Nat.mul_comm 10 acc, ← rest]
      simp [digitsOf, digit]

theorem strip_digits {ds : Text} (digits : ∀ c ∈ ds, c.isDigit = true) : strip ds = ds := by
  have keep : ∀ cs : Text, (∀ c ∈ cs, c.isDigit = true) → cs.dropWhile isSpace = cs := by
    intro cs all
    cases cs with
    | nil => rfl
    | cons c cs =>
        have digit := all c (by simp)
        have solid : isSpace c = false := by
          by_contra space
          simp only [Bool.not_eq_false, isSpace, Bool.or_eq_true, decide_eq_true_eq] at space
          rcases space with ((((rfl | rfl) | rfl) | rfl) | code) | code
          · cases digit
          · cases digit
          · cases digit
          · cases digit
          · rw [← Char.ofNat_toNat c, code] at digit
            cases digit
          · rw [← Char.ofNat_toNat c, code] at digit
            cases digit
        rw [List.dropWhile_cons_of_neg (by simp [solid])]
  rw [strip, keep ds digits, keep ds.reverse fun c mem => digits c (List.mem_reverse.mp mem),
    List.reverse_reverse]

theorem not_mem_toDigits {c : Char} (other : c.isDigit = false) (n : Nat) :
    c ∉ Nat.toDigits 10 n := by
  intro mem
  have digit : c.isDigit = true := Nat.isDigit_of_mem_toDigits (by decide) (by decide) mem
  rw [other] at digit
  cases digit

/-- `int(str(n))`. -/
theorem intOf_toDigits (n : Nat) : intOf (Nat.toDigits 10 n) = some (n : Int) := by
  have digits : ∀ c ∈ Nat.toDigits 10 n, c.isDigit = true := fun c mem =>
    Nat.isDigit_of_mem_toDigits (by decide) (by decide) mem
  have value : digitsOf 0 false (Nat.toDigits 10 n) = some n := by
    have whole := digitsOf_digits digits 0
    rw [Nat.ofDigitChars_ten_toDigits] at whole
    cases shape : Nat.toDigits 10 n with
    | nil => exact absurd shape Nat.toDigits_ne_nil
    | cons c ds =>
        have digit := digits c (by simp [shape])
        rw [shape] at whole
        simpa [digitsOf, digit] using whole
  unfold intOf
  rw [strip_digits digits]
  split
  · rename_i ds shape
    have digit := digits '-' (by simp [shape])
    simp at digit
  · rename_i ds shape
    have digit := digits '+' (by simp [shape])
    simp at digit
  · rw [value]
    rfl

/-- `text[start:stop]`. A negative stop counts from the end. -/
def slice (start : Nat) (stop : Int) (text : Text) : Text :=
  let stop := if stop < 0 then (text.length + stop).toNat else stop.toNat
  (text.take stop).drop start

theorem slice_take (ahead rest : Text) (size : Nat) :
    slice ahead.length (ahead.length + size) (ahead ++ rest) = rest.take size := by
  unfold slice
  have stop : ((ahead.length : Int) + size).toNat = ahead.length + size := by omega
  rw [if_neg (by omega), stop]
  dsimp only
  rw [List.take_length_add_append, List.drop_left]

end EdgeGateway.Lib
