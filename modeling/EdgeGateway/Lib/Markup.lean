import EdgeGateway.Lib.Text

/-!
Escaped text in HTML, and the tokens it reads as.

`read` is the tokenizer of HTML on the part that generated markup needs: text, tags with
double quoted attributes, and the references that escaping writes. In a state where the
standard goes on in a way that is not modelled, `step` is `none`; that a text reads at all
is therefore part of every result. The elements whose contents are no markup (scripts,
styles) are left out.

* `read_escape`: escaped text reads as its own characters, and opens no tag.
* `Word.read_value`: letters and digits read as themselves inside an attribute.
* `Template.tokenize_render`: a template of tags with escaped texts between them reads as
  these tags and these texts, whatever the texts are.

Newlines are normalised before a text is read (`newlines`).
-/

namespace EdgeGateway.Lib.Markup

/-! ### The tokenizer -/

inductive Token where
  | startTag (name : Text) (attributes : List (Text × Text))
  | endTag (name : Text)
  | char (c : Char)
deriving DecidableEq, Repr

/-- A state of the tokenizer, with what it has read of a reference or of a tag. -/
inductive State where
  | data
  | reference (name : Text)
  | tagOpen
  | endTagOpen
  | tagName (closing : Bool) (name : Text)
  | beforeAttribute (name : Text) (attributes : List (Text × Text))
  | attributeName (name : Text) (attributes : List (Text × Text)) (key : Text)
  | beforeValue (name : Text) (attributes : List (Text × Text)) (key : Text)
  | value (name : Text) (attributes : List (Text × Text)) (key text : Text)
  | afterValue (name : Text) (attributes : List (Text × Text))
deriving DecidableEq, Repr

/-- The character of a reference. -/
def referenced (name : Text) : Option Char :=
  if name = "amp".toList then some '&'
  else if name = "lt".toList then some '<'
  else if name = "gt".toList then some '>'
  else if name = "nbsp".toList then some '\u00a0'
  else none

def isBlank (c : Char) : Bool := c = ' ' || c = '\t' || c = '\n' || c = '\u000c'

/-- The next character of the input. -/
def step : State → Char → Option (State × List Token)
  | .data, c =>
      if c = '&' then some (.reference [], [])
      else if c = '<' then some (.tagOpen, [])
      else some (.data, [.char c])
  | .reference name, c =>
      if c = ';' then (referenced name).map fun c => (.data, [.char c])
      else some (.reference (name ++ [c]), [])
  | .tagOpen, c =>
      if c = '/' then some (.endTagOpen, [])
      else if c.isAlpha then some (.tagName false [c.toLower], [])
      else none
  | .endTagOpen, c => if c.isAlpha then some (.tagName true [c.toLower], []) else none
  | .tagName closing name, c =>
      if c = '>' then some (.data, [if closing then .endTag name else .startTag name []])
      else if isBlank c && !closing then some (.beforeAttribute name [], [])
      else if c.isAlphanum then some (.tagName closing (name ++ [c.toLower]), [])
      else none
  | .beforeAttribute name attributes, c =>
      if c = '>' then some (.data, [.startTag name attributes])
      else if isBlank c then some (.beforeAttribute name attributes, [])
      else if c.isAlpha then some (.attributeName name attributes [c.toLower], [])
      else none
  | .attributeName name attributes key, c =>
      if c = '=' then some (.beforeValue name attributes key, [])
      else if c.isAlphanum then some (.attributeName name attributes (key ++ [c.toLower]), [])
      else none
  | .beforeValue name attributes key, c =>
      if c = '"' then some (.value name attributes key [], []) else none
  | .value name attributes key text, c =>
      if c = '"' then some (.afterValue name (attributes ++ [(key, text)]), [])
      else if c = '&' || c = '\u0000' then none
      else some (.value name attributes key (text ++ [c]), [])
  | .afterValue name attributes, c =>
      if c = '>' then some (.data, [.startTag name attributes])
      else if isBlank c then some (.beforeAttribute name attributes, [])
      else none

/-- Read a part of the input: the state behind it, and the tokens. -/
def read : State → Text → Option (State × List Token)
  | state, [] => some (state, [])
  | state, c :: cs =>
      (step state c).bind fun (state', tokens) =>
        (read state' cs).map fun (state'', more) => (state'', tokens ++ more)

theorem read_append {state state' state'' : State} {text more : Text} {tokens tokens' : List Token}
    (first : read state text = some (state', tokens))
    (second : read state' more = some (state'', tokens')) :
    read state (text ++ more) = some (state'', tokens ++ tokens') := by
  induction text generalizing state tokens with
  | nil =>
      obtain ⟨rfl, rfl⟩ := Prod.mk.inj (Option.some.inj first)
      exact second
  | cons c cs ih =>
      obtain ⟨⟨mid, out⟩, stepped, rest⟩ := Option.bind_eq_some_iff.mp first
      obtain ⟨⟨last, out'⟩, later, whole⟩ := Option.map_eq_some_iff.mp rest
      obtain ⟨rfl, rfl⟩ := Prod.mk.inj whole
      rw [List.cons_append, read, stepped, Option.bind_some]
      dsimp only
      rw [ih later, Option.map_some, List.append_assoc]

/-! ### Escaping -/

/-- A character of a text, as the text is serialised. -/
def escapeChar (c : Char) : Text :=
  if c = '&' then "&amp;".toList
  else if c = '<' then "&lt;".toList
  else if c = '>' then "&gt;".toList
  else if c = '\u00a0' then "&nbsp;".toList
  else [c]

def escape (text : Text) : Text := text.flatMap escapeChar

theorem read_escapeChar (c : Char) : read .data (escapeChar c) = some (.data, [.char c]) := by
  unfold escapeChar
  by_cases amp : c = '&'
  · subst amp
    rfl
  by_cases lt : c = '<'
  · subst lt
    rfl
  by_cases gt : c = '>'
  · subst gt
    rfl
  by_cases nbsp : c = '\u00a0'
  · subst nbsp
    rfl
  rw [if_neg amp, if_neg lt, if_neg gt, if_neg nbsp]
  have plain : step .data c = some (.data, [.char c]) := by
    unfold step
    dsimp only
    rw [if_neg amp, if_neg lt]
  rw [read, plain]
  rfl

/-- **Escaped text reads as its own characters.** -/
theorem read_escape (text : Text) :
    read .data (escape text) = some (.data, text.map .char) := by
  induction text with
  | nil => rfl
  | cons c cs ih => exact read_append (read_escapeChar c) ih

/-! ### Newlines -/

/-- The newlines of an input, normalised. -/
def newlines : Text → Text
  | [] => []
  | '\r' :: '\n' :: cs => '\n' :: newlines cs
  | '\r' :: cs => '\n' :: newlines cs
  | c :: cs => c :: newlines cs

/-- The tokens of a whole input. -/
def tokenize (html : Text) : Option (List Token) :=
  match read .data (newlines html) with
  | some (.data, tokens) => some tokens
  | _ => none

theorem newlines_cons {c : Char} (other : c ≠ '\r') (cs : Text) :
    newlines (c :: cs) = c :: newlines cs := by
  rw [newlines]
  · rintro ds same
    exact absurd same other
  · exact other

theorem newlines_return {cs : Text} (other : cs.head? ≠ some '\n') :
    newlines ('\r' :: cs) = '\n' :: newlines cs := by
  rw [newlines]
  rintro ds rfl
  exact other rfl

/-- A text without a return stays as it is. -/
theorem newlines_plain {text : Text} (plain : '\r' ∉ text) (more : Text) :
    newlines (text ++ more) = text ++ newlines more := by
  induction text with
  | nil => rfl
  | cons c cs ih =>
      rw [List.mem_cons, not_or] at plain
      obtain ⟨other, rest⟩ := plain
      rw [List.cons_append, newlines_cons (Ne.symm other), ih rest]
      rfl

theorem escape_cons (c : Char) (cs : Text) : escape (c :: cs) = escapeChar c ++ escape cs := rfl

/-- A character is escaped by a reference, or stands for itself. -/
theorem escapeChar_cases (c : Char) :
    escapeChar c = [c] ∨ '\r' ∉ escapeChar c ∧ (escapeChar c).head? = some '&' := by
  unfold escapeChar
  by_cases amp : c = '&'
  · rw [if_pos amp]
    exact .inr (by decide)
  by_cases lt : c = '<'
  · rw [if_neg amp, if_pos lt]
    exact .inr (by decide)
  by_cases gt : c = '>'
  · rw [if_neg amp, if_neg lt, if_pos gt]
    exact .inr (by decide)
  by_cases nbsp : c = '\u00a0'
  · rw [if_neg amp, if_neg lt, if_neg gt, if_pos nbsp]
    exact .inr (by decide)
  · rw [if_neg amp, if_neg lt, if_neg gt, if_neg nbsp]
    exact .inl rfl

/-- **Escaping and the newlines do not interfere**, in front of a tag. -/
theorem newlines_escape (text : Text) {more : Text} (opens : more.head? = some '<') :
    newlines (escape text ++ more) = escape (newlines text) ++ newlines more := by
  induction text using newlines.induct with
  | case1 => rfl
  | case2 cs ih =>
      change newlines ('\r' :: '\n' :: (escape cs ++ more)) = _
      rw [newlines, ih]
      rfl
  | case3 cs alone ih =>
      have single : cs.head? ≠ some '\n' := by
        intro next
        obtain ⟨ds, rfl⟩ := List.head?_eq_some_iff.mp next
        exact alone ds rfl
      have other : (escape cs ++ more).head? ≠ some '\n' := by
        cases cs with
        | nil =>
            rw [show escape [] ++ more = more from rfl, opens]
            decide
        | cons d ds =>
            rw [escape_cons, List.append_assoc, List.head?_append]
            rcases escapeChar_cases d with same | ⟨-, reference⟩
            · rw [same]
              exact single
            · rw [reference, Option.some_or]
              decide
      change newlines ('\r' :: (escape cs ++ more)) = _
      rw [newlines_return other, ih, newlines_return single]
      rfl
  | case4 c cs notPair notReturn ih =>
      have plain : '\r' ∉ escapeChar c := by
        rcases escapeChar_cases c with same | ⟨plain, -⟩
        · rw [same, List.mem_singleton]
          exact fun back => notReturn back.symm
        · exact plain
      rw [escape_cons, List.append_assoc, newlines_plain plain, ih, newlines_cons notReturn,
        escape_cons, List.append_assoc]

/-! ### Letters and digits -/

/-- A text of letters and digits. -/
def Word (text : Text) : Prop := ∀ c ∈ text, c.isAlphanum = true

instance (text : Text) : Decidable (Word text) :=
  decidable_of_iff (text.all Char.isAlphanum = true) List.all_eq_true

section Word

variable {text : Text}

/-- A mark is no letter of a word. -/
theorem Word.apart (word : Word text) {c mark : Char} (mem : c ∈ text)
    (other : mark.isAlphanum = false) : c ≠ mark := by
  rintro rfl
  have letter := word c mem
  rw [other] at letter
  cases letter

theorem Word.escape_eq (word : Word text) : escape text = text := by
  have self : ∀ c ∈ text, escapeChar c = [c] := by
    intro c mem
    unfold escapeChar
    rw [if_neg (word.apart mem rfl), if_neg (word.apart mem rfl), if_neg (word.apart mem rfl),
      if_neg (word.apart mem (by decide))]
  unfold escape
  rw [List.flatMap_congr self, List.flatMap_singleton']

/-- A word reads as itself inside an attribute. -/
theorem Word.read_value (word : Word text) (name key before : Text)
    (attributes : List (Text × Text)) :
    read (.value name attributes key before) text =
      some (.value name attributes key (before ++ text), []) := by
  induction text generalizing before with
  | nil => rw [List.append_nil, read]
  | cons c cs ih =>
      have head := List.mem_cons_self (a := c) (l := cs)
      have rest : Word cs := fun d mem => word d (List.mem_cons_of_mem c mem)
      have stepped : step (.value name attributes key before) c =
          some (.value name attributes key (before ++ [c]), []) := by
        have noMark : ¬ (c = '&' || c = '\u0000') = true := by
          rw [Bool.or_eq_true, decide_eq_true_iff, decide_eq_true_iff]
          rintro (amp | null)
          · exact word.apart head rfl amp
          · exact word.apart head (by decide) null
        unfold step
        dsimp only
        rw [if_neg (word.apart head rfl), if_neg noMark]
      rw [read, stepped, Option.bind_some]
      dsimp only
      rw [ih rest, List.append_assoc]
      rfl

end Word

/-! ### Templates -/

/-- Fixed markup that reads as these tokens. -/
structure Tag where
  html : Text
  tokens : List Token
  reads : read .data html = some (.data, tokens)
  opens : html.head? = some '<'
  plain : '\r' ∉ html

/-- Texts, each in front of a tag. -/
abbrev Template := List (Text × Tag)

def Template.render (template : Template) : Text :=
  template.flatMap fun (text, tag) => escape text ++ tag.html

def Template.tokens (template : Template) : List Token :=
  template.flatMap fun (text, tag) => (newlines text).map .char ++ tag.tokens

theorem Template.render_nil : Template.render [] = [] := rfl

theorem Template.render_cons (text : Text) (tag : Tag) (rest : Template) :
    Template.render ((text, tag) :: rest) = escape text ++ (tag.html ++ Template.render rest) := by
  rw [← List.append_assoc]
  rfl

theorem Template.render_append (first rest : Template) :
    Template.render (first ++ rest) = first.render ++ rest.render :=
  List.flatMap_append

theorem Template.tokens_nil : Template.tokens [] = [] := rfl

theorem Template.tokens_cons (text : Text) (tag : Tag) (rest : Template) :
    Template.tokens ((text, tag) :: rest) =
      (newlines text).map .char ++ (tag.tokens ++ Template.tokens rest) := by
  rw [← List.append_assoc]
  rfl

theorem Template.tokens_append (first rest : Template) :
    Template.tokens (first ++ rest) = first.tokens ++ rest.tokens :=
  List.flatMap_append

theorem Template.read_render (template : Template) :
    read .data (newlines template.render) = some (.data, template.tokens) := by
  induction template with
  | nil => rfl
  | cons part rest ih =>
      obtain ⟨text, tag⟩ := part
      have opens : (tag.html ++ Template.render rest).head? = some '<' := by
        rw [List.head?_append, tag.opens]
        rfl
      rw [Template.render_cons, newlines_escape text opens, newlines_plain tag.plain,
        Template.tokens_cons]
      exact read_append (read_escape (newlines text)) (read_append tag.reads ih)

/-- **A template reads as its tags and its texts.** -/
theorem Template.tokenize_render (template : Template) :
    tokenize template.render = some template.tokens := by
  unfold tokenize
  rw [template.read_render]

example : tokenize "<b class=\"x\">&lt;</b>".toList =
    some [.startTag ['b'] [("class".toList, ['x'])], .char '<', .endTag ['b']] := by decide

/-! ### Markup of a template -/

/-- Markup that a template renders, and the tokens of this template. -/
def Renders (html : Text) (tokens : List Token) : Prop :=
  ∃ template : Template, template.render = html ∧ template.tokens = tokens

theorem Renders.tokenize {html : Text} {tokens : List Token} (renders : Renders html tokens) :
    tokenize html = some tokens := by
  obtain ⟨template, rfl, rfl⟩ := renders
  exact template.tokenize_render

theorem Renders.append {html html' : Text} {tokens tokens' : List Token}
    (first : Renders html tokens) (second : Renders html' tokens') :
    Renders (html ++ html') (tokens ++ tokens') := by
  obtain ⟨template, rfl, rfl⟩ := first
  obtain ⟨template', rfl, rfl⟩ := second
  exact ⟨template ++ template', template.render_append template',
    template.tokens_append template'⟩

/-- Rows, each of which is a template. -/
theorem Renders.flatMap {Row : Type} {rows : List Row} {row : Row → Text}
    {tokens : Row → List Token} (each : ∀ r ∈ rows, Renders (row r) (tokens r)) :
    Renders (rows.flatMap row) (rows.flatMap tokens) := by
  induction rows with
  | nil => exact ⟨[], rfl, rfl⟩
  | cons r rest ih =>
      rw [List.flatMap_cons, List.flatMap_cons]
      exact (each r List.mem_cons_self).append
        (ih fun r' mem => each r' (List.mem_cons_of_mem r mem))

end EdgeGateway.Lib.Markup
