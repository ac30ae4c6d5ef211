import EdgeGateway.Modem.Port

/-!
Commands and the answers of the modem.

The modem answers each command once and in order, with any delay: what it has
still to write is a queue of bytes, and a step sends some of them. An answer is
information text and then a result code. Answers name no command, and `command`
drains only what has arrived when it writes; so an answer that comes after its
command timed out is read by the next one.

`reply_agrees_iff`: a command that returns a text was answered by it exactly if no
result code of an earlier answer was still to come when the command was written.
-/

namespace EdgeGateway.Modem

open EdgeGateway.Lib

/-! ### Answers -/

/-- The text ends the loop of `_command_unlocked`. -/
def isFinal (text : Text) : Bool := contains "\r\nOK\r\n".toList text || errorText text

theorem isFinal_mono {xs ys : Text} (sub : xs <:+: ys) (final : isFinal xs = true) :
    isFinal ys = true := by
  simp only [isFinal, errorText, Bool.or_eq_true, contains_iff] at final ⊢
  exact final.imp (·.trans sub) fun error => error.imp (·.trans sub) (·.trans sub)

theorem not_isFinal_mono {xs ys : Text} (sub : xs <:+: ys) (none : isFinal ys = false) :
    isFinal xs = false := by
  cases final : isFinal xs with
  | false => rfl
  | true => exact absurd (isFinal_mono sub final) (by simp [none])

inductive Result where
  | ok
  | error
  | cmeError (detail : Text)
deriving DecidableEq, Repr

/-- What `_command_unlocked` takes for the result code. -/
def Result.key : Result → Text
  | .ok => "\r\nOK\r\n".toList
  | .error => "\r\nERROR\r\n".toList
  | .cmeError _ => "\r\n+CME ERROR:".toList

/-- What follows it. -/
def Result.rest : Result → Text
  | .ok | .error => []
  | .cmeError detail => detail ++ "\r\n".toList

def lineBreak : Bytes := Utf8.encode "\r\n".toList

/-- An answer: its result code is the first in it, also behind a line break. -/
structure Answer where
  info : Bytes
  result : Result
  first :
    isFinal (Utf8.decodeIgnore (lineBreak ++ (info ++ Utf8.encode result.key.dropLast))) = false

/-- Up to the last character of the result code. -/
def Answer.before (answer : Answer) : Bytes := answer.info ++ Utf8.encode answer.result.key.dropLast

/-- Up to and with the result code. -/
def Answer.head (answer : Answer) : Bytes := answer.info ++ Utf8.encode answer.result.key

def Answer.bytes (answer : Answer) : Bytes := answer.head ++ Utf8.encode answer.result.rest

/-! ### The dialogue -/

/-- A command that was written. -/
structure Asked where
  command : String
  /-- what was still to come of earlier answers -/
  ahead : Bytes
  answer : Answer

structure Dialogue where
  port : Port
  /-- what the modem has still to write -/
  unsent : Bytes
  /-- the commands written so far, in order -/
  asked : List Asked

inductive Dialogue.Input where
  /-- a task calls `command`, which the modem is going to answer -/
  | issue (command : String) (allowError : Bool) (answer : Answer)
  /-- the modem writes some bytes -/
  | send (count : Nat)
  | poll
  | expire

def Dialogue.step (w : Dialogue) : Dialogue.Input → Option Dialogue
  | .issue command allowError answer =>
      (w.port.step (.start (.command command allowError))).map fun port =>
        ⟨port, w.unsent ++ answer.bytes, w.asked ++ [⟨command, w.unsent, answer⟩]⟩
  | .send count =>
      if count ≤ w.unsent.length then
        (w.port.step (.arrive (w.unsent.take count))).map fun port =>
          { w with port := port, unsent := w.unsent.drop count }
      else none
  | .poll => (w.port.step .poll).map fun port => { w with port := port }
  | .expire => (w.port.step .expire).map fun port => { w with port := port }

def dialogue : System Dialogue Dialogue.Input := ⟨⟨port.init, [], []⟩, Dialogue.step⟩

/-- The result code in `text` is the one of the answer: the text goes on into the
answer up to its result code at least, and holds no result code before. -/
structure Agrees (ahead : Bytes) (answer : Answer) (text : Text) : Prop where
  read : ∃ own, answer.head <+: own ∧ own <+: answer.bytes ∧ text = Utf8.decodeIgnore (ahead ++ own)
  first : isFinal (Utf8.decodeIgnore (ahead ++ answer.before)) = false

/-! ### What is still to come of earlier answers -/

/-- Answers end with a line break. -/
def Ends (bytes : Bytes) : Prop := bytes = [] ∨ ∃ pre, bytes = pre ++ Utf8.encode ['\n']

theorem Ends.drop {bytes : Bytes} (ends : Ends bytes) (count : Nat) : Ends (bytes.drop count) := by
  rcases ends with rfl | ⟨pre, rfl⟩
  · exact .inl (List.drop_nil)
  · rcases Nat.lt_or_ge pre.length count with past | within
    · have one : (Utf8.encode ['\n']).length = 1 := by decide
      refine .inl (List.drop_eq_nil_of_le ?_)
      rw [List.length_append, one]
      omega
    · rw [List.drop_append_of_le_length within]
      exact .inr ⟨_, rfl⟩

/-- A result ends its line. -/
theorem Result.ends (result : Result) : ∃ pre, result.key ++ result.rest = pre ++ ['\n'] := by
  cases result with
  | ok => exact ⟨"\r\nOK\r".toList, rfl⟩
  | error => exact ⟨"\r\nERROR\r".toList, rfl⟩
  | cmeError detail =>
      have line : detail ++ ['\r', '\n'] = (detail ++ ['\r']) ++ ['\n'] := by simp
      refine ⟨"\r\n+CME ERROR:".toList ++ (detail ++ ['\r']), ?_⟩
      rw [List.append_assoc, ← line]
      rfl

theorem Answer.bytes_eq (answer : Answer) :
    answer.bytes = answer.info ++ Utf8.encode (answer.result.key ++ answer.result.rest) := by
  rw [Answer.bytes, Answer.head, Utf8.encode_append, List.append_assoc]

theorem Answer.ends (answer : Answer) : ∃ pre, answer.bytes = pre ++ Utf8.encode ['\n'] := by
  obtain ⟨pre, line⟩ := answer.result.ends
  refine ⟨answer.info ++ Utf8.encode pre, ?_⟩
  rw [Answer.bytes_eq, line, Utf8.encode_append, List.append_assoc]

/-- The result code has one more byte. -/
theorem Answer.head_eq (answer : Answer) : ∃ b, answer.head = answer.before ++ [b] := by
  obtain ⟨info, result, first⟩ := answer
  have last : ∃ b, Utf8.encode result.key = Utf8.encode result.key.dropLast ++ [b] := by
    cases result with
    | ok => exact ⟨10, by decide⟩
    | error => exact ⟨10, by decide⟩
    | cmeError detail =>
        have code : Utf8.encode "\r\n+CME ERROR:".toList =
            Utf8.encode "\r\n+CME ERROR:".toList.dropLast ++ [58] := by decide
        exact ⟨58, code⟩
  obtain ⟨b, key⟩ := last
  exact ⟨b, by rw [Answer.head, Answer.before, key, List.append_assoc]⟩

/-! ### Where the first result code is -/

/-- A result code begins with a line, or is on one. -/
theorem not_isFinal_line {xs ys : Text} (before : isFinal (xs ++ ['\n']) = false)
    (behind : isFinal ('\r' :: '\n' :: ys) = false) : isFinal (xs ++ '\n' :: ys) = false := by
  by_contra final
  have either : ∀ {body : Text}, '\n' ∉ body →
      '\r' :: '\n' :: (body ++ ['\n']) <:+: xs ++ '\n' :: ys →
      isFinal ('\r' :: '\n' :: (body ++ ['\n'])) = true → False := by
    intro body oneLine occurs isResult
    rcases infix_line_end oneLine occurs with early | late
    · exact absurd (isFinal_mono early isResult) (by simp [before])
    · exact absurd (isFinal_mono late isResult) (by simp [behind])
  have occurs : isFinal (xs ++ '\n' :: ys) = true := by simpa using final
  simp only [isFinal, errorText, Bool.or_eq_true, contains_iff] at occurs
  rcases occurs with ok | error | cme
  · exact either (show '\n' ∉ "OK\r".toList by decide) ok (by decide)
  · exact either (show '\n' ∉ "ERROR\r".toList by decide) error (by decide)
  · have isResult : isFinal "+CME ERROR:".toList = true := by decide
    rcases infix_line (by decide) cme with early | late
    · have sub : "+CME ERROR:".toList <:+: xs ++ ['\n'] :=
        early.trans (List.prefix_append _ _).isInfix
      exact absurd (isFinal_mono sub isResult) (by simp [before])
    · have sub : "+CME ERROR:".toList <:+: '\r' :: '\n' :: ys :=
        late.trans ⟨['\r', '\n'], [], by simp⟩
      exact absurd (isFinal_mono sub isResult) (by simp [behind])

/-- Nothing final stays so behind what was still to come, unless that is final. -/
theorem not_isFinal_ahead {ahead bytes : Bytes} (ends : Ends ahead)
    (none : isFinal (Utf8.decodeIgnore ahead) = false)
    (first : isFinal (Utf8.decodeIgnore (lineBreak ++ bytes)) = false) :
    isFinal (Utf8.decodeIgnore (ahead ++ bytes)) = false := by
  have broken :
      Utf8.decodeIgnore (lineBreak ++ bytes) = '\r' :: '\n' :: Utf8.decodeIgnore bytes := by
    have split := Utf8.decodeIgnore_middle (c := '\r') (by decide) [] ['\n'] bytes
    simpa [lineBreak, Utf8.decodeIgnore, Utf8.decodeFrom] using split
  rw [broken] at first
  rcases ends with rfl | ⟨pre, rfl⟩
  · exact not_isFinal_mono ⟨['\r', '\n'], [], by simp⟩ first
  · have cut (more : Bytes) : Utf8.decodeIgnore (pre ++ Utf8.encode ['\n'] ++ more) =
        Utf8.decodeIgnore pre ++ '\n' :: Utf8.decodeIgnore more := by
      rw [Utf8.decodeIgnore_middle (by decide), List.append_assoc]
      rfl
    have alone := cut []
    rw [List.append_nil] at alone
    rw [alone] at none
    rw [cut]
    exact not_isFinal_line none first

/-! ### One exchange -/

/-- A poll of `_command_unlocked` goes on, or ends with a final text. -/
theorem feedCommand_cases (command : String) (allowError : Bool) (response chunk : Bytes) :
    feedCommand command allowError response chunk = .more (response ++ chunk) ∨
      isFinal (Utf8.decodeIgnore (response ++ chunk)) = true ∧
        (feedCommand command allowError response chunk =
            .returned (Utf8.decodeIgnore (response ++ chunk)) ∨
          ∃ exc, feedCommand command allowError response chunk = .raised exc) := by
  unfold feedCommand
  split
  · rename_i nothing
    exact .inl (by rw [nothing, List.append_nil])
  · dsimp only
    split
    · rename_i ok
      exact .inr ⟨by rw [isFinal, ok, Bool.true_or], .inl rfl⟩
    · split
      · rename_i error
        refine .inr ⟨by rw [isFinal, error, Bool.or_true], ?_⟩
        split
        · exact .inl rfl
        · exact .inr ⟨_, rfl⟩
      · exact .inl rfl

/-- What is known of a command that gave the lock back. -/
structure Heard (e : Exchange) (a : Asked) : Prop where
  line : e.op.line = some a.command
  ends : Ends a.ahead
  returned : ∀ text, e.outcome = .ok (some text) →
    text = Utf8.decodeIgnore e.taken ∧ isFinal text = true ∧ e.taken <+: a.ahead ++ a.answer.bytes

/-- A command waits for its answer: it has read the first part of what the modem
had still to write, and `later` is the rest. -/
structure Awaits (b : Busy) (a : Asked) (later : Bytes) : Prop where
  op : ∃ allowError, b.op = .command a.command allowError
  ends : Ends a.ahead
  response : b.response = b.taken
  whole : b.taken ++ later = a.ahead ++ a.answer.bytes

/-- Every command that ended was heard, and the one that has the lock waits. -/
structure Dialogue.Inv (w : Dialogue) : Prop where
  ends : Ends w.unsent
  heard : ∀ (i : Nat) e a, w.port.log[i]? = some e → w.asked[i]? = some a → Heard e a
  idle : w.port.busy = none → w.asked.length = w.port.log.length
  busy : ∀ b ∈ w.port.busy, ∃ before a, w.asked = before ++ [a] ∧
    before.length = w.port.log.length ∧ Awaits b a (w.port.uart.rx ++ w.unsent)

theorem Dialogue.Inv.init : (dialogue.init).Inv where
  ends := .inl rfl
  heard := nofun
  idle := fun _ => rfl
  busy := nofun

/-- The command that has the lock ends. -/
theorem Dialogue.Inv.finish {w : Dialogue} (inv : w.Inv) {b : Busy} {before : List Asked}
    {a : Asked}
    (asked : w.asked = before ++ [a]) (all : before.length = w.port.log.length) (uart : Uart)
    {outcome : Outcome} (heard : Heard ⟨b.op, b.drained, b.taken, outcome⟩ a) :
    Dialogue.Inv { w with port := Port.finish { w.port with uart := uart } b outcome } := by
  refine ⟨inv.ends, ?_, fun _ => ?_, nofun⟩
  · intro i e a' logged isAsked
    change (w.port.log ++ [⟨b.op, b.drained, b.taken, outcome⟩])[i]? = some e at logged
    change w.asked[i]? = some a' at isAsked
    rcases Nat.lt_or_ge i w.port.log.length with old | new
    · rw [List.getElem?_append_left old] at logged
      exact inv.heard i e a' logged isAsked
    · obtain rfl : i = w.port.log.length := by
        obtain ⟨bound, -⟩ := List.getElem?_eq_some_iff.mp logged
        rw [List.length_append, List.length_singleton] at bound
        omega
      rw [List.getElem?_concat_length] at logged
      rw [asked, ← all, List.getElem?_concat_length] at isAsked
      exact Option.some.inj logged ▸ Option.some.inj isAsked ▸ heard
  · simp [Port.finish, asked, all]

theorem Dialogue.Inv.poll {w : Dialogue} (inv : w.Inv) {b : Busy} (busy : w.port.busy = some b) :
    Dialogue.Inv { w with port := w.port.poll b } := by
  obtain ⟨before, a, asked, all, awaits⟩ := inv.busy b busy
  obtain ⟨allowError, op⟩ := awaits.op
  have fed : b.feed w.port.uart.rx = feedCommand a.command allowError b.taken w.port.uart.rx := by
    simp only [Busy.feed, op, awaits.response]
  have sub : b.taken ++ w.port.uart.rx <+: a.ahead ++ a.answer.bytes := by
    rw [← awaits.whole, ← List.append_assoc]
    exact List.prefix_append _ _
  unfold Port.poll
  simp only [Uart.read, fed]
  rcases feedCommand_cases a.command allowError b.taken w.port.uart.rx with
    more | ⟨final, returns | ⟨exc, raises⟩⟩
  · rw [more]
    refine ⟨inv.ends, inv.heard, by simp, ?_⟩
    intro b' mem
    obtain rfl := Option.some.inj mem
    refine ⟨before, a, asked, all, ⟨allowError, op⟩, awaits.ends, rfl, ?_⟩
    rw [← awaits.whole]
    simp
  · simp only [returns, op]
    refine inv.finish asked all _ ⟨rfl, awaits.ends, ?_⟩
    intro text same
    obtain rfl := Option.some.inj (Except.ok.inj same)
    exact ⟨rfl, final, sub⟩
  · simp only [raises]
    exact inv.finish asked all _ ⟨by rw [op]; rfl, awaits.ends, by simp⟩

theorem Dialogue.Inv.step {w w' : Dialogue} {i : Dialogue.Input} (inv : w.Inv)
    (step : w.step i = some w') : w'.Inv := by
  cases i with
  | issue command allowError answer =>
      obtain ⟨p, started, rfl⟩ := Option.map_eq_some_iff.mp step
      cases idle : w.port.busy with
      | some b => simp [Port.step, idle] at started
      | none =>
          simp only [Port.step, Op.line, idle] at started
          obtain rfl := Option.some.inj started
          have all := inv.idle idle
          obtain ⟨pre, last⟩ := answer.ends
          refine ⟨?_, ?_, by simp, ?_⟩
          · rw [last, ← List.append_assoc]
            exact .inr ⟨_, rfl⟩
          · intro i e a logged isAsked
            obtain ⟨bound, -⟩ := List.getElem?_eq_some_iff.mp logged
            rw [List.getElem?_append_left (all ▸ bound)] at isAsked
            exact inv.heard i e a logged isAsked
          · intro b mem
            obtain rfl := Option.some.inj mem
            exact ⟨w.asked, _, rfl, all, ⟨allowError, rfl⟩, inv.ends, rfl, rfl⟩
  | send count =>
      simp only [Dialogue.step] at step
      split at step
      · obtain ⟨p, arrived, rfl⟩ := Option.map_eq_some_iff.mp step
        obtain rfl := Option.some.inj arrived
        refine ⟨inv.ends.drop count, inv.heard, inv.idle, ?_⟩
        intro b mem
        obtain ⟨before, a, asked, all, awaits⟩ := inv.busy b mem
        refine ⟨before, a, asked, all, awaits.op, awaits.ends, awaits.response, ?_⟩
        rw [← awaits.whole]
        simp [Uart.receive]
      · cases step
  | poll =>
      obtain ⟨p, polled, rfl⟩ := Option.map_eq_some_iff.mp step
      obtain ⟨b, busy, rfl⟩ := Option.map_eq_some_iff.mp polled
      exact inv.poll busy
  | expire =>
      obtain ⟨p, expired, rfl⟩ := Option.map_eq_some_iff.mp step
      obtain ⟨b, busy, rfl⟩ := Option.map_eq_some_iff.mp expired
      obtain ⟨before, a, asked, all, awaits⟩ := inv.busy b busy
      obtain ⟨allowError, op⟩ := awaits.op
      refine inv.finish asked all w.port.uart ⟨by rw [op]; rfl, awaits.ends, ?_⟩
      intro text same
      rw [Busy.timeout, op] at same
      cases same

/-! ### Whose answer a text holds -/

/-- The first result code of a text that ends in an answer is the one of the answer. -/
theorem Heard.agrees {e : Exchange} {a : Asked} (heard : Heard e a) {text : Text}
    (returned : e.outcome = .ok (some text)) (none : isFinal (Utf8.decodeIgnore a.ahead) = false) :
    Agrees a.ahead a.answer text := by
  obtain ⟨rfl, final, sub⟩ := heard.returned text returned
  have first := not_isFinal_ahead heard.ends none a.answer.first
  have beyond : a.ahead ++ a.answer.head <+: e.taken := by
    obtain ⟨b, last⟩ := a.answer.head_eq
    have whole : a.ahead ++ a.answer.bytes =
        (a.ahead ++ a.answer.before) ++ b :: Utf8.encode a.answer.result.rest := by
      rw [Answer.bytes, last]
      simp
    have tooShort : ¬ e.taken <+: a.ahead ++ a.answer.before := by
      intro short
      have none := not_isFinal_mono (Utf8.decodeIgnore_prefix short).isInfix first
      rw [final] at none
      cases none
    rw [whole] at sub
    rcases List.prefix_or_prefix_of_prefix sub (List.prefix_append _ _) with short | ⟨more, longer⟩
    · exact absurd short tooShort
    · cases more with
      | nil => exact absurd (by rw [← longer, List.append_nil]) tooShort
      | cons b' more =>
          rw [← longer, List.prefix_append_right_inj, List.cons_prefix_cons] at sub
          refine ⟨more, ?_⟩
          rw [← longer, last, sub.1]
          simp
  obtain ⟨more, split⟩ := beyond
  refine ⟨⟨a.answer.head ++ more, List.prefix_append _ _, ?_, ?_⟩, first⟩
  · rw [← split, List.append_assoc] at sub
    exact List.prefix_append_right_inj _ |>.mp sub
  · rw [← List.append_assoc, split]

/-- **A command that returns a text was answered by it exactly if no result code of
an earlier answer was still to come when the command was written.** -/
theorem reply_agrees_iff {inputs : List Dialogue.Input} {w : Dialogue} (run : Run dialogue inputs w)
    {i : Nat} {e : Exchange} {a : Asked} (finished : w.port.log[i]? = some e)
    (asked : w.asked[i]? = some a) {text : Text} (returned : e.outcome = .ok (some text)) :
    e.op.line = some a.command ∧
      (Agrees a.ahead a.answer text ↔ isFinal (Utf8.decodeIgnore a.ahead) = false) := by
  have inv : w.Inv := run.invariant Dialogue.Inv.init fun _ _ _ inv step => inv.step step
  have heard := inv.heard i e a finished asked
  refine ⟨heard.line, fun agrees => ?_, heard.agrees returned⟩
  exact not_isFinal_mono (Utf8.decodeIgnore_prefix (List.prefix_append _ _)).isInfix agrees.first

/-- An answer of one line. -/
def pinReady : Answer where
  info := Utf8.encode "\r\n+CPIN: READY\r\n".toList
  result := .ok
  first := by decide

def signalGood : Answer where
  info := Utf8.encode "\r\n+CSQ: 20,99\r\n".toList
  result := .ok
  first := by decide

/-- A command and its answer. -/
def answered : List Dialogue.Input := [.issue "AT+CPIN?" false pinReady, .send 22, .poll]

def pinText : Text := "\r\n+CPIN: READY\r\n\r\nOK\r\n".toList

set_option maxRecDepth 4000 in
theorem reply_agrees_iff_answered :
    ∃ w e a, Run dialogue answered w ∧ w.port.log[0]? = some e ∧ w.asked[0]? = some a ∧
      e.outcome = .ok (some pinText) ∧ e.op.line = some a.command ∧
        (Agrees a.ahead a.answer pinText ↔ isFinal (Utf8.decodeIgnore a.ahead) = false) := by
  have run : Run dialogue answered _ := run_iff_exec.mpr rfl
  let e : Exchange := ⟨.command "AT+CPIN?" false, [], pinReady.bytes, .ok (some pinText)⟩
  exact ⟨_, e, _, run, rfl, rfl, rfl, reply_agrees_iff (e := e) (i := 0) run rfl rfl rfl⟩

/-- The answer to the first command comes when the second has been written. -/
def answeredLate : List Dialogue.Input :=
  [.issue "AT+CPIN?" false pinReady, .expire, .issue "AT+CSQ" false signalGood, .send 22, .poll]

set_option maxRecDepth 4000 in
/-- `AT+CSQ` returns the state of the SIM. -/
theorem late_answer_returned :
    ∃ w e a, Run dialogue answeredLate w ∧ w.port.log[1]? = some e ∧ w.asked[1]? = some a ∧
      e.op.line = some "AT+CSQ" ∧ e.outcome = .ok (some pinText) ∧
      a.answer.bytes = Utf8.encode "\r\n+CSQ: 20,99\r\n\r\nOK\r\n".toList ∧
      ¬ Agrees a.ahead a.answer pinText := by
  let e : Exchange := ⟨.command "AT+CSQ" false, [], pinReady.bytes, .ok (some pinText)⟩
  refine ⟨_, e, _, run_iff_exec.mpr rfl, rfl, rfl, rfl, rfl, by decide, ?_⟩
  intro agrees
  exact absurd agrees.first (by decide)

end EdgeGateway.Modem
