import EdgeGateway.Modem.Answers
import EdgeGateway.Modem.Monitor

/-!
A health check reads what the radio tells.

A radio has an identity, a SIM state, a signal, a registration and so on, and answers
each exchange of `_configure_and_check` with a line of the documented form, among any
other lines; attaching and activating change it. The answers arrive in any chunks.

* `commandLoop_heard`: `_command_unlocked` returns the answer, however it is cut.
* `Radio.Tells.answered`: what one exchange makes of a true answer.
* `check_reads`: a check that is answered ends within eleven exchanges, and the
  attributes of the manager are then those of the radio.
-/

namespace EdgeGateway.Modem

open EdgeGateway.Lib

/-! ### The loop of a command -/

/-- `_command_unlocked` behind its write, on the chunks its polls read. -/
def commandLoop (command : String) (allowError : Bool) (response : Bytes) : List Bytes → Ending
  | [] => .raised (.osError (command ++ " timed out"))
  | chunk :: later =>
      match feedCommand command allowError response chunk with
      | .more response => commandLoop command allowError response later
      | .returned text => .returned text
      | .raised exc => .raised exc

/-- **The loop returns at the first chunk that makes its text final.** -/
theorem commandLoop_heard (command : String) (allowError : Bool) {text : Text}
    (final : isFinal text = true) {response : Bytes} {chunks : List Bytes}
    (whole : response ++ chunks.flatten = Utf8.encode text)
    (waiting : isFinal (Utf8.decodeIgnore response) = false) :
    ∃ heard, heard <+: text ∧ isFinal heard = true ∧
      (contains "\r\nOK\r\n".toList heard = true ∨ allowError = true →
        commandLoop command allowError response chunks = .returned heard) := by
  induction chunks generalizing response with
  | nil =>
      rw [List.flatten_nil, List.append_nil] at whole
      rw [whole, Utf8.decodeIgnore_encode, final] at waiting
      cases waiting
  | cons chunk later ih =>
      rw [List.flatten_cons, ← List.append_assoc] at whole
      have sub : Utf8.decodeIgnore (response ++ chunk) <+: text := by
        rw [← Utf8.decodeIgnore_encode text, ← whole]
        exact Utf8.decodeIgnore_prefix (List.prefix_append _ _)
      unfold commandLoop feedCommand
      by_cases nothing : chunk = []
      · rw [if_pos nothing]
        rw [nothing, List.append_nil] at whole
        exact ih whole waiting
      · rw [if_neg nothing]
        dsimp only
        cases ok : contains "\r\nOK\r\n".toList (Utf8.decodeIgnore (response ++ chunk)) with
        | true =>
            rw [if_pos rfl]
            exact ⟨_, sub, by rw [isFinal, ok, Bool.true_or], fun _ => rfl⟩
        | false =>
            rw [if_neg Bool.false_ne_true]
            cases error : errorText (Utf8.decodeIgnore (response ++ chunk)) with
            | true =>
                rw [if_pos rfl]
                refine ⟨_, sub, by rw [isFinal, error, Bool.or_true], fun returns => ?_⟩
                have allowed : allowError = true :=
                  returns.resolve_left (by rw [ok]; exact Bool.false_ne_true)
                rw [if_pos allowed]
            | false =>
                rw [if_neg Bool.false_ne_true]
                exact ih whole (by rw [isFinal, ok, error, Bool.or_false])

/-- The modem carries out the command: its last character completes the result code. -/
structure Accepts (text : Text) : Prop where
  ok : contains "\r\nOK\r\n".toList text = true
  first : isFinal text.dropLast = false

/-- The modem refuses the command. -/
structure Refuses (text : Text) : Prop where
  error : errorText text = true
  other : contains "\r\nOK\r\n".toList text = false

theorem commandLoop_accepts (command : String) (allowError : Bool) {text : Text}
    {chunks : List Bytes} (accepts : Accepts text) (whole : chunks.flatten = Utf8.encode text) :
    commandLoop command allowError [] chunks = .returned text := by
  have final : isFinal text = true := by rw [isFinal, accepts.ok, Bool.true_or]
  have begins : ([] : Bytes) ++ chunks.flatten = Utf8.encode text := whole
  obtain ⟨heard, sub, ends, returns⟩ :=
    commandLoop_heard command allowError final begins (by decide)
  have all : heard = text := by
    have nonempty : text ≠ [] := fun nil => by
      rw [nil] at final
      revert final
      decide
    rw [← List.dropLast_append_getLast nonempty] at sub
    rcases List.prefix_concat_iff.mp sub with same | short
    · rw [same, List.dropLast_append_getLast]
    · have early := isFinal_mono short.isInfix ends
      rw [accepts.first] at early
      cases early
  subst all
  exact returns (.inl accepts.ok)

theorem commandLoop_refuses (command : String) {text : Text} {chunks : List Bytes}
    (refuses : Refuses text) (whole : chunks.flatten = Utf8.encode text) :
    ∃ heard, heard <+: text ∧ errorText heard = true ∧
      commandLoop command true [] chunks = .returned heard := by
  have final : isFinal text = true := by rw [isFinal, refuses.error, Bool.or_true]
  have begins : ([] : Bytes) ++ chunks.flatten = Utf8.encode text := whole
  obtain ⟨heard, sub, ends, returns⟩ := commandLoop_heard command true final begins (by decide)
  refine ⟨heard, sub, ?_, returns (.inr rfl)⟩
  have other : contains "\r\nOK\r\n".toList heard = false := by
    cases ok : contains "\r\nOK\r\n".toList heard with
    | false => rfl
    | true =>
        have occurs := contains_iff.mpr ((contains_iff.mp ok).trans sub.isInfix)
        rw [refuses.other] at occurs
        cases occurs
  rw [isFinal, other, Bool.false_or] at ends
  exact ends

/-! ### Lines of an answer -/

/-- The first line of the text that begins with `lead` goes on with `value`. -/
def HasLine (lead : String) (value text : Text) : Prop :=
  ∃ front behind, linesOf text = front ++ (lead.toList ++ value) :: behind ∧
    ∀ line ∈ front, lead.toList.isPrefixOf line = false

theorem afterColon_of_hasLine {lead : String} (name : Text) {value text : Text}
    (named : lead.toList = name ++ [':']) (plain : ':' ∉ name) (line : HasLine lead value text) :
    afterColon text lead = strip value := by
  obtain ⟨front, behind, split, others⟩ := line
  have found : (linesOf text).find? (fun line => lead.toList.isPrefixOf line) =
      some (lead.toList ++ value) := by
    have none : front.find? (fun line => lead.toList.isPrefixOf line) = none :=
      List.find?_eq_none.mpr fun line mem => by simp [others line mem]
    rw [split, List.find?_append, none, Option.none_or, List.find?_cons_of_pos]
    exact List.isPrefixOf_iff_prefix.mpr (List.prefix_append _ _)
  unfold afterColon
  rw [found]
  dsimp only
  rw [named, List.append_assoc, List.singleton_append, afterFirst_append plain]
  rfl

theorem afterColon_of_absent {lead : String} {text : Text}
    (absent : ∀ line ∈ linesOf text, lead.toList.isPrefixOf line = false) :
    afterColon text lead = "UNKNOWN".toList := by
  have none : (linesOf text).find? (fun line => lead.toList.isPrefixOf line) = none :=
    List.find?_eq_none.mpr fun line mem => by simp [absent line mem]
  unfold afterColon
  rw [none]

/-- What follows a field: nothing, or a comma and more. -/
def Follows (more : Text) : Prop := more = [] ∨ ∃ rest, more = ',' :: rest

theorem splitOn_field {field more : Text} (plain : ',' ∉ field) (follows : Follows more) :
    ∃ others, (field ++ more).splitOn ',' = field :: others := by
  rcases follows with rfl | ⟨rest, rfl⟩
  · exact ⟨[], by rw [List.append_nil, List.splitOn_eq_singleton plain]⟩
  · exact ⟨_, List.splitOn_append_cons_self_of_not_mem plain rest⟩

/-! ### What a radio tells -/

structure Radio where
  /-- as the first line of `ATI` has it -/
  model : Text
  /-- as `AT+CPIN?` has it -/
  sim : Text
  csq : Nat
  /-- the registration status of `AT+CEREG?` -/
  stat : Nat
  operator : Option Text
  attached : Bool
  address : Option Text
  /-- the address that comes with an activation, and whether the activation is refused -/
  activation : Option (Option Text)
deriving DecidableEq, Repr

/-- The lines that `_identity` skips. -/
def skipped : List Text := ["ATI".toList, "OK".toList, []]

/-- The text between the first two quotes. -/
def Quotes (name text : Text) : Prop :=
  ∃ before behind, text = before ++ '"' :: (name ++ '"' :: behind) ∧ '"' ∉ before ∧ '"' ∉ name

/-- The answer of the radio to an exchange of a health check. -/
def Radio.Tells (radio : Radio) (text : Text) : Query → Prop
  | .identity => Accepts text ∧ ∃ front line behind, linesOf text = front ++ line :: behind ∧
      (∀ other ∈ front, strip other ∈ skipped) ∧ strip line = radio.model ∧ radio.model ∉ skipped
  | .sim => Accepts text ∧ ∃ value, HasLine "+CPIN:" value text ∧ strip value = radio.sim
  | .signal => Accepts text ∧ ∃ value errorRate, HasLine "+CSQ:" value text ∧
      strip value = Nat.toDigits 10 radio.csq ++ ',' :: errorRate
  | .registration => Accepts text ∧ ∃ value mode more, HasLine "+CEREG:" value text ∧
      strip value = mode ++ ',' :: (Nat.toDigits 10 radio.stat ++ more) ∧ ',' ∉ mode ∧ Follows more
  | .operator => Accepts text ∧
      match radio.operator with
      | some name => Quotes name text
      | none => '"' ∉ text
  | .defineContext | .attach => Accepts text
  | .attached => Accepts text ∧ ∃ value, HasLine "+CGATT:" value text ∧
      strip value = if radio.attached then "1".toList else "0".toList
  | .address | .addressAgain _ =>
      match radio.address with
      | some ip => Accepts text ∧ ∃ value context more, HasLine "+CGPADDR:" value text ∧
          strip value = context ++ ',' :: '"' :: (ip ++ '"' :: more) ∧ ',' ∉ context ∧
          '"' ∉ context ∧ ',' ∉ ip ∧ '"' ∉ ip ∧ strip ip = ip ∧ ip ≠ [] ∧ Follows more
      | none => (Accepts text ∨ Refuses text) ∧ (∀ line ∈ linesOf text,
            "+CGPADDR:".toList.isPrefixOf line = false) ∨
          Accepts text ∧ ∃ value, HasLine "+CGPADDR:" value text ∧ ',' ∉ strip value
  | .activate =>
      match radio.activation with
      | some _ => Accepts text ∧ contains "ERROR".toList text = false
      | none => Refuses text

/-- What the exchange does to the radio. -/
def Radio.after (radio : Radio) : Query → Radio
  | .attach => { radio with attached := true }
  | .activate =>
      match radio.activation with
      | some address => { radio with address := address }
      | none => radio
  | _ => radio

/-- The SIM is ready and the radio registered, at home or roaming. -/
def Radio.online (radio : Radio) : Bool :=
  radio.sim = "READY".toList && (radio.stat = 1 || radio.stat = 5)

def Radio.registration (radio : Radio) : Registration :=
  if radio.stat = 1 ∨ radio.stat = 5 then .registered else .notRegistered

/-- The radio behind a health check. -/
def Radio.checked (radio : Radio) : Radio :=
  if radio.online then
    if radio.address.isSome then radio.after .attach else (radio.after .attach).after .activate
  else radio

/-- A data link is up behind a health check. -/
def Radio.linked (radio : Radio) : Bool :=
  radio.online && (radio.address.isSome || radio.activation.isSome)

/-! ### Reading one answer -/

theorem identityOf_tells {radio : Radio} {text : Text} (tells : radio.Tells text .identity) :
    identityOf text = radio.model := by
  obtain ⟨-, front, line, behind, split, others, named, given⟩ := tells
  have found : (linesOf text).find? (fun line => strip line ∉ skipped) = some line := by
    have none : front.find? (fun line => strip line ∉ skipped) = none :=
      List.find?_eq_none.mpr fun other mem => by simp [others other mem]
    rw [split, List.find?_append, none, Option.none_or, List.find?_cons_of_pos]
    rw [named]
    exact decide_eq_true given
  have ignored : (linesOf text).find?
      (fun line => strip line ∉ (["ATI".toList, "OK".toList, []] : List Text)) = some line := found
  unfold identityOf
  dsimp only
  rw [ignored]
  exact named

theorem simOf_tells {radio : Radio} {text : Text} (tells : radio.Tells text .sim) :
    afterColon text "+CPIN:" = radio.sim := by
  obtain ⟨-, value, line, named⟩ := tells
  rw [afterColon_of_hasLine "+CPIN".toList rfl (by decide) line]
  exact named

theorem signalOf_tells {radio : Radio} {text : Text} (tells : radio.Tells text .signal) :
    signalOf (afterColon text "+CSQ:") = (some (radio.csq : Int),
      if radio.csq = 99 then none else some (2 * (radio.csq : Int) - 113)) := by
  obtain ⟨-, value, errorRate, line, fields⟩ := tells
  have plain : ∀ c ∈ Nat.toDigits 10 radio.csq, c ≠ ',' := fun c mem same =>
    not_mem_toDigits (by decide) radio.csq (same ▸ mem)
  have first : (Nat.toDigits 10 radio.csq ++ ',' :: errorRate).takeWhile (· ≠ ',') =
      Nat.toDigits 10 radio.csq := by
    rw [List.takeWhile_append_of_pos fun c mem => by simpa using plain c mem]
    simp
  rw [afterColon_of_hasLine "+CSQ".toList rfl (by decide) line, fields]
  unfold signalOf
  rw [first, intOf_toDigits]
  dsimp only
  norm_cast

theorem registrationOf_tells {radio : Radio} {text : Text}
    (tells : radio.Tells text .registration) : registrationOf text = radio.registration := by
  obtain ⟨-, value, mode, more, line, fields, plain, follows⟩ := tells
  obtain ⟨others, split⟩ :=
    splitOn_field (not_mem_toDigits (c := ',') (by decide) radio.stat) follows
  unfold registrationOf
  rw [afterColon_of_hasLine "+CEREG".toList rfl (by decide) line, fields,
    List.splitOn_append_cons_self_of_not_mem plain, split]
  dsimp only
  rw [intOf_toDigits]
  unfold Radio.registration
  simp only [Option.some.injEq]
  norm_cast

theorem operatorOf_tells {radio : Radio} {text : Text} (tells : radio.Tells text .operator) :
    operatorOf text = radio.operator.getD "UNKNOWN".toList := by
  obtain ⟨-, told⟩ := tells
  unfold operatorOf
  cases name : radio.operator with
  | none =>
      rw [name] at told
      have absent : afterFirst '"' text = none := by
        unfold afterFirst
        rw [List.dropWhile_eq_nil_iff.mpr]
        intro c mem
        have other : c ≠ '"' := fun same => told (same ▸ mem)
        simpa using other
      rw [absent]
      rfl
  | some name' =>
      rw [name] at told
      obtain ⟨before, behind, rfl, first, plain⟩ := told
      rw [afterFirst_append first]
      dsimp only
      rw [List.takeWhile_append_of_pos]
      · simp
      · intro c mem
        have other : c ≠ '"' := fun same => plain (same ▸ mem)
        simpa using other

theorem attachedOf_tells {radio : Radio} {text : Text} (tells : radio.Tells text .attached) :
    decide (afterColon text "+CGATT:" = "1".toList) = radio.attached := by
  obtain ⟨-, value, line, named⟩ := tells
  rw [afterColon_of_hasLine "+CGATT".toList rfl (by decide) line, named]
  cases radio.attached <;> rfl

theorem ipAddress_line {text value context ip more : Text} (line : HasLine "+CGPADDR:" value text)
    (fields : strip value = context ++ ',' :: '"' :: (ip ++ '"' :: more)) (comma : ',' ∉ context)
    (quote : '"' ∉ context) (plain : ',' ∉ ip) (unquoted : '"' ∉ ip) (bare : strip ip = ip)
    (given : ip ≠ []) (follows : Follows more) : ipAddress text = some ip := by
  have keep : ∀ part : Text, '"' ∉ part → part.filter (· ≠ '"') = part := fun part free =>
    List.filter_eq_self.mpr fun c mem => by
      have other : c ≠ '"' := fun same => free (same ▸ mem)
      simpa using other
  have values : (strip value).filter (· ≠ '"') =
      context ++ ',' :: (ip ++ more.filter (· ≠ '"')) := by
    have unquote : (ip ++ '"' :: more).filter (· ≠ '"') = ip ++ more.filter (· ≠ '"') := by
      rw [List.filter_append, keep ip unquoted, List.filter_cons_of_neg (by decide)]
    rw [fields, List.filter_append, keep context quote, List.filter_cons_of_pos (by decide),
      List.filter_cons_of_neg (by decide), unquote]
  have behind : Follows (more.filter (· ≠ '"')) := by
    rcases follows with rfl | ⟨rest, rfl⟩
    · exact .inl rfl
    · exact .inr ⟨rest.filter (· ≠ '"'), by simp⟩
  obtain ⟨others, split⟩ := splitOn_field plain behind
  unfold ipAddress
  rw [afterColon_of_hasLine "+CGPADDR".toList rfl (by decide) line]
  dsimp only
  rw [values, List.splitOn_append_cons_self_of_not_mem comma, split]
  dsimp only
  rw [bare, if_neg given]

theorem ipAddress_absent {text : Text}
    (absent : ∀ line ∈ linesOf text, "+CGPADDR:".toList.isPrefixOf line = false) :
    ipAddress text = none := by
  unfold ipAddress
  rw [afterColon_of_absent absent]
  rfl

theorem ipAddress_bare {text value : Text} (line : HasLine "+CGPADDR:" value text)
    (alone : ',' ∉ strip value) : ipAddress text = none := by
  have plain : ',' ∉ (strip value).filter (· ≠ '"') := fun mem => alone (List.mem_of_mem_filter mem)
  unfold ipAddress
  rw [afterColon_of_hasLine "+CGPADDR".toList rfl (by decide) line]
  dsimp only
  rw [List.splitOn_eq_singleton plain]

/-- What begins no line of a text begins no line of a part of it. -/
theorem absent_of_part {lead : Text} {heard text : Text} (sub : heard <+: text)
    (absent : ∀ line ∈ linesOf text, lead.isPrefixOf line = false) :
    ∀ line ∈ linesOf heard, lead.isPrefixOf line = false := by
  intro line mem
  obtain ⟨line', mem', part⟩ := prefix_line (sub.filter _) line mem
  cases begins : lead.isPrefixOf line with
  | false => rfl
  | true =>
      have longer := List.isPrefixOf_iff_prefix.mpr
        ((List.isPrefixOf_iff_prefix.mp begins).trans part)
      rw [absent line' mem'] at longer
      cases longer

/-- What an exchange makes of the text it returns. -/
def Radio.Read (radio : Radio) (heard : Text) : Query → Prop
  | .identity => identityOf heard = radio.model
  | .sim => afterColon heard "+CPIN:" = radio.sim
  | .signal => signalOf (afterColon heard "+CSQ:") = (some (radio.csq : Int),
      if radio.csq = 99 then none else some (2 * (radio.csq : Int) - 113))
  | .registration => registrationOf heard = radio.registration
  | .operator => operatorOf heard = radio.operator.getD "UNKNOWN".toList
  | .defineContext | .attach => True
  | .attached => decide (afterColon heard "+CGATT:" = "1".toList) = radio.attached
  | .address | .addressAgain _ => ipAddress heard = radio.address
  | .activate => contains "ERROR".toList heard = radio.activation.isNone

/-- The command of an exchange. -/
def Query.line (apn : String) : Query → String
  | .identity => "ATI"
  | .sim => "AT+CPIN?"
  | .signal => "AT+CSQ"
  | .registration => "AT+CEREG?"
  | .operator => "AT+COPS?"
  | .defineContext => "AT+CGDCONT=1,\"IP\",\"" ++ apn ++ "\""
  | .attached => "AT+CGATT?"
  | .attach => "AT+CGATT=1"
  | .address | .addressAgain _ => "AT+CGPADDR=1"
  | .activate => "AT+CGACT=1,1"

/-- The exchange passes `allow_error`. -/
def Query.allowsError : Query → Bool
  | .address | .addressAgain _ | .activate => true
  | _ => false

theorem address_heard {radio : Radio} {text : Text} {chunks : List Bytes} (line : String)
    (tells : radio.Tells text .address) (whole : chunks.flatten = Utf8.encode text) :
    ∃ heard, commandLoop line true [] chunks = .returned heard ∧
      ipAddress heard = radio.address := by
  unfold Radio.Tells at tells
  cases address : radio.address with
  | some ip =>
      rw [address] at tells
      obtain ⟨accepts, value, context, more, found, fields, comma, quote, plain, unquoted, bare,
        given, follows⟩ := tells
      exact ⟨text, commandLoop_accepts line true accepts whole,
        ipAddress_line found fields comma quote plain unquoted bare given follows⟩
  | none =>
      rw [address] at tells
      rcases tells with ⟨accepts | refuses, absent⟩ | ⟨accepts, value, found, alone⟩
      · exact ⟨text, commandLoop_accepts line true accepts whole, ipAddress_absent absent⟩
      · obtain ⟨heard, sub, -, returns⟩ := commandLoop_refuses line refuses whole
        exact ⟨heard, returns, ipAddress_absent (absent_of_part sub absent)⟩
      · exact ⟨text, commandLoop_accepts line true accepts whole, ipAddress_bare found alone⟩

theorem activate_heard {radio : Radio} {text : Text} {chunks : List Bytes} (line : String)
    (tells : radio.Tells text .activate) (whole : chunks.flatten = Utf8.encode text) :
    ∃ heard, commandLoop line true [] chunks = .returned heard ∧
      contains "ERROR".toList heard = radio.activation.isNone := by
  unfold Radio.Tells at tells
  cases activation : radio.activation with
  | some address =>
      rw [activation] at tells
      exact ⟨text, commandLoop_accepts line true tells.1 whole, tells.2⟩
  | none =>
      rw [activation] at tells
      obtain ⟨heard, -, error, returns⟩ := commandLoop_refuses line tells whole
      refine ⟨heard, returns, contains_iff.mpr ?_⟩
      have inError : "ERROR".toList <:+: "\r\nERROR\r\n".toList := ⟨['\r', '\n'], ['\r', '\n'], rfl⟩
      have inCme : "ERROR".toList <:+: "+CME ERROR:".toList :=
        ⟨['+', 'C', 'M', 'E', ' '], [':'], rfl⟩
      rcases Bool.or_eq_true_iff.mp error with plain | cme
      · exact inError.trans (contains_iff.mp plain)
      · exact inCme.trans (contains_iff.mp cme)

/-- **The exchange returns the answer, and reads the value of the radio from it.** -/
theorem Radio.Tells.read {radio : Radio} {text : Text} {query : Query} {chunks : List Bytes}
    (line : String) (tells : radio.Tells text query) (whole : chunks.flatten = Utf8.encode text) :
    ∃ heard, commandLoop line query.allowsError [] chunks = .returned heard ∧
      radio.Read heard query := by
  have accepted (accepts : Accepts text) (read : radio.Read text query) :
      ∃ heard, commandLoop line query.allowsError [] chunks = .returned heard ∧
        radio.Read heard query :=
    ⟨text, commandLoop_accepts line _ accepts whole, read⟩
  cases query with
  | identity => exact accepted tells.1 (identityOf_tells tells)
  | sim => exact accepted tells.1 (simOf_tells tells)
  | signal => exact accepted tells.1 (signalOf_tells tells)
  | registration => exact accepted tells.1 (registrationOf_tells tells)
  | operator => exact accepted tells.1 (operatorOf_tells tells)
  | defineContext => exact accepted tells trivial
  | attached => exact accepted tells.1 (attachedOf_tells tells)
  | attach => exact accepted tells trivial
  | address => exact address_heard line tells whole
  | activate => exact activate_heard line tells whole
  | addressAgain activationOk => exact address_heard line tells whole

/-! ### A whole check -/

/-- The attributes that a check reads first are those of the radio. -/
structure Basics (radio : Radio) (m : ModemManager) : Prop where
  model : m.model = radio.model
  sim : m.simStatus = radio.sim
  csq : m.signalCsq = some (radio.csq : Int)
  dbm : m.signalDbm = if radio.csq = 99 then none else some (2 * (radio.csq : Int) - 113)
  registration : m.registration = radio.registration
  operator : m.operator = radio.operator.getD "UNKNOWN".toList

/-- The attributes of the manager are those of the radio. -/
structure Shows (radio : Radio) (m : ModemManager) : Prop where
  basics : Basics radio m
  attached : m.dataAttached = radio.online
  active : m.dataActive = radio.linked
  address : m.mobileIp = if radio.online then radio.checked.address else none
  error : m.lastError = none

/-- What is known at an exchange: of the radio the check began with, of the radio now,
and of the manager. -/
def Knows (radio now : Radio) (m : ModemManager) : Query → Prop
  | .identity => now = radio
  | .sim => now = radio ∧ m.model = radio.model
  | .signal => now = radio ∧ m.model = radio.model ∧ m.simStatus = radio.sim
  | .registration => now = radio ∧ m.model = radio.model ∧ m.simStatus = radio.sim ∧
      m.signalCsq = some (radio.csq : Int) ∧
      m.signalDbm = if radio.csq = 99 then none else some (2 * (radio.csq : Int) - 113)
  | .operator => now = radio ∧ m.model = radio.model ∧ m.simStatus = radio.sim ∧
      m.signalCsq = some (radio.csq : Int) ∧
      (m.signalDbm = if radio.csq = 99 then none else some (2 * (radio.csq : Int) - 113)) ∧
      m.registration = radio.registration
  | .defineContext | .attached | .attach => now = radio ∧ Basics radio m ∧ radio.online = true
  | .address => now = radio.after .attach ∧ Basics radio m ∧ radio.online = true ∧
      m.dataAttached = true
  | .activate => now = radio.after .attach ∧ Basics radio m ∧ radio.online = true ∧
      m.dataAttached = true ∧ radio.address = none
  | .addressAgain activationOk => now = (radio.after .attach).after .activate ∧
      Basics radio m ∧ radio.online = true ∧ m.dataAttached = true ∧ radio.address = none ∧
      activationOk = radio.activation.isSome

/-- The exchanges from this one to the end of the longest check. -/
def Query.left : Query → Nat
  | .identity => 11
  | .sim => 10
  | .signal => 9
  | .registration => 8
  | .operator => 7
  | .defineContext => 6
  | .attached => 5
  | .attach => 4
  | .address => 3
  | .activate => 2
  | .addressAgain _ => 1

theorem Query.left_pos (query : Query) : 0 < query.left := by
  cases query <;> exact Nat.succ_pos _

theorem Radio.online_iff (radio : Radio) : radio.online = true ↔
    radio.sim = "READY".toList ∧ radio.registration = .registered := by
  unfold Radio.online Radio.registration
  by_cases registered : radio.stat = 1 ∨ radio.stat = 5
  · simp [registered]
  · simp [registered]

/-- The check has ended, with the attributes of the radio. -/
def Concluded (radio now : Radio) (s : Monitor) : Prop :=
  (s.pending = .sleeping ∨ s.pending = .pinging) ∧ Shows radio s.modem ∧ now = radio.checked

theorem Monitor.endCheck_rests (cfg : Config) (now : Clock) (startup : Bool) (m : ModemManager) :
    (Monitor.endCheck cfg now startup m).pending = .sleeping ∨
      (Monitor.endCheck cfg now startup m).pending = .pinging := by
  unfold Monitor.endCheck Monitor.beginTest
  dsimp only
  split
  · split
    · exact .inl rfl
    · exact .inr rfl
  · exact .inl rfl

theorem Monitor.endCheck_shows {cfg : Config} {now : Clock} {startup : Bool} {m : ModemManager}
    {radio : Radio} (basics : Basics radio m) (attached : m.dataAttached = radio.online)
    (active : m.dataActive = radio.linked)
    (address : m.mobileIp = if radio.online then radio.checked.address else none) :
    Shows radio (Monitor.endCheck cfg now startup m).modem := by
  obtain ⟨model, sim, csq, dbm, registration, operator⟩ := basics
  unfold Monitor.endCheck Monitor.beginTest
  dsimp only
  split
  · split
    · exact ⟨⟨model, sim, csq, dbm, registration, operator⟩, attached, active, address, rfl⟩
    · exact ⟨⟨model, sim, csq, dbm, registration, operator⟩, attached, active, address, rfl⟩
  · exact ⟨⟨model, sim, csq, dbm, registration, operator⟩, attached, active, address, rfl⟩

/-- The check goes on with an exchange nearer to its end. -/
def GoesOn (radio now : Radio) (startup : Bool) (query : Query) (s : Monitor) : Prop :=
  ∃ query', s.pending = .checking startup query' ∧ query'.left < query.left ∧
    Knows radio now s.modem query'

/-- **One exchange of a check**, in which the radio told the truth. -/
theorem Knows.answered (cfg : Config) (clock : Clock) (startup : Bool) {radio now : Radio}
    {m : ModemManager} {query : Query} {heard : Text} (knows : Knows radio now m query)
    (read : now.Read heard query) :
    GoesOn radio (now.after query) startup query (.answered cfg clock startup m heard query) ∨
      Concluded radio (now.after query) (.answered cfg clock startup m heard query) := by
  cases query with
  | identity =>
      obtain rfl := knows
      exact .inl ⟨.sim, rfl, by decide, rfl, read⟩
  | sim =>
      obtain ⟨rfl, model⟩ := knows
      exact .inl ⟨.signal, rfl, by decide, rfl, model, read⟩
  | signal =>
      obtain ⟨rfl, model, sim⟩ := knows
      exact .inl ⟨.registration, rfl, by decide, rfl, model, sim, congrArg Prod.fst read,
        congrArg Prod.snd read⟩
  | registration =>
      obtain ⟨rfl, model, sim, csq, dbm⟩ := knows
      exact .inl ⟨.operator, rfl, by decide, rfl, model, sim, csq, dbm, read⟩
  | operator =>
      obtain ⟨rfl, model, sim, csq, dbm, registration⟩ := knows
      unfold Monitor.answered
      dsimp only
      split
      · rename_i ready
        have online : now.online = true := by
          rw [now.online_iff, ← sim, ← registration]
          exact ready
        cases m.pdpConfigured with
        | true =>
            exact .inl ⟨.attached, rfl, by decide, rfl,
              ⟨model, sim, csq, dbm, registration, read⟩, online⟩
        | false =>
            exact .inl ⟨.defineContext, rfl, by decide, rfl,
              ⟨model, sim, csq, dbm, registration, read⟩, online⟩
      · rename_i unready
        have offline : now.online = false := by
          rw [Bool.eq_false_iff, ne_eq, now.online_iff, ← sim, ← registration]
          exact unready
        refine .inr ⟨Monitor.endCheck_rests _ _ _ _, Monitor.endCheck_shows ?_ ?_ ?_ ?_, ?_⟩
        · exact ⟨model, sim, csq, dbm, registration, read⟩
        · rw [offline]
          rfl
        · rw [Radio.linked, offline]
          rfl
        · rw [offline]
          rfl
        · rw [Radio.checked, offline]
          rfl
  | defineContext =>
      obtain ⟨rfl, basics, online⟩ := knows
      exact .inl ⟨.attached, rfl, by decide, rfl,
        ⟨basics.model, basics.sim, basics.csq, basics.dbm, basics.registration, basics.operator⟩,
        online⟩
  | attached =>
      obtain ⟨rfl, ⟨model, sim, csq, dbm, registration, operator⟩, online⟩ := knows
      change decide (afterColon heard "+CGATT:" = "1".toList) = now.attached at read
      unfold Monitor.answered
      dsimp only
      rw [read]
      cases attached : now.attached with
      | true =>
          have same : now = now.after .attach := by
            obtain ⟨_, _, _, _, _, _, _, _⟩ := now
            cases attached
            rfl
          exact .inl ⟨.address, rfl, by decide, same,
            ⟨model, sim, csq, dbm, registration, operator⟩, online, rfl⟩
      | false =>
          exact .inl ⟨.attach, rfl, by decide, rfl,
            ⟨model, sim, csq, dbm, registration, operator⟩, online⟩
  | attach =>
      obtain ⟨rfl, ⟨model, sim, csq, dbm, registration, operator⟩, online⟩ := knows
      exact .inl ⟨.address, rfl, by decide, rfl, ⟨model, sim, csq, dbm, registration, operator⟩,
        online, rfl⟩
  | address =>
      obtain ⟨rfl, ⟨model, sim, csq, dbm, registration, operator⟩, online, attached⟩ := knows
      change ipAddress heard = radio.address at read
      unfold Monitor.answered
      dsimp only
      rw [read]
      cases address : radio.address with
      | some ip =>
          have up : (some ip).isSome = true := rfl
          rw [if_pos up]
          refine .inr ⟨Monitor.endCheck_rests _ _ _ _, Monitor.endCheck_shows ?_ ?_ ?_ ?_, ?_⟩
          · exact ⟨model, sim, csq, dbm, registration, operator⟩
          · exact attached.trans online.symm
          · rw [Radio.linked, online, address]
            rfl
          · rw [if_pos online, Radio.checked, if_pos online, address,
              if_pos up]
            exact address.symm
          · rw [Radio.checked, if_pos online, address, if_pos up]
            rfl
      | none =>
          rw [if_neg (by simp)]
          exact .inl ⟨.activate, rfl, by decide, rfl,
            ⟨model, sim, csq, dbm, registration, operator⟩, online, attached, address⟩
  | activate =>
      obtain ⟨rfl, basics, online, attached, address⟩ := knows
      obtain ⟨model, sim, csq, dbm, registration, operator⟩ := basics
      change contains "ERROR".toList heard = radio.activation.isNone at read
      refine .inl ⟨_, rfl, Nat.lt_succ_self 1, rfl,
        ⟨model, sim, csq, dbm, registration, operator⟩, online, attached, address, ?_⟩
      rw [read]
      cases radio.activation <;> rfl
  | addressAgain activationOk =>
      obtain ⟨rfl, ⟨model, sim, csq, dbm, registration, operator⟩, online, attached, address,
        rfl⟩ := knows
      have final : (radio.after .attach).after .activate = radio.checked := by
        rw [Radio.checked, if_pos online, address]
        rfl
      change ipAddress heard = ((radio.after .attach).after .activate).address at read
      refine .inr ⟨Monitor.endCheck_rests _ _ _ _, Monitor.endCheck_shows ?_ ?_ ?_ ?_, final⟩
      · exact ⟨model, sim, csq, dbm, registration, operator⟩
      · exact attached.trans online.symm
      · have brings : ((radio.after .attach).after .activate).address.isSome = true →
            radio.activation.isSome = true := by
          cases activation : radio.activation with
          | some _ => exact fun _ => rfl
          | none =>
              have unchanged : ((radio.after .attach).after .activate).address = radio.address := by
                simp [Radio.after, activation]
              rw [unchanged, address]
              exact id
        change ((ipAddress heard).isSome || radio.activation.isSome) = radio.linked
        rw [read, Radio.linked, online, address]
        cases up : ((radio.after .attach).after .activate).address.isSome with
        | true => rw [brings up]; rfl
        | false => rfl
      · rw [if_pos online, ← final]
        exact read

/-- One exchange of a check: the clock behind it, and the chunks its polls read. -/
def Monitor.exchange (cfg : Config) (apn : String) (s : Monitor) (i : Clock × List Bytes) :
    Option Monitor :=
  match s.pending with
  | .checking _ query =>
      s.resume cfg i.1 (commandLoop (query.line apn) query.allowsError [] i.2)
  | _ => none

/-- A health check with its radio, from the first exchange on. -/
def healthCheck (cfg : Config) (apn : String) (startup : Bool) (m : ModemManager) (radio : Radio) :
    System (Monitor × Radio) (Clock × List Bytes) where
  init := (⟨m, .checking startup .identity⟩, radio)
  step := fun (s, radio) i => (s.exchange cfg apn i).map fun s' =>
    (s', match s.pending with
      | .checking _ query => radio.after query
      | _ => radio)

/-- The chunks are those of a true answer. -/
def Truthful (s : Monitor × Radio) (i : Clock × List Bytes) : Prop :=
  ∀ startup query, s.1.pending = .checking startup query →
    ∃ text, i.2.flatten = Utf8.encode text ∧ s.2.Tells text query

variable {cfg : Config} {apn : String} {startup : Bool} {m : ModemManager} {radio now : Radio}
  {is : List (Clock × List Bytes)} {s : Monitor}

/-- **A health check that is answered ends within eleven exchanges, and then shows what
the radio says.** -/
theorem check_reads (run : Run (healthCheck cfg apn startup m radio) is (s, now))
    (truthful : EachStep (healthCheck cfg apn startup m radio) Truthful is) :
    is.length ≤ 11 ∧ (s.pending.inCheck = true ∧ is.length < 11 ∨ Concluded radio now s) := by
  have holds : (∃ query, s.pending = .checking startup query ∧ is.length + query.left ≤ 11 ∧
      Knows radio now s.modem query) ∨ is.length ≤ 11 ∧ Concluded radio now s := by
    generalize final : (s, now) = last at run
    induction run generalizing s now with
    | start =>
        cases final
        exact .inl ⟨.identity, rfl, by decide, rfl⟩
    | @next is before last i run step ih =>
        subst final
        obtain ⟨s₀, now₀⟩ := before
        obtain ⟨s', exchanged, same⟩ := Option.map_eq_some_iff.mp step
        cases same
        have earlier := ih (truthful.mono_prefix (List.prefix_append _ _)) rfl
        rcases earlier with ⟨query, pending, left, knows⟩ | ⟨-, outside, -⟩
        · obtain ⟨text, whole, tells⟩ :=
            truthful is i (s₀, now₀) (List.prefix_refl _) run startup query pending
          obtain ⟨heard, returns, read⟩ := tells.read (query.line apn) whole
          obtain ⟨modem, _⟩ := s₀
          obtain rfl : _ = Await.checking startup query := pending
          simp only [Monitor.exchange, returns, Monitor.resume, Option.some.injEq] at exchanged
          subst exchanged
          have positive := query.left_pos
          rcases knows.answered cfg i.1 startup read with
            ⟨query', pending', less, knows'⟩ | concluded
          · refine .inl ⟨query', pending', ?_, knows'⟩
            rw [List.length_append, List.length_singleton]
            omega
          · refine .inr ⟨?_, concluded⟩
            rw [List.length_append, List.length_singleton]
            omega
        · unfold Monitor.exchange at exchanged
          rcases outside with pending | pending <;> simp [pending] at exchanged
  rcases holds with ⟨query, pending, left, -⟩ | ⟨few, concluded⟩
  · have positive := query.left_pos
    refine ⟨by omega, .inl ⟨by rw [pending]; rfl, by omega⟩⟩
  · exact ⟨few, .inr concluded⟩

/-- A true answer takes the check on. -/
theorem check_next {startup' : Bool} {query : Query} {t : Text} {i : Clock × List Bytes}
    (ahead : Run (healthCheck cfg apn startup m radio) is (s, now) ∧
      EachStep (healthCheck cfg apn startup m radio) Truthful is)
    (pending : s.pending = .checking startup' query) (accepts : Accepts t)
    (whole : i.2.flatten = Utf8.encode t) (tells : now.Tells t query) :
    Run (healthCheck cfg apn startup m radio) (is ++ [i])
        (.answered cfg i.1 startup' s.modem t query, now.after query) ∧
      EachStep (healthCheck cfg apn startup m radio) Truthful (is ++ [i]) := by
  obtain ⟨run, truthful⟩ := ahead
  obtain ⟨modem, _⟩ := s
  obtain rfl : _ = Await.checking startup' query := pending
  refine ⟨.next run ?_, truthful.snoc run fun startup query' same => ?_⟩
  · simp only [healthCheck, Monitor.exchange, commandLoop_accepts _ _ accepts whole, Monitor.resume,
      Option.map_some]
  · cases same
    exact ⟨t, whole, tells⟩

/-- A radio with an address. -/
def homeRadio : Radio where
  model := "A7670E".toList
  sim := "READY".toList
  csq := 20
  stat := 1
  operator := some "AIS".toList
  attached := true
  address := some "10.1.2.3".toList
  activation := none

/-- What `homeRadio` answers. -/
def homeText : Query → Text
  | .identity => "\r\nA7670E\r\n\r\nOK\r\n".toList
  | .sim => "\r\n+CPIN: READY\r\n\r\nOK\r\n".toList
  | .signal => "\r\n+CSQ: 20,99\r\n\r\nOK\r\n".toList
  | .registration => "\r\n+CEREG: 0,1\r\n\r\nOK\r\n".toList
  | .operator => "\r\n+COPS: 0,0,\"AIS\",7\r\n\r\nOK\r\n".toList
  | .defineContext | .attach => "\r\nOK\r\n".toList
  | .attached => "\r\n+CGATT: 1\r\n\r\nOK\r\n".toList
  | .address | .addressAgain _ => "\r\n+CGPADDR: 1,\"10.1.2.3\"\r\n\r\nOK\r\n".toList
  | .activate => "\r\nERROR\r\n".toList

theorem homeText_accepts (query : Query) (other : query ≠ .activate) :
    Accepts (homeText query) := by
  cases query with
  | activate => exact absurd rfl other
  | addressAgain activationOk => exact (⟨by decide, by decide⟩ : Accepts (homeText .address))
  | _ => exact ⟨by decide, by decide⟩

theorem homeText_tells (query : Query) : homeRadio.Tells (homeText query) query := by
  have line : ∀ {lead : String} {value : Text} (query : Query),
      linesOf (homeText query) = [[], lead.toList ++ value, [], "OK".toList, []] →
      lead.toList.isPrefixOf [] = false → HasLine lead value (homeText query) :=
    fun query split empty => ⟨[[]], [[], "OK".toList, []], split, by simpa using empty⟩
  have accepts := homeText_accepts query
  cases query with
  | identity =>
      exact ⟨accepts nofun, [[]], "A7670E".toList, [[], "OK".toList, []], by decide, by decide,
        by decide, by decide⟩
  | sim => exact ⟨accepts nofun, " READY".toList, line .sim (by decide) (by decide), by decide⟩
  | signal =>
      exact ⟨accepts nofun, " 20,99".toList, "99".toList, line .signal (by decide) (by decide),
        by decide⟩
  | registration =>
      exact ⟨accepts nofun, " 0,1".toList, "0".toList, [],
        line .registration (by decide) (by decide), by decide, by decide, .inl rfl⟩
  | operator =>
      exact ⟨accepts nofun, "\r\n+COPS: 0,0,".toList, ",7\r\n\r\nOK\r\n".toList, by decide,
        by decide, by decide⟩
  | defineContext => exact accepts nofun
  | attached =>
      exact ⟨accepts nofun, " 1".toList, line .attached (by decide) (by decide), by decide⟩
  | attach => exact accepts nofun
  | address =>
      exact ⟨accepts nofun, " 1,\"10.1.2.3\"".toList, "1".toList, [],
        line .address (by decide) (by decide), by decide, by decide, by decide, by decide,
        by decide, by decide, by decide, .inl rfl⟩
  | activate => exact ⟨by decide, by decide⟩
  | addressAgain activationOk =>
      exact ⟨accepts nofun, " 1,\"10.1.2.3\"".toList, "1".toList, [],
        line .address (by decide) (by decide), by decide, by decide, by decide,
        by decide, by decide, by decide, by decide, .inl rfl⟩

/-- The check of a manager that has defined its context. -/
def homeCheck : System (Monitor × Radio) (Clock × List Bytes) :=
  healthCheck .shipped "internet" false { ModemManager.init with pdpConfigured := true } homeRadio

/-- The answer to one exchange, in two chunks. -/
def inChunks (query : Query) : Clock × List Bytes :=
  let bytes := Utf8.encode (homeText query)
  (⟨0, "2024-01-01 00:00:00 UTC"⟩, [bytes.take 9, bytes.drop 9])

def homeAnswers : List (Clock × List Bytes) :=
  [inChunks .identity, inChunks .sim, inChunks .signal, inChunks .registration, inChunks .operator,
    inChunks .attached, inChunks .address]

theorem homeRun : ∃ s, Run homeCheck homeAnswers s ∧ EachStep homeCheck Truthful homeAnswers ∧
    s.1.modem.dataActive = true := by
  have start : Run homeCheck [] homeCheck.init ∧ EachStep homeCheck Truthful [] := ⟨.start, .nil⟩
  have whole (query : Query) : (inChunks query).2.flatten = Utf8.encode (homeText query) := by
    simp [inChunks]
  have told₁ := check_next start rfl (homeText_accepts .identity nofun) (whole _)
    (homeText_tells _)
  have told₂ := check_next told₁ rfl (homeText_accepts .sim nofun) (whole _)
    (homeText_tells _)
  have told₃ := check_next told₂ rfl (homeText_accepts .signal nofun) (whole _)
    (homeText_tells _)
  have told₄ := check_next told₃ rfl (homeText_accepts .registration nofun) (whole _)
    (homeText_tells _)
  have told₅ := check_next told₄ rfl (homeText_accepts .operator nofun) (whole _)
    (homeText_tells _)
  have told₆ := check_next told₅ rfl (homeText_accepts .attached nofun) (whole _)
    (homeText_tells _)
  have told₇ := check_next told₆ rfl (homeText_accepts .address nofun) (whole _)
    (homeText_tells _)
  exact ⟨_, told₇.1, told₇.2, rfl⟩

theorem check_reads_home : ∃ s now, (homeAnswers.length ≤ 11 ∧
    (s.pending.inCheck = true ∧ homeAnswers.length < 11 ∨ Concluded homeRadio now s)) ∧
    s.modem.dataActive = true := by
  obtain ⟨⟨s, now⟩, run, truthful, active⟩ := homeRun
  exact ⟨s, now, check_reads run truthful, active⟩

end EdgeGateway.Modem
