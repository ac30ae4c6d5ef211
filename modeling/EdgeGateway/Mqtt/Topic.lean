import EdgeGateway.Json
import EdgeGateway.Lib.Seq
import Mathlib.Data.List.Infix

/-!
Topics and message kinds: `_safe`, `_topic` and `_message_kind`.

The suffix of a topic and the kind of a message are computed by two cascades
over the same two fields. `topicSuffix_eq` says the cascades stay in step, and
`kindOfTopic_topic` reads the kind back from the finished topic string. So two
messages with one topic have one kind (`messageKind_eq_of_topic_eq`), which is
what lets the queue coalesce by topic. The levels of a topic can be read back as
well, since `_safe` leaves no separator in them (`topic_eq_iff`). `topic_grammar`
says what a topic looks like, whatever the message holds.
-/

namespace EdgeGateway.Mqtt

open EdgeGateway.Lib

/-! ### Configuration and kinds -/

/-- The settings of `config.py` the publisher reads. -/
structure Config where
  queueCapacity : Nat
  reconnectMaxSeconds : Nat
  topicPrefix : String
  commandTopic : String
  responseTopic : String
  clientId : String

/-- The values of `config.example.py`. -/
def Config.shipped : Config where
  queueCapacity := 20
  reconnectMaxSeconds := 300
  topicPrefix := "dt/iiot-lab/factory1"
  commandTopic := "cmd/iiot-lab/factory1/gateway/lte-gw-01/request"
  responseTopic := "cmd/iiot-lab/factory1/gateway/lte-gw-01/response"
  clientId := "lte-gw-01"

/-- The third component of a queue entry. -/
inductive Kind where
  | event | response | diagnostic | fast | slow | telemetry
deriving DecidableEq, Repr

/-- `kind in ("event", "response")`. -/
def Kind.important : Kind → Bool
  | .event | .response => true
  | .diagnostic | .fast | .slow | .telemetry => false

/-! ### `_message_kind` -/

def messageType (parsed : Dict) : Text :=
  lower (parsed.get "message_type" (.str "telemetry")).strText

def dataClass (parsed : Dict) : Text :=
  lower (parsed.get "data_class" (.str "")).strText

def messageKind (parsed : Dict) : Kind :=
  if messageType parsed = "event".toList ∨ dataClass parsed = "event".toList then .event
  else if messageType parsed = "diagnostic".toList ∨ dataClass parsed = "diagnostic".toList then
    .diagnostic
  else if dataClass parsed = "fast".toList then .fast
  else if dataClass parsed = "slow".toList then .slow
  else .telemetry

theorem messageKind_ne_response (parsed : Dict) : messageKind parsed ≠ .response := by
  unfold messageKind
  split_ifs <;> simp

/-- A message is important exactly when it is an event. -/
theorem important_messageKind (parsed : Dict) :
    (messageKind parsed).important = true ↔ messageKind parsed = .event := by
  unfold messageKind
  split_ifs <;> simp [Kind.important]

/-! ### `_safe` and `_topic` -/

/-- The characters `_safe` keeps. -/
def validChar (c : Char) : Bool :=
  (48 ≤ c.toNat && c.toNat ≤ 57) || (97 ≤ c.toNat && c.toNat ≤ 122) || c = '-'

/-- `_safe`: trim, fold, replace, cut to 40 characters, never empty. -/
def safe (value : Json) : Text :=
  let result := (lower (strip value.strText)).map fun c => if validChar c then c else '-'
  let cut := result.take 40
  if cut = [] then "unknown".toList else cut

def topicArea (parsed : Dict) : Text :=
  safe (parsed.get "area" (parsed.get "site" (.str "process")))

def topicDeviceType (parsed : Dict) : Text :=
  safe (parsed.get "device_type" (.str "device"))

def topicDeviceId (parsed : Dict) : Text :=
  safe (parsed.get "device_id" (parsed.get "node_id" (.str "unknown")))

def topicSuffix (parsed : Dict) : Text :=
  if messageType parsed = "event".toList ∨ dataClass parsed = "event".toList then "event".toList
  else if messageType parsed = "diagnostic".toList ∨ dataClass parsed = "diagnostic".toList then
    "diagnostic".toList
  else if dataClass parsed = "fast".toList then "telemetry/fast".toList
  else if dataClass parsed = "slow".toList then "telemetry/slow".toList
  -- Preserve the original topic for existing clients.
  else "telemetry".toList

def topic (cfg : Config) (parsed : Dict) : String :=
  String.ofList (cfg.topicPrefix.toList ++ '/' :: topicArea parsed ++ '/' :: topicDeviceType parsed
    ++ '/' :: topicDeviceId parsed ++ '/' :: topicSuffix parsed)

/-! ### The topic names the kind -/

/-- The suffix that names a kind. `_topic` never produces the one for responses. -/
def Kind.suffix : Kind → Text
  | .event => "event".toList
  | .response => "response".toList
  | .diagnostic => "diagnostic".toList
  | .fast => "telemetry/fast".toList
  | .slow => "telemetry/slow".toList
  | .telemetry => "telemetry".toList

/-- The two cascades agree. -/
theorem topicSuffix_eq (parsed : Dict) : topicSuffix parsed = (messageKind parsed).suffix := by
  unfold topicSuffix messageKind
  split_ifs <;> rfl

/-- The kind a topic's suffix names. -/
def kindOfTopic (topic : String) : Option Kind :=
  [Kind.event, .diagnostic, .fast, .slow, .telemetry].find? fun kind =>
    ('/' :: kind.suffix).isSuffixOf topic.toList

/-- No topic suffix ends in another one. -/
theorem Kind.eq_of_suffix {k k' : Kind} (hk : k ≠ .response) (hk' : k' ≠ .response)
    (ends : '/' :: k.suffix <:+ '/' :: k'.suffix) : k = k' := by
  revert ends
  cases k <;> cases k' <;> decide

theorem suffix_iff (front : Text) {k k' : Kind} (hk : k ≠ .response) (hk' : k' ≠ .response) :
    '/' :: k.suffix <:+ front ++ '/' :: k'.suffix ↔ k = k' := by
  constructor
  · intro ends
    rcases List.suffix_or_suffix_of_suffix ends (List.suffix_append front _) with short | long
    · exact Kind.eq_of_suffix hk hk' short
    · exact (Kind.eq_of_suffix hk' hk long).symm
  · rintro rfl
    exact List.suffix_append front _

theorem kindOfTopic_ofList (front : Text) {kind : Kind} (named : kind ≠ .response) :
    kindOfTopic (String.ofList (front ++ '/' :: kind.suffix)) = some kind := by
  have test : ∀ k : Kind, k ≠ .response →
      ('/' :: k.suffix).isSuffixOf (front ++ '/' :: kind.suffix) = decide (k = kind) := by
    intro k hk
    rw [Bool.eq_iff_iff, List.isSuffixOf_iff_suffix, decide_eq_true_iff]
    exact suffix_iff front hk named
  simp only [kindOfTopic, String.toList_ofList, List.find?_cons, List.find?_nil]
  rw [test .event (by decide), test .diagnostic (by decide), test .fast (by decide),
    test .slow (by decide), test .telemetry (by decide)]
  cases kind <;> first | rfl | contradiction

/-- The suffix of a message's topic names the message's kind. -/
theorem kindOfTopic_topic (cfg : Config) (parsed : Dict) :
    kindOfTopic (topic cfg parsed) = some (messageKind parsed) := by
  unfold topic
  rw [topicSuffix_eq]
  exact kindOfTopic_ofList _ (messageKind_ne_response parsed)

theorem messageKind_eq_of_topic_eq {cfg : Config} {p q : Dict}
    (same : topic cfg p = topic cfg q) : messageKind p = messageKind q := by
  have kinds := kindOfTopic_topic cfg p
  rw [same, kindOfTopic_topic cfg q] at kinds
  exact (Option.some.inj kinds).symm

/-! ### The levels of a topic -/

/-- `_safe` leaves letters, digits and dashes only. -/
theorem validChar_of_mem_safe {value : Json} {c : Char} (mem : c ∈ safe value) :
    validChar c = true := by
  unfold safe at mem
  dsimp only at mem
  split at mem
  · have unknown : "unknown".toList.all validChar = true := by decide
    exact List.all_eq_true.mp unknown c mem
  · obtain ⟨d, -, rfl⟩ := List.mem_map.mp (List.mem_of_mem_take mem)
    split
    · assumption
    · rfl

theorem slash_not_mem_safe (value : Json) : '/' ∉ safe value := fun mem => by
  have valid := validChar_of_mem_safe mem
  revert valid
  decide

/-- `_safe` never returns an empty text, and cuts at 40 characters. -/
theorem length_safe (value : Json) : 1 ≤ (safe value).length ∧ (safe value).length ≤ 40 := by
  unfold safe
  dsimp only
  split
  · decide
  · rename_i kept
    constructor
    · exact List.length_pos_of_ne_nil kept
    · rw [List.length_take]
      exact Nat.min_le_left _ _

/-- A level of a topic: 1 to 40 lowercase letters, digits and dashes. -/
structure TopicLevel (level : Text) : Prop where
  one_le : 1 ≤ level.length
  le_forty : level.length ≤ 40
  chars : ∀ c ∈ level, ('0' ≤ c ∧ c ≤ '9') ∨ ('a' ≤ c ∧ c ≤ 'z') ∨ c = '-'

theorem validChar_iff {c : Char} :
    validChar c = true ↔ ('0' ≤ c ∧ c ≤ '9') ∨ ('a' ≤ c ∧ c ≤ 'z') ∨ c = '-' := by
  simp only [validChar, Bool.or_eq_true, Bool.and_eq_true, decide_eq_true_eq, or_assoc]
  rfl

theorem level_safe (value : Json) : TopicLevel (safe value) where
  one_le := (length_safe value).1
  le_forty := (length_safe value).2
  chars _ mem := validChar_iff.mp (validChar_of_mem_safe mem)

/-- **Messages share a topic exactly when they agree on its levels and in kind.** -/
theorem topic_eq_iff {cfg : Config} {p q : Dict} :
    topic cfg p = topic cfg q ↔
      topicArea p = topicArea q ∧ topicDeviceType p = topicDeviceType q ∧
        topicDeviceId p = topicDeviceId q ∧ messageKind p = messageKind q := by
  constructor
  · intro same
    have kind := messageKind_eq_of_topic_eq same
    have texts := congrArg String.toList same
    simp only [topic, String.toList_ofList, List.append_assoc, List.cons_append,
      List.append_cancel_left_eq, List.cons.injEq, true_and] at texts
    obtain ⟨area, texts⟩ := first_split (slash_not_mem_safe _) (slash_not_mem_safe _) texts
    obtain ⟨deviceType, texts⟩ := first_split (slash_not_mem_safe _) (slash_not_mem_safe _) texts
    obtain ⟨deviceId, -⟩ := first_split (slash_not_mem_safe _) (slash_not_mem_safe _) texts
    exact ⟨area, deviceType, deviceId, kind⟩
  · rintro ⟨area, deviceType, deviceId, kind⟩
    unfold topic
    rw [area, deviceType, deviceId, topicSuffix_eq, topicSuffix_eq, kind]

/-! ### The grammar of a topic -/

/-- What stands behind the prefix of a topic. -/
def levels (parsed : Dict) : Text :=
  '/' :: topicArea parsed ++ '/' :: topicDeviceType parsed ++ '/' :: topicDeviceId parsed
    ++ '/' :: topicSuffix parsed

def suffixes : List Text :=
  ["event".toList, "diagnostic".toList, "telemetry/fast".toList, "telemetry/slow".toList,
    "telemetry".toList]

theorem topicSuffix_mem (parsed : Dict) : topicSuffix parsed ∈ suffixes := by
  unfold topicSuffix
  split_ifs <;> simp [suffixes]

/-- What a message must not bring into a topic besides separators: the wildcards
of subscriptions, and control characters. -/
def Harmful (c : Char) : Prop :=
  c = '+' ∨ c = '#' ∨ c.toNat < 32 ∨ (127 ≤ c.toNat ∧ c.toNat < 160)

theorem not_harmful_of_validChar {c : Char} (valid : validChar c = true) : ¬ Harmful c := by
  simp only [validChar, Bool.or_eq_true, Bool.and_eq_true, decide_eq_true_eq] at valid
  rintro (rfl | rfl | control)
  · revert valid; decide
  · revert valid; decide
  · rcases valid with digitOrLetter | rfl
    · omega
    · revert control; decide

theorem TopicLevel.not_harmful {level : Text} (wf : TopicLevel level) {c : Char} (mem : c ∈ level) :
    ¬ Harmful c :=
  not_harmful_of_validChar (validChar_iff.mpr (wf.chars c mem))

theorem TopicLevel.count_slash {level : Text} (wf : TopicLevel level) : level.count '/' = 0 := by
  apply List.count_eq_zero.mpr
  intro mem
  have valid := validChar_iff.mpr (wf.chars '/' mem)
  revert valid
  decide

/-- The characters of a suffix are letters, and the separator of the two-level ones. -/
theorem not_harmful_of_mem_suffix {suffix : Text} (known : suffix ∈ suffixes) {c : Char}
    (mem : c ∈ suffix) : ¬ Harmful c := by
  have each : suffixes.all (fun text => text.all fun d => validChar d || d == '/') = true := by
    decide
  have here := List.all_eq_true.mp (List.all_eq_true.mp each suffix known) c mem
  rcases (Bool.or_eq_true _ _).mp here with valid | slash
  · exact not_harmful_of_validChar valid
  · rw [beq_iff_eq.mp slash]
    unfold Harmful
    decide

theorem level_topicArea (parsed : Dict) : TopicLevel (topicArea parsed) := level_safe _

theorem level_topicDeviceType (parsed : Dict) : TopicLevel (topicDeviceType parsed) := level_safe _

theorem level_topicDeviceId (parsed : Dict) : TopicLevel (topicDeviceId parsed) := level_safe _

theorem topic_eq_append (cfg : Config) (parsed : Dict) :
    topic cfg parsed = cfg.topicPrefix ++ String.ofList (levels parsed) := by
  apply String.toList_injective
  simp only [topic, levels, String.toList_append, String.toList_ofList, List.append_assoc]

/-- The separators behind the prefix are the four that `_topic` writes and those of the suffix. -/
theorem count_slash_levels (parsed : Dict) :
    (levels parsed).count '/' = 4 + (topicSuffix parsed).count '/' := by
  have area := (level_topicArea parsed).count_slash
  have deviceType := (level_topicDeviceType parsed).count_slash
  have deviceId := (level_topicDeviceId parsed).count_slash
  unfold levels
  simp only [List.cons_append, List.append_assoc, List.count_cons_self, List.count_append,
    area, deviceType, deviceId]
  omega

theorem not_harmful_of_mem_levels {parsed : Dict} {c : Char} (mem : c ∈ levels parsed) :
    ¬ Harmful c := by
  have slash : ¬ Harmful '/' := by unfold Harmful; decide
  simp only [levels, List.mem_append, List.mem_cons] at mem
  rcases mem with ((((rfl | here) | rfl | here) | rfl | here) | rfl | here)
  · exact slash
  · exact (level_topicArea parsed).not_harmful here
  · exact slash
  · exact (level_topicDeviceType parsed).not_harmful here
  · exact slash
  · exact (level_topicDeviceId parsed).not_harmful here
  · exact slash
  · exact not_harmful_of_mem_suffix (topicSuffix_mem parsed) here

/-- **The grammar of a topic.** Behind the prefix of the configuration stand three
levels of 1 to 40 lowercase letters, digits and dashes, and one of five suffixes,
so no field of a message brings in a separator, a wildcard or a control character.
Two messages share a topic exactly when they agree on the three levels and in kind. -/
theorem topic_grammar (cfg : Config) (p q : Dict) :
    (topic cfg p = cfg.topicPrefix ++ String.ofList (levels p) ∧
      TopicLevel (topicArea p) ∧ TopicLevel (topicDeviceType p) ∧ TopicLevel (topicDeviceId p) ∧
      topicSuffix p ∈ suffixes ∧
      (levels p).count '/' = 4 + (topicSuffix p).count '/' ∧ ∀ c ∈ levels p, ¬ Harmful c) ∧
    (topic cfg p = topic cfg q ↔
      topicArea p = topicArea q ∧ topicDeviceType p = topicDeviceType q ∧
        topicDeviceId p = topicDeviceId q ∧ messageKind p = messageKind q) := by
  constructor
  · refine ⟨topic_eq_append cfg p, level_topicArea p, level_topicDeviceType p,
      level_topicDeviceId p, topicSuffix_mem p, count_slash_levels p, ?_⟩
    intro c mem
    exact not_harmful_of_mem_levels mem
  · exact topic_eq_iff

/-- A response topic that does not begin like the telemetry prefix is none of the
topics `_topic` produces. -/
theorem topic_ne_of_not_prefix {cfg : Config} {name : String}
    (apart : ¬ cfg.topicPrefix.toList <+: name.toList) (parsed : Dict) :
    topic cfg parsed ≠ name := by
  rintro rfl
  apply apart
  unfold topic
  rw [String.toList_ofList]
  simp only [List.append_assoc]
  exact List.prefix_append _ _

theorem Config.shipped_response_apart (parsed : Dict) :
    topic Config.shipped parsed ≠ Config.shipped.responseTopic :=
  topic_ne_of_not_prefix (by decide) parsed

end EdgeGateway.Mqtt
