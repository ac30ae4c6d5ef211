import EdgeGateway.Devices
import EdgeGateway.Mqtt.Ledger

/-!
Whose telemetry a message replaces.

The registry files a packet under the text of its identity, and the queue
coalesces by topic, whose third level is the identity after `_safe`. So one
device's message replaces another's only where `_safe` makes their levels equal
(`replaced_same_levels`), which it does of identities that differ in case or in
the characters it puts a dash for (`renamed_device_replaced`).
-/

namespace EdgeGateway.Mqtt

open EdgeGateway.Lib EdgeGateway.Devices

/-! ### Two identities -/

/-- The packet carries an identity that the topic looks at. -/
def Named (p : Dict) : Prop :=
  (List.lookup "device_id" p).isSome = true ∨ (List.lookup "node_id" p).isSome = true

instance (p : Dict) : Decidable (Named p) := inferInstanceAs (Decidable (_ ∨ _))

/-- `_safe` looks at the text of a value only. -/
theorem safe_strText (value : Json) : safe (.str (String.ofList value.strText)) = safe value := by
  unfold safe
  rw [show (Json.str (String.ofList value.strText)).strText = value.strText from
    String.toList_ofList]

/-- The third level of a topic is the registry's key after `_safe`. -/
theorem topicDeviceId_eq {p : Dict} (named : Named p) (ip : String) :
    topicDeviceId p = safe (.str (String.ofList (nodeIdOf ip (.dict p)))) := by
  unfold nodeIdOf topicDeviceId
  rw [safe_strText]
  simp only [field, Dict.get]
  cases first : List.lookup "device_id" p with
  | some value => rfl
  | none =>
      cases second : List.lookup "node_id" p with
      | some value => rfl
      | none => simp [Named, first, second] at named

/-! ### Replacing -/

section Replace

variable (cfg : Config) (codec : Codec)

/-- The call `enqueue(payload, p)` of the run offered `m`. -/
def SentAs (is : List Input) (payload : String) (p : Dict) (m : Message) : Prop :=
  ∃ js later l, is = js ++ .enqueue payload (.dict p) :: later ∧ Run (publisher cfg codec) js l ∧
    m = ⟨topic cfg p, l.number payload, messageKind p⟩

/-- The call `enqueue(payload, q)` would coalesce over `m`. -/
def Replaces (l : Ledger) (payload : String) (q : Dict) (m : Message) : Prop :=
  ∃ l' new, l.step cfg codec (.enqueue payload (.dict q)) = some l' ∧
    l'.history.replaced = l.history.replaced ++ [(m, new)]

variable {cfg codec} {is : List Input} {l : Ledger} {payload : String} {q : Dict} {m : Message}

/-- What a call replaces has the topic of the call's message. -/
theorem Replaces.topic (replaces : Replaces cfg codec l payload q m) : m.topic = topic cfg q := by
  obtain ⟨l', new, step, replaced⟩ := replaces
  obtain ⟨s', -, rfl⟩ := Option.map_eq_some_iff.mp step
  obtain ⟨queue', call, -⟩ := enqueueDict_spec cfg l.service.mqtt (l.number payload) q
  have act : l.act? cfg codec (.enqueue payload (.dict q)) =
      (l.offers cfg codec (.enqueue payload (.dict q))).map .offer := Ledger.act?_call (by simp)
  simp only [Ledger.book, act, Ledger.offers, Option.map_some, History.act, History.offer,
    Ledger.desk, Ledger.queue] at replaced
  generalize verdict cfg l.service.mqtt.queue _ = branch at call replaced
  generalize l.service.mqtt.queue = queue at call
  cases call with
  | coalesced _ matched =>
      obtain ⟨same, -⟩ := Prod.mk.inj (List.singleton_injective (List.append_cancel_left replaced))
      exact same ▸ (of_coalesces matched).1
  | appended | inserted | evicting | rejected =>
      have lengths := congrArg List.length replaced
      simp at lengths

variable {p : Dict} {sentPayload : String}

/-- **A message replaces another one's queued message only if the two agree on
every level of the topic and in kind, and where both name a device, only if the
registry's keys are the same after `_safe`.** -/
theorem replaced_same_levels (ipP ipQ : String) (sent : SentAs cfg codec is sentPayload p m)
    (replaces : Replaces cfg codec l payload q m) :
    topicArea p = topicArea q ∧ topicDeviceType p = topicDeviceType q ∧
      topicDeviceId p = topicDeviceId q ∧ messageKind p = messageKind q ∧
      (Named p → Named q →
        safe (.str (String.ofList (nodeIdOf ipP (.dict p)))) =
          safe (.str (String.ofList (nodeIdOf ipQ (.dict q))))) := by
  obtain ⟨js, later, before, -, -, rfl⟩ := sent
  obtain ⟨area, deviceType, deviceId, kind⟩ := topic_eq_iff.mp replaces.topic
  refine ⟨area, deviceType, deviceId, kind, fun namedP namedQ => ?_⟩
  rw [← topicDeviceId_eq namedP, ← topicDeviceId_eq namedQ]
  exact deviceId

/-! ### A device that writes its name differently -/

def pump : Dict := [("device_id", .str "PUMP_1"), ("data_class", .str "fast")]

def otherPump : Dict := [("device_id", .str "pump-1"), ("data_class", .str "fast")]

/-- The first pump's reading is queued. -/
def pumpQueued : Ledger :=
  ((publisher .shipped idleCodec).exec [.enqueue "21.5" (.dict pump)]).get (by decide)

theorem pumpQueued_run :
    Run (publisher .shipped idleCodec) [.enqueue "21.5" (.dict pump)] pumpQueued :=
  run_iff_exec.mpr (Option.some_get _).symm

def pumpReading : Message :=
  ⟨topic .shipped pump, ⟨0, "21.5"⟩, .fast⟩

theorem pumpReading_sent :
    SentAs .shipped idleCodec [.enqueue "21.5" (.dict pump)] "21.5" pump pumpReading :=
  ⟨[], [], .init, rfl, .start, rfl⟩

theorem pumpReading_replaced :
    Replaces .shipped idleCodec pumpQueued "22.0" otherPump pumpReading :=
  ⟨_, _, rfl, rfl⟩

theorem replaced_same_levels_pumps : topicDeviceId pump = topicDeviceId otherPump :=
  (replaced_same_levels "192.168.1.50" "192.168.1.51" pumpReading_sent pumpReading_replaced).2.2.1

/-- Two devices under two keys of the registry: the second one's reading takes the
place of the first one's in the queue. -/
theorem renamed_device_replaced :
    nodeIdOf "192.168.1.50" (.dict pump) ≠ nodeIdOf "192.168.1.51" (.dict otherPump) ∧
      ∃ is l m, Run (publisher .shipped idleCodec) is l ∧ m ∈ l.queue ∧ m.important = false ∧
        SentAs .shipped idleCodec is "21.5" pump m ∧
        Replaces .shipped idleCodec l "22.0" otherPump m :=
  ⟨by decide, _, _, _, pumpQueued_run, by decide, by decide, pumpReading_sent, pumpReading_replaced⟩

end Replace

end EdgeGateway.Mqtt
