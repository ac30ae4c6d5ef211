import Mathlib.Data.List.Sort
import EdgeGateway.Mqtt.Publication
import EdgeGateway.Mqtt.Session

/-!
Commands and their responses, over all runs of the publisher.

Beside the publisher runs a book of the commands it handled: for every event block
that `_handle_event` takes as a command, its payload and the response to it.

* `Ledger.step_offered`: what a step offers to the queue, and nothing else, is
  added to the offered messages.
* `Ledger.step_commands`: a step counts the command it handles, and no other.
* `requests_answered`: the responses offered are the answers to the commands
  handled, one for each and in their order, and the published responses are a
  subsequence of these.
-/

namespace EdgeGateway.Mqtt

open EdgeGateway.Lib

variable {cfg : Config} {codec : Codec} {l l' : Ledger} {input : Input}

/-! ### The book of commands -/

/-- A command the publisher handled. -/
structure Handled where
  payload : Text
  /-- messages published before it -/
  published : Nat
  /-- messages queued when it came -/
  queued : Nat
  response : Json
  rejected : Bool
deriving Repr

/-- The command of an event block, as `_handle_event` answers it. -/
def MQTTManager.request? (cfg : Config) (codec : Codec) (now : Readings) (m : MQTTManager Numbered)
    (h : History) (event : Text) : Option Handled :=
  match parseEvent event with
  | (some topic, some payload) =>
      if topic = cfg.commandTopic.toList then
        let answer :=
          respond cfg codec now { m with commandsReceived := m.commandsReceived + 1 } payload
        some ⟨payload, h.published.length, m.queue.length, answer.1, answer.2⟩
      else none
  | _ => none

/-- The command an input brings to the publisher. -/
def Ledger.request? (cfg : Config) (codec : Codec) (l : Ledger) : Input → Option Handled
  | .resume _ now (.returned (some event)) =>
      if l.service.pending = .readEvent then
        l.service.mqtt.request? cfg codec now l.history event
      else none
  | _ => none

/-- The publisher with the book of its commands. -/
def answering (cfg : Config) (codec : Codec) : System (Ledger × List Handled) Input :=
  (publisher cfg codec).withBooks [] fun l input _ requests =>
    requests ++ (l.request? cfg codec input).toList

/-! ### The response to one command -/

/-- The object a payload decodes to, if it does. -/
def Codec.object? (codec : Codec) (payload : Text) : Option Dict :=
  match codec.loads payload with
  | .ok (.dict request) => some request
  | _ => none

/-- The payload asks for the status. -/
def Codec.asks (codec : Codec) (payload : Text) : Bool :=
  (codec.object? payload).any fun request => isGetStatus (Dict.get request "command" .null)

/-- The response to the command quotes its id, says whether it was allowed, and tells
of the queue what was so when the command came. -/
structure Handled.Answered (codec : Codec) (r : Handled) : Prop where
  rejected : r.rejected = !codec.asks r.payload
  fields : ∃ fields, r.response = .dict fields ∧
    Dict.get fields "request_id" .null =
      ((codec.object? r.payload).map fun request =>
        Dict.get request "request_id" .null).getD .null ∧
    Dict.get fields "status" .null = .str (if codec.asks r.payload then "OK" else "REJECTED") ∧
    (codec.asks r.payload = true →
      Dict.get fields "mqtt_published" .null = .int r.published ∧
      Dict.get fields "mqtt_queue_depth" .null = .int r.queued)

theorem respond_answered (now : Readings) (m : MQTTManager Numbered) (payload : Text) :
    Handled.Answered codec ⟨payload, m.published, m.queue.length,
      (respond cfg codec now m payload).1, (respond cfg codec now m payload).2⟩ := by
  have refused {requestId : Json} {error : String} (no : codec.asks payload = false)
      (quoted : requestId = ((codec.object? payload).map fun request =>
        Dict.get request "request_id" .null).getD .null) :
      Handled.Answered codec
        ⟨payload, m.published, m.queue.length, rejection now requestId error, true⟩ := by
    refine ⟨by simp [no], _, rfl, quoted, ?_, by simp [no]⟩
    rw [no]
    rfl
  unfold respond
  cases loads : codec.loads payload with
  | error exc =>
      have object : codec.object? payload = none := by simp [Codec.object?, loads]
      exact refused (by simp [Codec.asks, object]) (by simp [object])
  | ok value =>
      cases value with
      | dict request =>
          have object : codec.object? payload = some request := by simp [Codec.object?, loads]
          have asks : codec.asks payload = isGetStatus (Dict.get request "command" .null) := by
            simp [Codec.asks, object]
          dsimp only
          split
          · rename_i allowed
            rw [allowed] at asks
            refine ⟨by simp [asks], _, rfl, ?_, ?_, fun _ => ⟨rfl, rfl⟩⟩
            · rw [object]
              rfl
            · rw [asks]
              rfl
          · rename_i other
            exact refused (asks.trans (Bool.eq_false_iff.mpr other)) (by simp [object])
      | _ =>
          have object : codec.object? payload = none := by simp [Codec.object?, loads]
          exact refused (by simp [Codec.asks, object]) (by simp [object])

theorem MQTTManager.request?_answered {now : Readings} {m : MQTTManager Numbered} {h : History}
    {event : Text} {r : Handled} (tallied : m.published = h.published.length)
    (hit : m.request? cfg codec now h event = some r) : r.Answered codec := by
  unfold MQTTManager.request? at hit
  split at hit
  · split at hit
    · cases hit
      rw [← tallied]
      exact respond_answered now { m with commandsReceived := m.commandsReceived + 1 } _
    · cases hit
  · cases hit

/-- What the handler queues is the response of the book. -/
theorem reply_eq_request? (now : Readings) (m : MQTTManager Numbered) (h : History)
    (event : Text) :
    m.reply cfg codec now event = (m.request? cfg codec now h event).map fun r =>
      ({ m with
          commandsReceived := m.commandsReceived + 1
          commandsRejected := m.commandsRejected + if r.rejected then 1 else 0 },
        codec.dumps r.response) := by
  unfold MQTTManager.reply MQTTManager.request?
  obtain ⟨topic, payload⟩ := parseEvent event
  cases topic with
  | none => rfl
  | some topic =>
      cases payload with
      | none => rfl
      | some payload =>
          dsimp only
          split
          · rfl
          · rfl

/-! ### What a step adds to the books -/

theorem offered_act (d : Desk) (act : Option Act) :
    (History.act cfg d act).offered = d.history.offered ++
      match act with
      | some (.offer message) => [message]
      | _ => [] := by
  cases act with
  | none => exact (List.append_nil _).symm
  | some act =>
      cases act with
      | offer message => rfl
      | deliver =>
          unfold History.act
          cases d.inFlight with
          | none => exact (List.append_nil _).symm
          | some message => exact (List.append_nil _).symm
      | abandon => exact (List.append_nil _).symm
      | pick => exact (List.append_nil _).symm

theorem offered_picks (flight : Option Message) (h : History) :
    (h.picks flight).offered = h.offered := by
  cases flight <;> rfl

/-- What an input offers, its act at the desk offers. -/
theorem Ledger.offers_act? :
    (match l.act? cfg codec input with
      | some (.offer message) => [message]
      | _ => []) = (l.offers cfg codec input).toList := by
  have call (same : l.act? cfg codec input = (l.offers cfg codec input).map .offer) :
      (match l.act? cfg codec input with
        | some (.offer message) => [message]
        | _ => []) = (l.offers cfg codec input).toList := by
    rw [same]
    cases l.offers cfg codec input <;> rfl
  cases flight : l.service.inFlight with
  | none => exact call (Ledger.act?_idle flight)
  | some entry =>
      cases input with
      | enqueue payload parsed => exact call (Ledger.act?_call (by simp))
      | enqueuePriority payload => exact call (Ledger.act?_call (by simp))
      | resume lte now outcome =>
          have busy : l.service.pending ≠ .readEvent := by
            intro reading
            simp [Service.inFlight, reading] at flight
          have silent : l.offers cfg codec (.resume lte now outcome) = none :=
            Ledger.offers_quiet fun event reading _ => absurd reading busy
          rw [silent]
          cases outcome with
          | returned event => simp [Ledger.act?, flight]
          | raised exc => simp [Ledger.act?, flight]

/-- **A step adds what its input offers to the offered messages.** -/
theorem Ledger.step_offered (step : l.step cfg codec input = some l') :
    l'.history.offered = l.history.offered ++ (l.offers cfg codec input).toList := by
  obtain ⟨s', -, rfl⟩ := Option.map_eq_some_iff.mp step
  have acted : (History.act cfg l.desk (l.act? cfg codec input)).offered =
      l.history.offered ++ (l.offers cfg codec input).toList :=
    (offered_act l.desk _).trans (congrArg _ Ledger.offers_act?)
  cases input with
  | enqueue payload parsed => exact acted
  | enqueuePriority payload => exact acted
  | resume lte now outcome => exact (offered_picks _ _).trans acted

/-- The counters of commands. -/
def MQTTManager.commands (m : MQTTManager Numbered) : Nat × Nat :=
  (m.commandsReceived, m.commandsRejected)

/-- The counters after the commands `requests`. -/
def countCommands (requests : List Handled) (counts : Nat × Nat) : Nat × Nat :=
  (counts.1 + requests.length, counts.2 + requests.countP (·.rejected))

theorem Service.loop_commands (lte : Lte) (s : Service Numbered) :
    (s.loop lte).mqtt.commands = s.mqtt.commands := by
  unfold Service.loop
  split
  · rfl
  · split
    · rfl
    · exact congrArg MQTTManager.commands s.serve_control.1

theorem Verdict.count_commands (branch : Verdict Numbered) (m : MQTTManager Numbered)
    (queue : List Message) :
    ({ branch.count m with queue := queue } : MQTTManager Numbered).commands = m.commands := by
  cases branch <;> rfl

theorem handleEvent_commands (now : Readings) (wrap : String → Numbered)
    (m : MQTTManager Numbered) (h : History) (event : Text) :
    (m.handleEvent cfg codec now wrap event).commands =
      countCommands (m.request? cfg codec now h event).toList m.commands := by
  unfold MQTTManager.handleEvent
  rw [reply_eq_request? now m h event]
  cases m.request? cfg codec now h event with
  | none => rfl
  | some r =>
      dsimp only [Option.map_some]
      unfold MQTTManager.enqueuePriority
      obtain ⟨queue', -, result⟩ := enqueueImportant_spec cfg
        { m with
          commandsReceived := m.commandsReceived + 1
          commandsRejected := m.commandsRejected + if r.rejected then 1 else 0 }
        cfg.responseTopic (wrap (codec.dumps r.response)) (rfl : Kind.important .response = true)
      rw [result]
      refine (Verdict.count_commands _ _ _).trans ?_
      cases rejected : r.rejected <;> simp [MQTTManager.commands, countCommands, rejected]

theorem Ledger.request?_busy {lte : Lte} {now : Readings} {outcome : Outcome}
    (busy : l.service.pending ≠ .readEvent) :
    l.request? cfg codec (.resume lte now outcome) = none := by
  unfold Ledger.request?
  split
  · exact if_neg busy
  · rfl

/-- A stretch that begins anywhere but at the poll for events handles no command. -/
theorem Service.resume_commands {lte : Lte} {now : Readings} {wrap : String → Numbered}
    {s s' : Service Numbered} {outcome : Outcome} (busy : s.pending ≠ .readEvent)
    (ran : s.resume cfg codec lte now wrap outcome = some s') :
    s'.mqtt.commands = s.mqtt.commands := by
  obtain ⟨m, delay, pending⟩ := s
  unfold Service.resume at ran
  dsimp only at ran
  split at ran <;> cases ran
  case h_4 =>
    unfold Service.connectDone
    exact (congrArg MQTTManager.commands (Service.serve_control _).1).trans rfl
  case h_5 =>
    unfold Service.publishDone
    dsimp only
    split
    · rfl
    · exact Service.loop_commands _ _
  all_goals first
    | exact absurd rfl busy
    | exact Service.loop_commands _ _
    | rfl

/-- The poll for events handles the command it returns. -/
theorem Ledger.poll_commands {lte : Lte} {now : Readings} {outcome : Outcome}
    {s' : Service Numbered} (reading : l.service.pending = .readEvent)
    (ran : l.service.resume cfg codec lte now l.number outcome = some s') :
    s'.mqtt.commands = countCommands (l.request? cfg codec (.resume lte now outcome)).toList
      l.service.mqtt.commands := by
  unfold Service.resume at ran
  rw [reading] at ran
  cases outcome with
  | raised exc =>
      cases ran
      rfl
  | returned event =>
      cases event with
      | none =>
          cases ran
          rfl
      | some event =>
          unfold Ledger.request?
          dsimp only
          rw [if_pos reading]
          cases event with
          | nil =>
              cases ran
              rfl
          | cons c cs =>
              cases ran
              exact (Service.loop_commands _ _).trans
                (handleEvent_commands now l.number l.service.mqtt l.history (c :: cs))

/-- **A step counts the command it handles.** -/
theorem Ledger.step_commands (step : l.step cfg codec input = some l') :
    l'.service.mqtt.commands =
      countCommands (l.request? cfg codec input).toList l.service.mqtt.commands := by
  obtain ⟨s', ran, rfl⟩ := Option.map_eq_some_iff.mp step
  cases input with
  | enqueue payload parsed =>
      cases parsed with
      | dict parsed =>
          obtain ⟨queue', -, result⟩ :=
            enqueueDict_spec cfg l.service.mqtt (l.number payload) parsed
          simp only [Service.step, MQTTManager.enqueue, result, Option.some.injEq] at ran
          subst ran
          exact Verdict.count_commands _ _ _
      | _ =>
          cases ran
          rfl
  | enqueuePriority payload =>
      obtain ⟨queue', -, result⟩ := enqueueImportant_spec cfg l.service.mqtt cfg.responseTopic
        (l.number payload) (rfl : Kind.important .response = true)
      simp only [Service.step, MQTTManager.enqueuePriority, result, Option.some.injEq] at ran
      subst ran
      exact Verdict.count_commands _ _ _
  | resume lte now outcome =>
      by_cases reading : l.service.pending = .readEvent
      · exact Ledger.poll_commands reading ran
      · rw [Ledger.request?_busy reading]
        exact Service.resume_commands reading ran

/-! ### Every run -/

/-- The message is a response. -/
def isResponse (m : Message) : Bool := decide (m.kind = .response)

/-- A call of the program: responses are queued by `_handle_event` only. -/
def Input.called : Input → Bool
  | .enqueuePriority _ => false
  | .enqueue _ _ | .resume _ _ _ => true

theorem Ledger.offers_responses (called : input.called = true) :
    ((l.offers cfg codec input).toList.filter isResponse).map (·.payload.text) =
      (l.request? cfg codec input).toList.map fun r => codec.dumps r.response := by
  cases input with
  | enqueue payload parsed =>
      cases parsed with
      | dict parsed =>
          have other :
              isResponse ⟨topic cfg parsed, l.number payload, messageKind parsed⟩ = false :=
            decide_eq_false (messageKind_ne_response parsed)
          simp [Ledger.offers, Ledger.request?, other]
      | _ => rfl
  | enqueuePriority payload => cases called
  | resume lte now outcome =>
      by_cases reading : l.service.pending = .readEvent
      · cases outcome with
        | raised exc => rfl
        | returned event =>
            cases event with
            | none => rfl
            | some event =>
                unfold Ledger.offers Ledger.request?
                dsimp only
                rw [if_pos reading, if_pos reading,
                  reply_eq_request? now l.service.mqtt l.history event]
                cases l.service.mqtt.request? cfg codec now l.history event with
                | none => rfl
                | some r => rfl
      · rw [Ledger.request?_busy reading,
          Ledger.offers_quiet fun event pending _ => absurd pending reading]
        rfl

/-- How the commands handled stand to the state of the publisher. -/
structure Answers (codec : Codec) (l : Ledger) (requests : List Handled) : Prop where
  each : ∀ r ∈ requests, r.Answered codec
  counted : l.service.mqtt.commands = (requests.length, requests.countP (·.rejected))
  offered : (l.history.offered.filter isResponse).map (·.payload.text) =
    requests.map fun r => codec.dumps r.response

theorem Answers.step {requests : List Handled} (answers : Answers codec l requests)
    (tallied : Tallied l.history l.service.mqtt) (called : input.called = true)
    (step : l.step cfg codec input = some l') :
    Answers codec l' (requests ++ (l.request? cfg codec input).toList) where
  each := by
    intro r mem
    rcases List.mem_append.mp mem with before | now
    · exact answers.each r before
    · have hit : l.request? cfg codec input = some r := Option.mem_toList.mp now
      unfold Ledger.request? at hit
      split at hit
      · split at hit
        · exact MQTTManager.request?_answered tallied.published hit
        · cases hit
      · cases hit
  counted := by
    rw [Ledger.step_commands step, answers.counted]
    simp [countCommands]
  offered := by
    rw [Ledger.step_offered step, List.filter_append, List.map_append, List.map_append,
      answers.offered, Ledger.offers_responses called]

/-- Messages in the order of their numbers, all of them offered, are in the order of
the offered ones. -/
theorem sublist_offered {capacity : Nat} {d : Desk} {ms : List Message}
    (sound : Sound capacity d) (sorted : ms.Pairwise fun a b => a.number < b.number)
    (offered : ms ⊆ d.history.offered) : ms.Sublist d.history.offered := by
  have antisymm : Std.Antisymm fun a b : Message => a.number < b.number :=
    ⟨fun a b ab ba => absurd ab (Nat.lt_asymm ba)⟩
  have nodup : ms.Nodup := sorted.imp fun less same => absurd (same ▸ less) (Nat.lt_irrefl _)
  exact List.sublist_of_subperm_of_pairwise (List.subperm_of_subset nodup offered) sorted
    sound.sorted

/-- The published responses are among the offered ones, in their order. -/
theorem Ordered.responses {capacity : Nat} {d : Desk} {label : String → Option Kind}
    (ordered : Ordered label d) (sound : Sound capacity d) :
    (d.history.published.filter isResponse).Sublist (d.history.offered.filter isResponse) := by
  have sorted : (d.history.published.filter isResponse).Pairwise
      fun a b => a.number < b.number := by
    refine List.pairwise_filter.mpr (ordered.published.imp fun order aOn bOn => ?_)
    refine order.important ?_ ?_
    · simp [Entry.important, of_decide_eq_true aOn, Kind.important]
    · simp [Entry.important, of_decide_eq_true bOn, Kind.important]
  have offered : d.history.published.filter isResponse ⊆ d.history.offered := by
    intro m mem
    have published : m ∈ d.history.published := List.mem_of_mem_filter mem
    exact sound.accepted.subset (sound.passed m (sound.published m published))
  have sub := (sublist_offered sound sorted offered).filter isResponse
  rwa [List.filter_filter, show (fun m => isResponse m && isResponse m) = isResponse from
    funext fun m => Bool.and_self _] at sub

variable {is : List Input} {requests : List Handled}

/-- **Every command is answered once and in its turn**, and the published responses
are a subsequence of the answers. -/
theorem requests_answered (apart : ∀ parsed, topic cfg parsed ≠ cfg.responseTopic)
    (run : Run (answering cfg codec) is (l, requests)) (called : ∀ i ∈ is, i.called = true) :
    Answers codec l requests ∧
      ((l.history.published.filter isResponse).map (·.payload.text)).Sublist
        (requests.map fun r => codec.dumps r.response) := by
  obtain ⟨sound, ordered⟩ := Ledger.ordered apart (run_withBooks_iff.mpr ⟨requests, run⟩)
  have answers : Answers codec l requests := by
    have each : EachStep (answering cfg codec) (fun _ i => i.called = true) is :=
      fun js i _ pre _ => called i (pre.subset (by simp))
    refine (run.guarded_invariant (I := fun s => (Sound cfg.queueCapacity s.1.desk ∧
      Tallied s.1.history s.1.service.mqtt) ∧ Answers codec s.1 s.2) ?_ ?_ each).2
    · exact ⟨⟨Sound.empty, ⟨rfl, rfl, rfl, rfl⟩⟩, nofun, rfl, rfl⟩
    · rintro s i s' ⟨⟨sound, tallied⟩, answers⟩ called step
      obtain ⟨stepped, booked⟩ := withBooks_step step
      refine ⟨⟨Ledger.step_sound sound stepped, tallied.step sound stepped⟩, ?_⟩
      rw [booked]
      exact answers.step tallied called stepped
  refine ⟨answers, ?_⟩
  rw [← answers.offered]
  exact (ordered.responses sound).map _

/-- A runtime that decodes every text to a status request. -/
def statusCodec : Codec where
  loads _ := .ok (.dict [("command", .str "get_status"), ("request_id", .str "7")])
  dumps _ := "response"

/-- The pending await returns an event block on the command topic. -/
def commandArrives : Input :=
  .resume ⟨true, true⟩ ⟨"2024-01-01T00:00:00Z", 60, 100000, "HOME", some (-71), none⟩
    (.returned (some ("\n+CMQTTRXTOPIC: 0,47\ncmd/iiot-lab/factory1/gateway/lte-gw-01/request" ++
      "\n+CMQTTRXPAYLOAD: 0,2\n{}").toList))

/-- The publisher connects, a command arrives, and its answer is published. -/
def answered : List Input := [done, done, done, commandArrives, done]

theorem requests_answered_status :
    ∃ l requests, (requests.length, l.history.published.length) = (1, 1) ∧
      Answers statusCodec l requests ∧
      ((l.history.published.filter isResponse).map (·.payload.text)).Sublist
        (requests.map fun r => statusCodec.dumps r.response) := by
  obtain ⟨⟨l, requests⟩, exec⟩ : ∃ s, (answering .shipped statusCodec).exec answered = some s :=
    Option.isSome_iff_exists.mp (by decide)
  have sizes : ((answering .shipped statusCodec).exec answered).map
      (fun s => (s.2.length, s.1.history.published.length)) = some (1, 1) := by decide
  rw [exec] at sizes
  exact ⟨l, requests, Option.some.inj sizes, requests_answered Config.shipped_response_apart
    (run_iff_exec.mpr exec) (by decide)⟩

end EdgeGateway.Mqtt
