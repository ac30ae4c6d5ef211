import EdgeGateway.Lib.Run
import EdgeGateway.Lib.Ticks
import EdgeGateway.Modem.Port

/-!
One call of `read_mqtt_event`, with its clock.

The call holds the UART from its first reading of the clock on, and a step is one
pass of its loop: the test, a read, and the sleep. So a run is one sequence and
timing of chunks. `due` is kept beside the run, the real time of the deadline;
`deadline` is the reading of the clock then.

The start marker is looked for in all that was read so far. Once it was read,
every chunk puts the deadline off, whatever it is:

* `event_deadline_iff`: the deadline stays within `timeout_ms + 3000` of the start
  exactly if no chunk that comes later than `timeout_ms` leaves an event open.
* `event_put_off`: otherwise there is no bound on it.
-/

namespace EdgeGateway.Modem

open EdgeGateway.Lib

/-! ### The loop -/

/-- How the call ended. -/
inductive EventEnd where
  /-- `return None` -/
  | nothing
  | event (text : Text)
  /-- `ticks_add` takes no delta of half a period -/
  | overflow
deriving DecidableEq, Repr

/-- The locals of the call. -/
structure EventRead where
  deadline : Nat
  response : Bytes
  started : Bool
  ended : Option EventEnd
  /-- when the sleep may end -/
  wakes : Nat
deriving DecidableEq, Repr

/-- One pass of the loop: the time of its test, what `uart.read()` returns, nothing
when `any()` is false, and the time behind that. -/
structure Poll where
  tested : Nat
  chunk : Bytes
  read : Nat
deriving DecidableEq, Repr

/-- Up to the loop. -/
def EventRead.start (timeout t₀ : Nat) : EventRead where
  deadline := ticksAdd (ticksMs t₀) timeout
  response := []
  started := false
  ended := if timeout < tickPeriod / 2 then none else some .overflow
  wakes := t₀

/-- The test of the loop. -/
def EventRead.goesOn (s : EventRead) (poll : Poll) : Bool :=
  decide (0 < ticksDiff s.deadline (ticksMs poll.tested))

def beginsEvent (text : Text) : Bool := contains "+CMQTTRXSTART:".toList text

def completesEvent (text : Text) : Bool := contains "+CMQTTRXEND:".toList text

/-- `response.decode("utf-8", "ignore")`, behind a chunk. -/
def EventRead.text (s : EventRead) (poll : Poll) : Text :=
  Utf8.decodeIgnore (s.response ++ poll.chunk)

/-- The body of the loop on a chunk that is not empty. -/
def EventRead.take (poll : Poll) (s : EventRead) : EventRead :=
  let text := s.text poll
  let s := { s with response := s.response ++ poll.chunk }
  let s :=
    if beginsEvent text then
      -- Allow the full topic/payload event to arrive.
      { s with started := true, deadline := ticksAdd (ticksMs poll.read) 3000 }
    else s
  if s.started && completesEvent text then { s with ended := some (.event text) } else s

/-- One pass, and `sleep_ms(10)` behind it. -/
def EventRead.pass (poll : Poll) (s : EventRead) : EventRead :=
  if s.goesOn poll then
    let s := if poll.chunk = [] then s else s.take poll
    { s with wakes := poll.read + 10 }
  else { s with ended := some .nothing }

def EventRead.step (s : EventRead) (poll : Poll) : Option EventRead :=
  if s.ended.isNone ∧ s.wakes ≤ poll.tested ∧ poll.tested ≤ poll.read then some (s.pass poll)
  else none

/-- `read_mqtt_event(timeout)` from its first reading of the clock at `t₀` on. -/
def eventRead (timeout t₀ : Nat) : System EventRead Poll := ⟨.start timeout t₀, EventRead.step⟩

/-! ### The deadline -/

/-- The pass sets the deadline. -/
def EventRead.resets (s : EventRead) (poll : Poll) : Bool :=
  s.goesOn poll && poll.chunk ≠ [] && beginsEvent (s.text poll)

/-- The pass sets the deadline of an event that goes on. -/
def EventRead.putsOff (s : EventRead) (poll : Poll) : Bool :=
  s.resets poll && !completesEvent (s.text poll)

/-- The call beside the real time of its deadline. -/
def timedEvent (timeout t₀ : Nat) : System (EventRead × Nat) Poll :=
  (eventRead timeout t₀).withBooks (t₀ + timeout) fun s poll _ due =>
    if s.resets poll then poll.read + 3000 else due

variable {timeout t₀ : Nat} {s s' : EventRead} {poll : Poll}

theorem EventRead.of_step (step : s.step poll = some s') :
    s.ended = none ∧ s' = s.pass poll := by
  unfold EventRead.step at step
  split at step
  · rename_i enabled
    exact ⟨Option.isNone_iff_eq_none.mp enabled.1, (Option.some.inj step).symm⟩
  · cases step

/-- The call returns the text if `complete` says so. -/
def EventRead.answer (s : EventRead) (poll : Poll) (complete : Bool) : Option EventEnd :=
  if complete then some (.event (s.text poll)) else s.ended

/-- What a pass does. -/
inductive EventRead.Passes (s : EventRead) (poll : Poll) : EventRead → Prop where
  | expires : s.goesOn poll = false → EventRead.Passes s poll { s with ended := some .nothing }
  | silent : s.goesOn poll = true → poll.chunk = [] →
      EventRead.Passes s poll { s with wakes := poll.read + 10 }
  | other : s.goesOn poll = true → poll.chunk ≠ [] → beginsEvent (s.text poll) = false →
      EventRead.Passes s poll
        { s with
          response := s.response ++ poll.chunk
          ended := s.answer poll (s.started && completesEvent (s.text poll))
          wakes := poll.read + 10 }
  | begun : s.goesOn poll = true → poll.chunk ≠ [] → beginsEvent (s.text poll) = true →
      EventRead.Passes s poll
        { s with
          deadline := ticksMs (poll.read + 3000)
          response := s.response ++ poll.chunk
          started := true
          ended := s.answer poll (completesEvent (s.text poll))
          wakes := poll.read + 10 }

theorem EventRead.pass_passes (s : EventRead) (poll : Poll) : s.Passes poll (s.pass poll) := by
  unfold EventRead.pass
  split
  · rename_i goesOn
    by_cases empty : poll.chunk = []
    · rw [if_pos empty]
      exact .silent goesOn empty
    · rw [if_neg empty]
      cases begins : beginsEvent (s.text poll) with
      | false =>
          have taken : s.take poll = { s with
              response := s.response ++ poll.chunk
              ended := s.answer poll (s.started && completesEvent (s.text poll)) } := by
            simp only [EventRead.take, EventRead.answer, begins, Bool.false_eq_true,
              if_false]
            split <;> rfl
          rw [taken]
          exact .other goesOn empty begins
      | true =>
          have taken : s.take poll = { s with
              deadline := ticksMs (poll.read + 3000)
              response := s.response ++ poll.chunk
              started := true
              ended := s.answer poll (completesEvent (s.text poll)) } := by
            simp only [EventRead.take, EventRead.answer, begins, if_true,
              Bool.true_and, ticksAdd_ticksMs]
            split <;> rfl
          rw [taken]
          exact .begun goesOn empty begins
  · rename_i expired
    exact .expires (by simpa using expired)

/-- The deadline behind a pass. -/
theorem EventRead.pass_deadline (s : EventRead) (poll : Poll) :
    (s.pass poll).deadline = if s.resets poll then ticksMs (poll.read + 3000) else s.deadline := by
  have passes := s.pass_passes poll
  unfold EventRead.resets
  generalize s.pass poll = s' at passes
  cases passes with
  | expires expired => simp [expired]
  | silent goesOn empty => simp [empty]
  | other goesOn nonempty begins => simp [begins]
  | begun goesOn nonempty begins => simp [goesOn, nonempty, begins]

/-- A pass that puts the deadline off leaves the loop going. -/
theorem EventRead.pass_ended (waiting : s.ended = none) (resets : s.resets poll = true) :
    (s.pass poll).ended = none ↔ s.putsOff poll = true := by
  have passes := s.pass_passes poll
  generalize s.pass poll = s' at passes
  unfold EventRead.putsOff
  rw [resets]
  simp only [EventRead.resets, Bool.and_eq_true, decide_eq_true_eq] at resets
  obtain ⟨⟨goesOn, nonempty⟩, begins⟩ := resets
  cases passes with
  | expires expired => simp [expired] at goesOn
  | silent _ empty => exact absurd empty nonempty
  | other _ _ unbegun => simp [unbegun] at begins
  | begun =>
      cases complete : completesEvent (s.text poll) <;>
        simp [EventRead.answer, waiting]

/-! ### The texts -/

/-- Without the start marker behind a chunk, there was none before it. -/
theorem unbegun_before (begins : beginsEvent (s.text poll) = false) :
    beginsEvent (Utf8.decodeIgnore s.response) = false := by
  by_contra begun
  have begun : beginsEvent (Utf8.decodeIgnore s.response) = true := by simpa using begun
  have sub : Utf8.decodeIgnore s.response <+: s.text poll :=
    Utf8.decodeIgnore_prefix (List.prefix_append _ _)
  have more : beginsEvent (s.text poll) = true :=
    contains_iff.mpr ((contains_iff.mp begun).trans sub.isInfix)
  exact Bool.false_ne_true (begins.symm.trans more)

/-- `started` is whether the response holds the start marker. -/
theorem started_of_run {polls : List Poll} (run : Run (eventRead timeout t₀) polls s) :
    s.started = beginsEvent (Utf8.decodeIgnore s.response) := by
  refine run.invariant (I := fun s => s.started = beginsEvent (Utf8.decodeIgnore s.response)) rfl ?_
  intro s poll s' before step
  obtain ⟨-, rfl⟩ := EventRead.of_step step
  have passes := s.pass_passes poll
  generalize s.pass poll = s' at passes
  cases passes with
  | expires => exact before
  | silent => exact before
  | other _ _ begins => exact before.trans ((unbegun_before begins).trans begins.symm)
  | begun _ _ begins => exact begins.symm

/-- **A pass that reads is a poll of `feedEvent`.** -/
theorem feeds_of_run {polls : List Poll} (run : Run (eventRead timeout t₀) polls s)
    (step : s.step poll = some s') (goesOn : s.goesOn poll = true) :
    feedEvent s.response poll.chunk =
      match s'.ended with
      | some (.event text) => .returned text
      | _ => .more s'.response := by
  have started := started_of_run run
  obtain ⟨waiting, rfl⟩ := EventRead.of_step step
  have passes := s.pass_passes poll
  generalize s.pass poll = s' at passes
  unfold feedEvent
  cases passes with
  | expires expired => exact absurd (expired.symm.trans goesOn) Bool.false_ne_true
  | silent _ empty => simp only [empty, if_true, waiting]
  | other _ nonempty begins =>
      have unbegun : s.started = false := started.trans (unbegun_before begins)
      simp only [beginsEvent, EventRead.text] at begins
      simp only [nonempty, if_false, begins, Bool.false_and, Bool.false_eq_true, unbegun,
        EventRead.answer, waiting]
  | begun _ nonempty begins =>
      simp only [beginsEvent, EventRead.text] at begins
      simp only [nonempty, if_false, begins, Bool.true_and, EventRead.answer, completesEvent,
        EventRead.text, waiting]
      split
      · rfl
      · rfl

/-! ### The bound -/

/-- While the loop goes on, its deadline is the clock at `due`, and that is not later
than `timeout + 3000` from the start. -/
def Timely (timeout t₀ : Nat) (s : EventRead × Nat) : Prop :=
  s.1.ended = none → s.1.deadline = ticksMs s.2 ∧ s.2 ≤ t₀ + timeout + 3000

/-- A chunk that leaves an event open comes within `timeout` of the start. -/
def InTime (timeout t₀ : Nat) (s : EventRead × Nat) (poll : Poll) : Prop :=
  s.1.putsOff poll = true → poll.read ≤ t₀ + timeout

instance (s : EventRead × Nat) (poll : Poll) : Decidable (InTime timeout t₀ s poll) :=
  inferInstanceAs (Decidable (_ → _))

/-- **The deadline is bounded in a run exactly if no chunk that comes later than
`timeout` leaves an event open.** -/
theorem event_deadline_iff {polls : List Poll} {last : EventRead × Nat}
    (run : Run (timedEvent timeout t₀) polls last) :
    Always (timedEvent timeout t₀) (Timely timeout t₀) polls ↔
      EachStep (timedEvent timeout t₀) (InTime timeout t₀) polls := by
  have begins : Timely timeout t₀ (timedEvent timeout t₀).init :=
    fun _ => ⟨ticksAdd_ticksMs t₀ timeout, Nat.le_add_right _ _⟩
  refine always_iff_eachStep begins ?_ (fun _ timely => timely) ?_ run
  · intro s poll s' timely inTime step waiting
    obtain ⟨stepped, books⟩ := withBooks_step step
    obtain ⟨going, same⟩ := EventRead.of_step stepped
    rw [books, same, EventRead.pass_deadline]
    split
    · rename_i resets
      have off : s.1.putsOff poll = true := (EventRead.pass_ended going resets).mp (same ▸ waiting)
      have early := inTime off
      exact ⟨rfl, by omega⟩
    · exact timely going
  · intro s poll s' _ late step timely
    obtain ⟨stepped, books⟩ := withBooks_step step
    obtain ⟨going, same⟩ := EventRead.of_step stepped
    obtain ⟨off, behind⟩ := Classical.not_imp.mp late
    have resets : s.1.resets poll = true := ((Bool.and_eq_true _ _).mp off).1
    have waiting : s'.1.ended = none := same ▸ (EventRead.pass_ended going resets).mpr off
    have bound := (timely waiting).2
    rw [books, if_pos resets] at bound
    omega

def startLine : Text := "\r\n+CMQTTRXSTART: 0,9,2\r\n".toList

/-- An event that is complete after a second and a half. -/
def prompt : List Poll :=
  [⟨20, Utf8.encode startLine, 20⟩, ⟨30, [], 30⟩,
    ⟨1520, Utf8.encode "\r\n+CMQTTRXEND: 0\r\n".toList, 1520⟩]

theorem event_deadline_prompt :
    ∃ s, Run (timedEvent 200 0) prompt s ∧ s.1.ended.isSome = true ∧
      Always (timedEvent 200 0) (Timely 200 0) prompt := by
  have exec : ∃ s, Run (timedEvent 200 0) prompt s ∧ s.1.ended.isSome = true :=
    ⟨_, run_iff_exec.mpr rfl, by decide⟩
  obtain ⟨s, run, ended⟩ := exec
  exact ⟨s, run, ended, (event_deadline_iff run).mpr (eachStep_of_checks (by decide))⟩

/-! ### No bound -/

/-- A line of the modem that has nothing to do with an event. -/
def otherLine : Text := "\r\n+CSQ: 20,99\r\n".toList

/-- An event begins, and another line comes just behind the timeout. -/
def overrun : List Poll :=
  [⟨190, Utf8.encode startLine, 190⟩, ⟨200, [], 200⟩, ⟨210, Utf8.encode otherLine, 210⟩]

/-- The line is no part of the event and puts its deadline off. -/
theorem event_deadline_overrun :
    ∃ s, Run (timedEvent 200 0) overrun s ∧ s.1.ended = none ∧ s.2 = 3210 ∧
      ¬ Always (timedEvent 200 0) (Timely 200 0) overrun := by
  have exec : ∃ s, Run (timedEvent 200 0) overrun s ∧ s.1.ended = none ∧ s.2 = 3210 :=
    ⟨_, run_iff_exec.mpr rfl, by decide, by decide⟩
  obtain ⟨s, run, waiting, due⟩ := exec
  refine ⟨s, run, waiting, due, fun always => ?_⟩
  have bound := (always overrun s (List.prefix_refl _) run waiting).2
  omega

/-- An event that never ends, and such a line every time the call looks. -/
def chatter (t₀ lines : Nat) : List Poll :=
  ⟨t₀, Utf8.encode startLine, t₀⟩ ::
    (List.range lines).map fun k =>
      ⟨t₀ + 10 * (k + 1), Utf8.encode otherLine, t₀ + 10 * (k + 1)⟩

/-- What the call has read by then. -/
def chatterText (lines : Nat) : Text := startLine ++ (List.replicate lines otherLine).flatten

theorem chatterText_begins (lines : Nat) : beginsEvent (chatterText lines) = true := by
  have first : "+CMQTTRXSTART:".toList <:+: startLine := contains_iff.mp (by decide)
  exact contains_iff.mpr (first.trans (List.prefix_append _ _).isInfix)

theorem chatterText_open (lines : Nat) : completesEvent (chatterText lines) = false := by
  by_contra complete
  have marker := contains_iff.mp (by simpa [completesEvent] using complete)
  have letter : 'D' ∈ chatterText lines := marker.subset (by decide)
  rcases List.mem_append.mp letter with first | later
  · exact absurd first (by decide)
  · obtain ⟨line, mem, inLine⟩ := List.mem_flatten.mp later
    obtain rfl := List.eq_of_mem_replicate mem
    exact absurd inLine (by decide)

/-- The call behind so many lines. -/
def chattering (t₀ lines : Nat) : EventRead where
  deadline := ticksMs (t₀ + 10 * lines + 3000)
  response := Utf8.encode (chatterText lines)
  started := true
  ended := none
  wakes := t₀ + 10 * lines + 10

/-- A line puts the deadline off. -/
theorem chattering_step {due lines : Nat} {chunk : Bytes} (waiting : s.ended = none)
    (wakes : s.wakes ≤ t₀ + 10 * lines)
    (goesOn : s.goesOn ⟨t₀ + 10 * lines, chunk, t₀ + 10 * lines⟩ = true) (nonempty : chunk ≠ [])
    (whole : s.response ++ chunk = Utf8.encode (chatterText lines)) :
    (timedEvent timeout t₀).step (s, due) ⟨t₀ + 10 * lines, chunk, t₀ + 10 * lines⟩ =
      some (chattering t₀ lines, t₀ + 10 * lines + 3000) := by
  set poll : Poll := ⟨t₀ + 10 * lines, chunk, t₀ + 10 * lines⟩
  have text : s.text poll = chatterText lines := by
    rw [EventRead.text, whole, Utf8.decodeIgnore_encode]
  have resets : s.resets poll = true := by
    have some : poll.chunk ≠ [] := nonempty
    simp [EventRead.resets, goesOn, text, chatterText_begins, some]
  have passed : s.pass poll = chattering t₀ lines := by
    have passes := s.pass_passes poll
    generalize s.pass poll = s' at passes
    cases passes with
    | expires expired => exact absurd (expired.symm.trans goesOn) Bool.false_ne_true
    | silent _ empty => exact absurd empty nonempty
    | other _ _ begins =>
        rw [text, chatterText_begins] at begins
        cases begins
    | begun =>
        rw [text, chatterText_open, whole]
        simp only [EventRead.answer, Bool.false_eq_true, if_false, waiting]
        rfl
  have stepped : s.step poll = some (chattering t₀ lines) := by
    unfold EventRead.step
    rw [if_pos ⟨by rw [waiting]; rfl, wakes, le_refl _⟩, passed]
  simp only [timedEvent, System.withBooks, eventRead, stepped, Option.map_some, resets, if_true]
  rfl

/-- **Without the end marker there is no bound on the deadline**: the loop goes on for
as long as the modem writes anything. -/
theorem event_put_off (positive : 0 < timeout) (short : timeout < tickPeriod / 2) (t₀ lines : Nat) :
    Run (timedEvent timeout t₀) (chatter t₀ lines)
      (chattering t₀ lines, t₀ + 10 * lines + 3000) := by
  have ahead : ∀ start ahead, 0 < ahead → ahead < tickPeriod / 2 →
      0 < ticksDiff (ticksMs (start + ahead)) (ticksMs start) := by
    intro start ahead some few
    rw [(ticksDiff_eq_iff start ahead).mpr few]
    exact Int.natCast_pos.mpr some
  induction lines with
  | zero =>
      have first : chatter t₀ 0 =
          [] ++ [⟨t₀ + 10 * 0, Utf8.encode startLine, t₀ + 10 * 0⟩] := rfl
      rw [first]
      refine .next .start (chattering_step ?_ (le_refl _) ?_ (by decide) rfl)
      · exact if_pos short
      · simp only [EventRead.goesOn, eventRead, EventRead.start, ticksAdd_ticksMs,
          decide_eq_true_eq]
        exact ahead t₀ timeout positive short
  | succ lines ih =>
      have split : chatter t₀ (lines + 1) = chatter t₀ lines ++
          [⟨t₀ + 10 * (lines + 1), Utf8.encode otherLine, t₀ + 10 * (lines + 1)⟩] := by
        simp [chatter, List.range_succ]
      rw [split]
      refine .next ih (chattering_step rfl ?_ ?_ (by decide) ?_)
      · simp only [chattering]
        omega
      · have again : t₀ + 10 * lines + 3000 = t₀ + 10 * (lines + 1) + 2990 := by omega
        simp only [EventRead.goesOn, chattering, again, decide_eq_true_eq]
        exact ahead _ 2990 (by decide) (by decide)
      · have more : chatterText (lines + 1) = chatterText lines ++ otherLine := by
          simp [chatterText, List.replicate_succ']
        rw [more, Utf8.encode_append]
        rfl

end EdgeGateway.Modem
