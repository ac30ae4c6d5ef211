import EdgeGateway.Web.Server

/-!
How many responses `handle` begins on one connection.

`_file`, the `OSError` branch and the generic branch each answer an exception by a
response of its own, and none knows whether headers have gone out. So a second
header block goes out behind a first one whenever one of them answers, unless the
write of its headers raises as well (`single_response_iff`).

* `Sent`: how `_json` ends, and `Served`: how the `try` block of `handle` does.
* `Recovers`: what the `except` and `finally` blocks add to it.
-/

namespace EdgeGateway.Web

open EdgeGateway.Lib

abbrev Events := List (Event Op Ans)

/-! ### The events of a connection -/

/-- What the operation raised. -/
def raised : Event Op Ans → Option Exc
  | ⟨.read _, .error exc⟩ | ⟨.write _, .error exc⟩ | ⟨.drain, .error exc⟩ | ⟨.stat _, .error exc⟩
  | ⟨.openFile _, .error exc⟩ | ⟨.readFile, .error exc⟩ | ⟨.closeFile, .error exc⟩
  | ⟨.page _, .error exc⟩ => some exc
  | _ => none

/-- A status line with its headers goes out. -/
def begins : Event Op Ans → Bool
  | ⟨.write (.headers _ _ _), .ok _⟩ => true
  | _ => false

def headersWritten (events : Events) : Nat := events.countP begins

/-- The next write of the connection raises. -/
def refused : Events → Bool
  | [] => false
  | ⟨.write _, .error _⟩ :: _ => true
  | ⟨.write _, .ok _⟩ :: _ => false
  | _ :: events => refused events

/-- How far a connection has come. -/
structure Progress where
  /-- headers have gone out -/
  begun : Bool
  /-- in the `try` block of `_file`, behind its `stat` -/
  inFile : Bool
  /-- in an `except` branch of `handle` -/
  recovering : Bool
deriving DecidableEq, Repr

def Progress.start : Progress := ⟨false, false, false⟩

def Progress.next (p : Progress) (ev : Event Op Ans) : Progress where
  begun := p.begun || begins ev
  inFile :=
    match ev, raised ev with
    | _, some _ => false
    | ⟨.stat _, _⟩, none => true
    | _, none => p.inFile
  recovering :=
    match ev with
    | ⟨.log .error _, _⟩ => true
    | _ => p.recovering

/-- A handler answers the exception by a response of its own. -/
def Progress.answers (p : Progress) (exc : Exc) : Bool :=
  !p.recovering && (p.inFile || !exc.cancelled)

/-- From here on, whatever is raised behind headers and answered is followed by a
write that raises. -/
def Progress.single (p : Progress) : Events → Bool
  | [] => true
  | ev :: events =>
      (match raised ev with
        | some exc => !(p.begun && p.answers exc) || refused events
        | none => true) && (p.next ev).single events

/-! ### Stretches without headers -/

theorem headersWritten_append (first second : Events) :
    headersWritten (first ++ second) = headersWritten first + headersWritten second :=
  List.countP_append

/-- Nothing happens that the handlers would notice. -/
structure Quiet (ev : Event Op Ans) : Prop where
  returned : raised ev = none
  headless : begins ev = false
  stays : ∀ p : Progress, p.next ev = p

theorem headersWritten_quiet {calm : Events} (quiet : ∀ ev ∈ calm, Quiet ev) :
    headersWritten calm = 0 :=
  List.countP_eq_zero.mpr fun ev mem => by simp [(quiet ev mem).headless]

theorem Progress.single_quiet {calm : Events} (quiet : ∀ ev ∈ calm, Quiet ev) (p : Progress)
    (events : Events) : p.single (calm ++ events) = p.single events := by
  induction calm with
  | nil => rfl
  | cons ev calm ih =>
      have first := quiet ev List.mem_cons_self
      rw [List.cons_append, Progress.single, first.returned, first.stays,
        ih fun ev mem => quiet ev (List.mem_cons_of_mem _ mem)]
      rfl

theorem begins_of_raised {ev : Event Op Ans} {exc : Exc} (failed : raised ev = some exc) :
    begins ev = false := by
  unfold begins
  split
  · cases failed
  · rfl

theorem headersWritten_raised {ev : Event Op Ans} {exc : Exc} (failed : raised ev = some exc) :
    headersWritten [ev] = 0 := by
  simp [headersWritten, begins_of_raised failed]

theorem Progress.next_raised {ev : Event Op Ans} {exc : Exc} (failed : raised ev = some exc)
    (p : Progress) : p.next ev = { p with inFile := false } := by
  unfold Progress.next
  rw [begins_of_raised failed, failed, Bool.or_false]
  congr 1
  split
  · cases failed
  · rfl

theorem Progress.single_raised {ev : Event Op Ans} {exc : Exc} (failed : raised ev = some exc)
    (p : Progress) (events : Events) :
    p.single (ev :: events) = ((!(p.begun && p.answers exc) || refused events) &&
      { p with inFile := false }.single events) := by
  rw [Progress.single, Progress.next_raised failed, failed]

/-- While a handler recovers, nothing is answered. -/
theorem Progress.single_recovering {p : Progress} (recovering : p.recovering = true)
    (events : Events) : p.single events = true := by
  induction events generalizing p with
  | nil => rfl
  | cons ev events ih =>
      have still : (p.next ev).recovering = true := by
        unfold Progress.next
        dsimp only
        split
        · rfl
        · exact recovering
      rw [Progress.single, ih still, Bool.and_true]
      split
      · simp [Progress.answers, recovering]
      · rfl

/-! ### One response -/

/-- A stretch without headers, up to what it raises. -/
inductive Headless {α : Type} (events : Events) (result : Except Exc α) : Prop where
  | whole (a : α) (quiet : ∀ ev ∈ events, Quiet ev) (ended : result = .ok a)
  | cut {calm : Events} {ev : Event Op Ans} {exc : Exc} (split : events = calm ++ [ev])
      (quiet : ∀ ev ∈ calm, Quiet ev) (failed : raised ev = some exc) (ended : result = .error exc)

/-- Every run of the coroutine is one. -/
def SendsNone {α : Type} (x : Handler α) : Prop :=
  ∀ events result, Finishes x events result → Headless events result

theorem Quiet.of {ev : Event Op Ans} (returned : raised ev = none) (headless : begins ev = false)
    (inFile : ∀ p : Progress, (p.next ev).inFile = p.inFile)
    (recovering : ∀ p : Progress, (p.next ev).recovering = p.recovering) : Quiet ev := by
  refine ⟨returned, headless, fun p => ?_⟩
  have begun : (p.next ev).begun = p.begun := by
    unfold Progress.next
    rw [headless, Bool.or_false]
  obtain ⟨_, _, _⟩ := p
  exact Progress.mk.injEq .. ▸ ⟨begun, inFile _, recovering _⟩

theorem Headless.returns {α : Type} {ev : Event Op Ans} {a : α} (quiet : Quiet ev) :
    Headless [ev] (.ok a : Except Exc α) :=
  .whole a (fun _ mem => List.mem_singleton.mp mem ▸ quiet) rfl

theorem Headless.raises {α : Type} {ev : Event Op Ans} {exc : Exc} (failed : raised ev = some exc) :
    Headless [ev] (.error exc : Except Exc α) :=
  .cut (List.nil_append _).symm (by simp) failed rfl

/-- One operation that may raise. -/
theorem Headless.answered {α : Type} (ev : Except Exc α → Event Op Ans)
    (quiet : ∀ a, Quiet (ev (.ok a))) (raises : ∀ exc, raised (ev (.error exc)) = some exc)
    (answer : Except Exc α) : Headless [ev answer] answer := by
  cases answer with
  | ok a => exact .returns (quiet a)
  | error exc => exact .raises (raises exc)

theorem sendsNone_bind {α β : Type} {x : Handler α} {f : α → Handler β} (first : SendsNone x)
    (second : ∀ a, SendsNone (f a)) : SendsNone (x >>= f) := by
  intro events result run
  obtain ⟨exc, before, rfl⟩ | ⟨events, a, rest, before, after, rfl⟩ := finishes_bind_iff.mp run
  · cases first _ _ before with
    | whole a quiet ended => cases ended
    | cut split quiet failed ended => exact .cut split quiet failed (by cases ended; rfl)
  · cases first _ _ before with
    | cut split quiet failed ended => cases ended
    | whole a' quiet ended =>
        have both {calm : Events} (later : ∀ ev ∈ calm, Quiet ev) :
            ∀ ev ∈ events ++ calm, Quiet ev := by
          intro ev mem
          exact (List.mem_append.mp mem).elim (quiet ev) (later ev)
        cases second a _ _ after with
        | whole b later ended => exact .whole b (both later) ended
        | @cut calm ev exc split later failed ended =>
            have joined : events ++ rest = events ++ calm ++ [ev] := by
              rw [split, List.append_assoc]
            exact .cut joined (both later) failed ended

theorem sendsNone_pure {α : Type} (a : α) : SendsNone (pure a) := by
  intro events result run
  obtain ⟨rfl, rfl⟩ := finishes_pure_iff.mp run
  exact .whole a (by simp) rfl

theorem sendsNone_drain : SendsNone drain := by
  intro events result run
  obtain rfl := runs_ask_iff.mp run
  exact .answered (fun answer => ⟨.drain, answer⟩)
    (fun _ => .of rfl rfl (fun _ => rfl) fun _ => rfl) (fun _ => rfl) result

theorem sendsNone_body (data : Bytes) : SendsNone (write (.body data)) := by
  intro events result run
  obtain rfl := runs_ask_iff.mp run
  exact .answered (fun answer => ⟨.write (.body data), answer⟩)
    (fun _ => .of rfl rfl (fun _ => rfl) fun _ => rfl) (fun _ => rfl) result

/-- How a response ends: its headers do not go out, or they do and the rest follows. -/
inductive Sent (events : Events) (result : Except Exc Unit) : Prop where
  | unsent {piece : Piece} {exc : Exc} (only : events = [⟨.write piece, .error exc⟩])
      (ended : result = .error exc)
  | begun {status length : Nat} {contentType : String} {rest : Events}
      (split : events = ⟨.write (.headers status contentType length), .ok ()⟩ :: rest)
      (headless : Headless rest result)

/-- Headers, and then no others. -/
theorem sent_of_headers {status length : Nat} {contentType : String} {k : Unit → Handler Unit}
    (none : ∀ a, SendsNone (k a)) {events : Events} {result : Except Exc Unit}
    (run : Finishes (headers status contentType length >>= k) events result) :
    Sent events result := by
  obtain ⟨exc, before, rfl⟩ | ⟨first, done, rest, before, after, rfl⟩ :=
    finishes_bind_iff.mp (finishes_assoc_iff.mp run)
  · obtain rfl := runs_ask_iff.mp before
    exact .unsent rfl rfl
  · obtain rfl := runs_ask_iff.mp before
    exact .begun rfl (sendsNone_bind sendsNone_drain none _ _ after)

theorem sent_json {codec : Mqtt.Codec} {status : Nat} {value : Json} {events : Events}
    {result : Except Exc Unit} (run : Finishes (json codec status value) events result) :
    Sent events result :=
  sent_of_headers (fun _ => sendsNone_bind (sendsNone_body _) fun _ => sendsNone_drain) run

theorem Headless.headersWritten {α : Type} {events : Events} {result : Except Exc α}
    (headless : Headless events result) : Web.headersWritten events = 0 := by
  cases headless with
  | whole a quiet ended => exact headersWritten_quiet quiet
  | cut split quiet failed ended =>
      rw [split, headersWritten_append, headersWritten_quiet quiet, headersWritten_raised failed]

theorem Headless.single_ok {α : Type} {events : Events} {a : α}
    (headless : Headless events (.ok a : Except Exc α)) (p : Progress) (later : Events) :
    p.single (events ++ later) = p.single later := by
  cases headless with
  | whole a' quiet ended => exact Progress.single_quiet quiet p later
  | cut split quiet failed ended => cases ended

theorem Headless.single_error {α : Type} {events : Events} {exc : Exc}
    (headless : Headless events (.error exc : Except Exc α)) (p : Progress) (later : Events) :
    p.single (events ++ later) = ((!(p.begun && p.answers exc) || refused later) &&
      { p with inFile := false }.single later) := by
  cases headless with
  | whole a quiet ended => cases ended
  | cut split quiet failed ended =>
      obtain rfl := Except.error.inj ended
      rw [split, List.append_assoc, Progress.single_quiet quiet]
      exact Progress.single_raised failed p later

theorem Sent.one {events : Events} {result : Except Exc Unit} (sent : Sent events result) :
    headersWritten events ≤ 1 := by
  cases sent with
  | unsent only ended =>
      rw [only, headersWritten_raised rfl]
      exact Nat.zero_le 1
  | begun split headless =>
      have rest := headless.headersWritten
      unfold Web.headersWritten at rest ⊢
      rw [split, List.countP_cons, rest]
      split <;> simp

theorem Sent.one_of_ok {events : Events} {done : Unit} (sent : Sent events (.ok done)) :
    headersWritten events = 1 := by
  cases sent with
  | unsent only ended => cases ended
  | begun split headless =>
      have rest := headless.headersWritten
      unfold Web.headersWritten at rest ⊢
      rw [split, List.countP_cons, rest]
      rfl

/-- The first write of a response is that of its headers. -/
theorem Sent.refused_iff {events : Events} {result : Except Exc Unit} (sent : Sent events result)
    (later : Events) : refused (events ++ later) = true ↔ headersWritten events = 0 := by
  cases sent with
  | unsent only ended =>
      rw [only, headersWritten_raised rfl]
      exact ⟨fun _ => rfl, fun _ => rfl⟩
  | begun split headless =>
      rw [split]
      constructor
      · intro refused
        cases refused
      · intro none
        unfold headersWritten at none
        rw [List.countP_cons] at none
        simp [begins] at none

/-- What is due behind a response that raised. -/
def dueBehind (begun : Bool) (later : Events) : Except Exc Unit → Bool
  | .ok () => true
  | .error exc => !(begun && !exc.cancelled) || refused later

theorem Sent.single {events : Events} {result : Except Exc Unit} (sent : Sent events result)
    (p : Progress) (outside : p.inFile = false) (fresh : p.recovering = false) (later : Events) :
    ∃ p' : Progress, p.single (events ++ later) =
      (dueBehind (p.begun || headersWritten events ≠ 0) later result && p'.single later) := by
  have answers (q : Progress) (outside : q.inFile = false) (fresh : q.recovering = false)
      (exc : Exc) : q.answers exc = !exc.cancelled := by
    simp [Progress.answers, outside, fresh]
  cases sent with
  | unsent only ended =>
      refine ⟨{ p with inFile := false }, ?_⟩
      subst only ended
      rw [List.singleton_append, Progress.single_raised rfl, answers p outside fresh,
        headersWritten_raised rfl]
      simp [dueBehind]
  | @begun status length contentType rest split headless =>
      have some : headersWritten events ≠ 0 := by
        rw [split]
        unfold headersWritten
        rw [List.countP_cons]
        simp [begins]
      have begun : (p.begun || decide (headersWritten events ≠ 0)) = true := by simp [some]
      rw [begun]
      have first : p.single (events ++ later) =
          ({ p with begun := true } : Progress).single (rest ++ later) := by
        rw [split, List.cons_append, Progress.single]
        simp [raised, Progress.next, begins]
      cases result with
      | ok done =>
          refine ⟨{ p with begun := true }, ?_⟩
          rw [first, headless.single_ok]
          rfl
      | error exc =>
          refine ⟨{ p with begun := true, inFile := false }, ?_⟩
          rw [first, headless.single_error, answers { p with begun := true } outside fresh]
          rfl

/-! ### The `except` and `finally` blocks -/

/-- Every event of the program is quiet. -/
def OnlyQuiet {α : Type} (p : Prog Op Ans α) : Prop :=
  ∀ events a, Runs p events a → ∀ ev ∈ events, Quiet ev

theorem onlyQuiet_pure {α : Type} (a : α) : OnlyQuiet (pure a : Prog Op Ans α) := by
  intro events b run
  obtain ⟨rfl, -⟩ := runs_pure_iff.mp run
  simp

theorem onlyQuiet_call {op : Op} (quiet : ∀ answer, Quiet ⟨op, answer⟩) : OnlyQuiet (call op) := by
  intro events answer run ev mem
  obtain rfl := runs_ask_iff.mp run
  obtain rfl := List.mem_singleton.mp mem
  exact quiet answer

theorem onlyQuiet_bind {α β : Type} {p : Prog Op Ans α} {f : α → Prog Op Ans β}
    (first : OnlyQuiet p) (second : ∀ a, OnlyQuiet (f a)) : OnlyQuiet (p >>= f) := by
  intro events b run ev mem
  obtain ⟨before, a, after, runFirst, runSecond, rfl⟩ := runs_bind_iff.mp run
  obtain inFirst | inSecond := List.mem_append.mp mem
  · exact first _ _ runFirst ev inFirst
  · exact second a _ _ runSecond ev inSecond

theorem quiet_attributes (a : Attributes) : Quiet ⟨.attributes, a⟩ :=
  .of rfl rfl (fun _ => rfl) fun _ => rfl

theorem quiet_setAttributes (a : Attributes) (done : Unit) : Quiet ⟨.setAttributes a, done⟩ :=
  .of rfl rfl (fun _ => rfl) fun _ => rfl

theorem quiet_close (done : Unit) : Quiet ⟨.close, done⟩ :=
  .of rfl rfl (fun _ => rfl) fun _ => rfl

theorem onlyQuiet_release (cfg : Config) : OnlyQuiet (release cfg) := by
  refine onlyQuiet_bind (onlyQuiet_call quiet_close) fun _ => ?_
  refine onlyQuiet_bind (onlyQuiet_call quiet_attributes) fun a => ?_
  refine onlyQuiet_bind (onlyQuiet_call (quiet_setAttributes _)) fun _ => ?_
  refine onlyQuiet_bind ?_ fun due => ?_
  · unfold gcDue
    split
    · exact onlyQuiet_pure true
    · refine onlyQuiet_bind (onlyQuiet_call fun free => ?_) fun free => onlyQuiet_pure _
      exact .of rfl rfl (fun _ => rfl) fun _ => rfl
  · split
    · refine onlyQuiet_bind (onlyQuiet_call fun done => ?_) fun _ => ?_
      · exact .of rfl rfl (fun _ => rfl) fun _ => rfl
      · exact onlyQuiet_bind (onlyQuiet_call quiet_attributes) fun a =>
          onlyQuiet_call (quiet_setAttributes _)
    · exact onlyQuiet_pure ()

/-- What follows the `try` block of `handle`: at most one response, if the outcome
is an exception that is answered. -/
structure Recovers (outcome : Except Exc Unit) (later : Events) : Prop where
  single : ∀ p : Progress, p.single later = true
  one : headersWritten later ≤ 1
  silent : (∀ exc, outcome = .error exc → exc.cancelled = true) → headersWritten later = 0
  refused : ∀ exc, outcome = .error exc → exc.cancelled = false →
    (Web.refused later = true ↔ headersWritten later = 0)

/-- Nothing is answered. -/
theorem Recovers.unanswered {outcome : Except Exc Unit} {later : Events}
    (quiet : ∀ ev ∈ later, Quiet ev)
    (unanswered : ∀ exc, outcome = .error exc → exc.cancelled = true) :
    Recovers outcome later := by
  have none := headersWritten_quiet quiet
  refine ⟨fun p => ?_, none ▸ Nat.zero_le 1, fun _ => none, ?_⟩
  · rw [← List.append_nil later, Progress.single_quiet quiet]
    rfl
  · intro exc raised notCancelled
    rw [unanswered exc raised] at notCancelled
    cases notCancelled

theorem recovers {cfg : Config} {codec : Mqtt.Codec} {outcome : Except Exc Unit} {later : Events}
    (run : Runs (recover codec outcome >>= fun _ => release cfg) later ()) :
    Recovers outcome later := by
  obtain ⟨answer, _, closing, recovering, releasing, rfl⟩ := runs_bind_iff.mp run
  have quiet := onlyQuiet_release cfg _ _ releasing
  unfold recover at recovering
  split at recovering
  · obtain ⟨rfl, -⟩ := runs_pure_iff.mp recovering
    exact .unanswered quiet nofun
  · rename_i exc
    split at recovering
    · rename_i cancelled
      obtain ⟨rfl, -⟩ := runs_pure_iff.mp recovering
      refine .unanswered quiet fun exc' same => ?_
      obtain rfl := Except.error.inj same
      exact cancelled
    · rename_i notCancelled
      obtain ⟨first, _, rest, logging, responding, rfl⟩ := runs_bind_iff.mp recovering
      obtain ⟨sending, result, last, json, done, rfl⟩ := runs_bind_iff.mp responding
      obtain rfl := runs_ask_iff.mp logging
      obtain ⟨rfl, -⟩ := runs_pure_iff.mp done
      have sent : Sent sending result := sent_json json
      have count : headersWritten
          ([(⟨.log .error ("HTTP request: " ++ exc.text), ()⟩ : Event Op Ans)] ++ (sending ++ []) ++
            closing) = headersWritten sending := by
        rw [headersWritten_append, headersWritten_append, List.append_nil,
          headersWritten_quiet quiet]
        simp [headersWritten, begins]
      refine ⟨fun p => ?_, count ▸ sent.one, fun cancelled => ?_, fun exc' _ _ => ?_⟩
      · rw [List.append_assoc, List.singleton_append, Progress.single]
        exact Bool.and_eq_true_iff.mpr ⟨rfl, Progress.single_recovering rfl _⟩
      · exact absurd (cancelled exc rfl) notCancelled
      · rw [count, List.append_nil, List.append_assoc, ← sent.refused_iff closing]
        rfl

/-- A response, and what follows it. -/
theorem Sent.followed {events later : Events} {result : Except Exc Unit}
    (sent : Sent events result) (recovers : Recovers result later) {p : Progress}
    (outside : p.inFile = false) (fresh : p.recovering = false) :
    (p.begun = false →
      (headersWritten (events ++ later) ≤ 1 ↔ p.single (events ++ later) = true)) ∧
    (p.begun = true →
      (headersWritten (events ++ later) = 0 ↔
        refused (events ++ later) = true ∧ p.single (events ++ later) = true)) := by
  obtain ⟨p', single⟩ := sent.single p outside fresh later
  have one := sent.one
  rw [single, recovers.single, Bool.and_true, headersWritten_append, sent.refused_iff later]
  by_cases answered : ∃ exc, result = .error exc ∧ exc.cancelled = false
  · obtain ⟨exc, rfl, notCancelled⟩ := answered
    have next := recovers.refused exc rfl notCancelled
    have few := recovers.one
    simp only [dueBehind, notCancelled, Bool.not_false, Bool.and_true, Bool.or_eq_true,
      Bool.not_eq_true', next]
    constructor
    · intro begun
      rw [begun, Bool.false_or, decide_eq_false_iff_not]
      omega
    · intro begun
      rw [begun, Bool.true_or]
      simp only [Bool.true_eq_false, false_or]
      omega
  · have unanswered : ∀ exc, result = .error exc → exc.cancelled = true := by
      intro exc same
      by_contra notCancelled
      exact answered ⟨exc, same, by simpa using notCancelled⟩
    have none := recovers.silent unanswered
    have due : ∀ begun, dueBehind begun later result = true := by
      intro begun
      cases result with
      | ok done => rfl
      | error exc => simp [dueBehind, unanswered exc rfl]
    rw [due, none]
    constructor
    · intro _
      exact ⟨fun _ => rfl, fun _ => one⟩
    · intro _
      exact ⟨fun none => ⟨none, rfl⟩, fun both => both.1⟩

/-! ### The `try` block -/

/-- Before any response: nothing is sent, and nothing that is raised is due. -/
structure Blank (events : Events) : Prop where
  none : headersWritten events = 0
  single : ∀ later, Progress.start.single (events ++ later) = Progress.start.single later

theorem Blank.nil : Blank [] := ⟨rfl, fun _ => rfl⟩

theorem Blank.append {first second : Events} (blank : Blank first) (blank' : Blank second) :
    Blank (first ++ second) := by
  constructor
  · rw [headersWritten_append, blank.none, blank'.none]
  · intro later
    rw [List.append_assoc, blank.single, blank'.single]

theorem Blank.quiet {ev : Event Op Ans} (quiet : Quiet ev) : Blank [ev] := by
  have all : ∀ e ∈ [ev], Quiet e := fun e mem => List.mem_singleton.mp mem ▸ quiet
  exact ⟨headersWritten_quiet all, fun later => Progress.single_quiet all .start later⟩

theorem Blank.raised {ev : Event Op Ans} {exc : Exc} (failed : raised ev = some exc) :
    Blank [ev] := by
  refine ⟨headersWritten_raised failed, fun later => ?_⟩
  rw [List.singleton_append, Progress.single_raised failed]
  rfl

/-- Behind headers in `_file`, and then out of it. -/
def Progress.streaming : Progress := ⟨true, true, false⟩
def Progress.broken : Progress := ⟨true, false, false⟩

/-- How the `try` block of `handle` ends. -/
inductive Served (events : Events) (result : Except Exc Unit) : Prop where
  | silent (blank : Blank events)
  | responds {before answer : Events} (split : events = before ++ answer) (blank : Blank before)
      (sent : Sent answer result)
  | completes (one : headersWritten events = 1)
      (single : ∀ later, ∃ p : Progress, Progress.start.single (events ++ later) = p.single later)
      (ended : result = .ok ())
  /-- a file breaks off behind its headers -/
  | breaks {before after : Events} (split : events = before ++ after)
      (one : headersWritten before = 1)
      (single : ∀ later, Progress.start.single (before ++ later) =
        (refused later && Progress.broken.single later))
      (answered : Sent after result ∨
        after = [] ∧ ∃ exc, result = .error exc ∧ exc.cancelled = false)

theorem Served.ahead {first events : Events} {result : Except Exc Unit} (blank : Blank first)
    (served : Served events result) : Served (first ++ events) result := by
  cases served with
  | silent blank' => exact .silent (blank.append blank')
  | responds split blank' sent =>
      rw [split, ← List.append_assoc]
      exact .responds rfl (blank.append blank') sent
  | completes one single ended =>
      refine .completes ?_ (fun later => ?_) ended
      · rw [headersWritten_append, blank.none, one]
      · obtain ⟨p, same⟩ := single later
        exact ⟨p, by rw [List.append_assoc, blank.single, same]⟩
  | breaks split one single answered =>
      rw [split, ← List.append_assoc]
      refine .breaks rfl ?_ (fun later => ?_) answered
      · rw [headersWritten_append, blank.none, one]
      · rw [List.append_assoc, blank.single, single]

/-- **A connection has one response at most, exactly if every exception that is
answered behind headers is followed by a write that raises.** -/
theorem Served.single_iff {events later : Events} {result : Except Exc Unit}
    (served : Served events result) (recovers : Recovers result later) :
    headersWritten (events ++ later) ≤ 1 ↔ Progress.start.single (events ++ later) = true := by
  cases served with
  | silent blank =>
      rw [headersWritten_append, blank.none, Nat.zero_add, blank.single, recovers.single]
      exact ⟨fun _ => rfl, fun _ => recovers.one⟩
  | responds split blank sent =>
      rw [split, List.append_assoc, blank.single, headersWritten_append, blank.none, Nat.zero_add]
      exact (sent.followed recovers rfl rfl).1 rfl
  | completes one single ended =>
      obtain ⟨p, same⟩ := single later
      subst ended
      rw [headersWritten_append, one, recovers.silent nofun, same, recovers.single]
      exact ⟨fun _ => rfl, fun _ => Nat.le_refl _⟩
  | @breaks before after split one single answered =>
      rw [split, List.append_assoc, single, headersWritten_append, one, Bool.and_eq_true]
      have count : 1 + headersWritten (after ++ later) ≤ 1 ↔
          headersWritten (after ++ later) = 0 := by
        omega
      rw [count]
      obtain sent | ⟨rfl, exc, rfl, notCancelled⟩ := answered
      · exact (sent.followed recovers rfl rfl).2 rfl
      · rw [List.nil_append, recovers.single, recovers.refused exc rfl notCancelled]
        exact ⟨fun none => ⟨none, rfl⟩, fun both => both.1⟩

/-! ### `_file` -/

/-- How a file goes out behind its headers. -/
inductive Streamed (events : Events) (result : Except Exc Unit) : Prop where
  | whole (quiet : ∀ ev ∈ events, Quiet ev) (ended : result = .ok ())
  | cut {exc : Exc} (none : headersWritten events = 0)
      (single : ∀ later, Progress.streaming.single (events ++ later) =
        (refused later && Progress.broken.single later))
      (ended : result = .error exc)

theorem Headless.streamed {events : Events} {result : Except Exc Unit}
    (headless : Headless events result) : Streamed events result := by
  have none := headless.headersWritten
  cases headless with
  | whole a quiet ended => exact .whole quiet ended
  | cut split quiet failed ended =>
      refine .cut none (fun later => ?_) ended
      subst ended
      have cut : Headless events (.error _ : Except Exc Unit) := .cut split quiet failed rfl
      rw [cut.single_error]
      rfl

theorem Streamed.ahead {first events : Events} {result : Except Exc Unit}
    (quiet : ∀ ev ∈ first, Quiet ev) (streamed : Streamed events result) :
    Streamed (first ++ events) result := by
  cases streamed with
  | whole later ended =>
      refine .whole (fun ev mem => ?_) ended
      exact (List.mem_append.mp mem).elim (quiet ev) (later ev)
  | cut none single ended =>
      refine .cut ?_ (fun later => ?_) ended
      · rw [headersWritten_append, headersWritten_quiet quiet, none]
      · rw [List.append_assoc, Progress.single_quiet quiet, single]

/-- A file that is closed behind an exception. -/
theorem Streamed.close {events : Events} {exc exc' : Exc}
    (headless : Headless events (.error exc : Except Exc Unit)) (answer : Except Exc Unit) :
    Streamed (events ++ [⟨.closeFile, answer⟩]) (.error exc') := by
  refine .cut ?_ (fun later => ?_) rfl
  · rw [headersWritten_append, headless.headersWritten]
    rfl
  · rw [List.append_assoc, headless.single_error, List.singleton_append]
    cases answer with
    | ok done => rfl
    | error exc =>
        rw [Progress.single_raised rfl]
        change (refused later && (_ && Progress.broken.single later)) = _
        cases refused later with
        | true => simp
        | false => rfl

theorem sendsNone_closeFile : SendsNone (ExceptT.mk (call .closeFile)) := by
  intro events result run
  obtain rfl := runs_ask_iff.mp run
  exact .answered (fun answer => ⟨.closeFile, answer⟩)
    (fun _ => .of rfl rfl (fun _ => rfl) fun _ => rfl) (fun _ => rfl) result

theorem sendsNone_readFile : SendsNone (ExceptT.mk (call .readFile)) := by
  intro events result run
  obtain rfl := runs_ask_iff.mp run
  exact .answered (fun answer => ⟨.readFile, answer⟩)
    (fun _ => .of rfl rfl (fun _ => rfl) fun _ => rfl) (fun _ => rfl) result

theorem sendsNone_stream (chunks : List Bytes) : SendsNone (stream chunks) := by
  induction chunks with
  | nil => exact sendsNone_readFile
  | cons chunk chunks ih =>
      refine sendsNone_bind sendsNone_readFile fun _ => ?_
      split
      · exact sendsNone_pure ()
      · refine sendsNone_bind (sendsNone_body chunk) fun _ => ?_
        exact sendsNone_bind sendsNone_drain fun _ => ih

/-- An exception in the loop closes the file and goes on. -/
theorem streamed_loop {chunks : List Bytes} {events : Events} {result : Except Exc Unit}
    (run : Finishes (tryCatch (stream chunks) fun exc => do
      ExceptT.mk (call .closeFile)
      throw exc) events result) :
    Headless events result ∨ ∃ exc, result = .error exc ∧ Streamed events result := by
  obtain ⟨done, whole, rfl⟩ | ⟨first, exc, second, raised, closing, rfl⟩ :=
    finishes_tryCatch_iff.mp run
  · exact .inl (sendsNone_stream chunks _ _ whole)
  · have headless := sendsNone_stream chunks _ _ raised
    right
    obtain ⟨exc', close, rfl⟩ | ⟨close, done, rest, closed, throwing, rfl⟩ :=
      finishes_bind_iff.mp closing
    · obtain rfl := runs_ask_iff.mp close
      exact ⟨exc', rfl, .close headless _⟩
    · obtain rfl := runs_ask_iff.mp closed
      obtain ⟨rfl, rfl⟩ := finishes_throw_iff.mp throwing
      exact ⟨exc, rfl, .close headless _⟩

theorem streamed_sendFile {path : Text} {events : Events} {result : Except Exc Unit}
    (run : Finishes (sendFile path) events result) : Streamed events result := by
  obtain ⟨exc, opening, rfl⟩ | ⟨first, chunks, rest, opening, sending, rfl⟩ :=
    finishes_bind_iff.mp run
  · obtain rfl := runs_ask_iff.mp opening
    exact (Headless.raises rfl).streamed
  · obtain rfl := runs_ask_iff.mp opening
    have opened : Quiet (⟨.openFile path, .ok chunks⟩ : Event Op Ans) :=
      .of rfl rfl (fun _ => rfl) fun _ => rfl
    refine .ahead (fun ev mem => List.mem_singleton.mp mem ▸ opened) ?_
    obtain ⟨exc, loop, rfl⟩ | ⟨first, done, rest, loop, closing, rfl⟩ :=
      finishes_bind_iff.mp sending
    · obtain headless | ⟨exc, -, streamed⟩ := streamed_loop loop
      · exact headless.streamed
      · exact streamed
    · obtain headless | ⟨exc, same, -⟩ := streamed_loop loop
      · cases headless with
        | whole a quiet ended => exact .ahead quiet (sendsNone_closeFile _ _ closing).streamed
        | cut split quiet failed ended => cases ended
      · cases same

/-- How the `try` block of `_file` ends. -/
inductive Tried (events : Events) (result : Except Exc Unit) : Prop where
  | unsent {exc : Exc} (blank : Blank events) (ended : result = .error exc)
  | whole (one : headersWritten events = 1)
      (single : ∀ later, ∃ p : Progress, Progress.start.single (events ++ later) = p.single later)
      (ended : result = .ok ())
  | broken {exc : Exc} (one : headersWritten events = 1)
      (single : ∀ later, Progress.start.single (events ++ later) =
        (refused later && Progress.broken.single later))
      (ended : result = .error exc)

theorem tried_file {path : Text} {events : Events} {result : Except Exc Unit}
    (run : Finishes (tryFile path) events result) : Tried events result := by
  obtain ⟨exc, stat, rfl⟩ | ⟨first, size, rest, stat, sending, rfl⟩ := finishes_bind_iff.mp run
  · obtain rfl := runs_ask_iff.mp stat
    exact .unsent (.raised rfl) rfl
  · obtain rfl := runs_ask_iff.mp stat
    obtain ⟨exc, head, rfl⟩ | ⟨head, done, rest, headed, streaming, rfl⟩ :=
      finishes_bind_iff.mp (finishes_assoc_iff.mp sending)
    · obtain rfl := runs_ask_iff.mp head
      exact .unsent ⟨rfl, fun later => rfl⟩ rfl
    · obtain rfl := runs_ask_iff.mp headed
      have streamed : Streamed rest result := by
        obtain ⟨exc, draining, rfl⟩ | ⟨drain, done, rest, drained, sent, rfl⟩ :=
          finishes_bind_iff.mp streaming
        · exact (sendsNone_drain _ _ draining).streamed
        · cases sendsNone_drain _ _ drained with
          | whole a quiet ended => exact .ahead quiet (streamed_sendFile sent)
          | cut split quiet failed ended => cases ended
      cases streamed with
      | whole quiet ended =>
          refine .whole ?_ (fun later => ⟨.streaming, ?_⟩) ended
          · rw [headersWritten_append, headersWritten_append, headersWritten_quiet quiet]
            rfl
          · rw [← Progress.single_quiet quiet .streaming later]
            simp only [List.append_assoc]
            rfl
      | cut none single ended =>
          refine .broken ?_ (fun later => ?_) ended
          · rw [headersWritten_append, headersWritten_append, none]
            rfl
          · rw [← single]
            simp only [List.append_assoc]
            rfl

theorem served_file {codec : Mqtt.Codec} {path : Text} {events : Events} {result : Except Exc Unit}
    (run : Finishes (file codec path) events result) : Served events result := by
  obtain ⟨done, whole, rfl⟩ | ⟨first, exc, second, raised, answering, rfl⟩ :=
    finishes_tryCatch_iff.mp run
  · cases tried_file whole with
    | unsent blank ended => cases ended
    | whole one single ended => exact .completes one single ended
    | broken one single ended => cases ended
  · have tried := tried_file raised
    cases exc with
    | osError errno text =>
        have sent : Sent second result := sent_json answering
        cases tried with
        | unsent blank ended => exact .responds rfl blank sent
        | whole one single ended => cases ended
        | broken one single ended => exact .breaks rfl one single (.inl sent)
    | other text =>
        obtain ⟨rfl, rfl⟩ := finishes_throw_iff.mp answering
        rw [List.append_nil]
        cases tried with
        | unsent blank ended => exact .silent blank
        | whole one single ended => cases ended
        | broken one single ended =>
            exact .breaks (List.append_nil _).symm one single (.inr ⟨rfl, _, rfl, rfl⟩)

/-! ### `_route` and `handle` -/

/-- Every run of the coroutine is served. -/
def Serves (x : Handler Unit) : Prop :=
  ∀ events result, Finishes x events result → Served events result

section Routes

variable {cfg : Config} {codec : Mqtt.Codec}

theorem serves_json (status : Nat) (value : Json) : Serves (json codec status value) :=
  fun _ _ run => .responds (List.nil_append _).symm .nil (sent_json run)

theorem serves_ite {c : Prop} [Decidable c] {x y : Handler Unit} (yes : Serves x) (no : Serves y) :
    Serves (if c then x else y) := by
  split
  · exact yes
  · exact no

theorem finishes_call {op : Op} {events : Events} {result : Except Exc (Ans op)}
    (run : Finishes (ExceptT.lift (call op)) events result) :
    ∃ answer, events = [⟨op, answer⟩] ∧ result = .ok answer := by
  obtain ⟨answer, asked, same⟩ := finishes_lift_iff.mp run
  exact ⟨answer, runs_ask_iff.mp asked, same⟩

/-- Behind an operation that raises nothing. -/
theorem serves_lift {op : Op} {f : Ans op → Handler Unit} (quiet : ∀ answer, Quiet ⟨op, answer⟩)
    (serves : ∀ answer, Serves (f answer)) : Serves (ExceptT.lift (call op) >>= f) := by
  intro events result run
  obtain ⟨exc, raised, rfl⟩ | ⟨first, answer, rest, lifted, after, rfl⟩ := finishes_bind_iff.mp run
  · obtain ⟨answer, -, same⟩ := finishes_call raised
    cases same
  · obtain ⟨answer', rfl, same⟩ := finishes_call lifted
    obtain rfl := Except.ok.inj same
    exact (serves _ _ _ after).ahead (.quiet (quiet answer))

theorem serves_sendPage (page : Page) (value : Json → Json) :
    Serves (sendPage codec page value) := by
  intro events result run
  obtain ⟨exc, building, rfl⟩ | ⟨first, built, rest, building, after, rfl⟩ :=
    finishes_bind_iff.mp run
  · obtain rfl := runs_ask_iff.mp building
    exact .silent (.raised rfl)
  · obtain rfl := runs_ask_iff.mp building
    exact (serves_json 200 _ _ _ after).ahead (.quiet (.of rfl rfl (fun _ => rfl) fun _ => rfl))

theorem serves_health : Serves (health codec) :=
  serves_lift quiet_attributes fun _ =>
    serves_lift (fun _ => .of rfl rfl (fun _ => rfl) fun _ => rfl) fun _ => serves_json 200 _

theorem serves_testLte : Serves (testLte cfg codec) := by
  unfold testLte
  split
  · exact serves_lift (fun _ => .of rfl rfl (fun _ => rfl) fun _ => rfl) fun _ => serves_json 202 _
  · exact serves_json 503 _

/-- The response goes out before the gateway is reset. -/
theorem serves_restartGateway : Serves (restartGateway codec) := by
  refine serves_lift (fun _ => .of rfl rfl (fun _ => rfl) fun _ => rfl) fun _ => ?_
  intro events result run
  obtain ⟨exc, raised, rfl⟩ | ⟨answer, done, rest, sending, after, rfl⟩ := finishes_bind_iff.mp run
  · exact serves_json 202 _ _ _ raised
  · have sent : Sent answer (.ok done) := sent_json sending
    have tail : (∀ ev ∈ rest, Quiet ev) ∧ result = .ok () := by
      obtain ⟨exc, asleep, -⟩ | ⟨first, done, second, asleep, resetting, rfl⟩ :=
        finishes_bind_iff.mp after
      · obtain ⟨_, -, same⟩ := finishes_call asleep
        cases same
      · obtain ⟨_, rfl, -⟩ := finishes_call asleep
        obtain ⟨_, rfl, rfl⟩ := finishes_call resetting
        refine ⟨fun ev mem => ?_, rfl⟩
        obtain rfl | rfl : ev = _ ∨ ev = _ := by simpa using mem
        · exact .of rfl rfl (fun _ => rfl) fun _ => rfl
        · exact .of rfl rfl (fun _ => rfl) fun _ => rfl
    obtain ⟨quiet, ended⟩ := tail
    refine .completes ?_ (fun later => ?_) ended
    · rw [headersWritten_append, headersWritten_quiet quiet, sent.one_of_ok]
    · obtain ⟨p, single⟩ := sent.single .start rfl rfl (rest ++ later)
      refine ⟨p, ?_⟩
      rw [List.append_assoc, single, Progress.single_quiet quiet]
      rfl

theorem serves_route (method path : Text) : Serves (route cfg codec method path) := by
  have ofAttributes {f : Attributes → Handler Unit} (serves : ∀ a, Serves (f a)) :
      Serves (attributes >>= f) :=
    serves_lift quiet_attributes serves
  have static (target : Text) : Serves
      (if ["/index.html".toList, "/style.css".toList, "/app.js".toList,
          "/logo.svg".toList].contains target
        then file codec (cfg.staticRoot.toList ++ target)
        else json codec 404 (errorValue "not found")) :=
    serves_ite (fun _ _ => served_file) (serves_json 404 _)
  refine serves_ite serves_health ?_
  refine serves_ite (ofAttributes fun a => serves_sendPage _ id) ?_
  refine serves_ite (serves_sendPage _ id) ?_
  refine serves_ite (ofAttributes fun a => serves_sendPage _ id) ?_
  refine serves_ite (serves_sendPage _ id) ?_
  refine serves_ite (serves_sendPage _ id) ?_
  refine serves_ite (serves_sendPage _ _) ?_
  refine serves_ite (serves_sendPage _ _) ?_
  refine serves_ite serves_restartGateway ?_
  refine serves_ite serves_testLte ?_
  exact serves_ite (serves_json 405 _) (static _)

theorem serves_serve : Serves (serve cfg codec) := by
  intro events result run
  obtain ⟨exc, reading, rfl⟩ | ⟨first, request, rest, reading, after, rfl⟩ :=
    finishes_bind_iff.mp run
  · obtain rfl := runs_ask_iff.mp reading
    exact .silent (.raised rfl)
  · obtain rfl := runs_ask_iff.mp reading
    refine .ahead (.quiet (.of rfl rfl (fun _ => rfl) fun _ => rfl)) ?_
    split at after
    · obtain ⟨rfl, -⟩ := finishes_pure_iff.mp after
      exact .silent .nil
    · split at after
      · obtain ⟨rfl, -⟩ := finishes_throw_iff.mp after
        exact .silent .nil
      · split at after
        · exact serves_route _ _ _ _ after
        · exact serves_json 400 _ _ _ after

/-- **A connection gets at most one status line and header block, exactly if every
exception that is answered behind headers is followed by a write that raises.** -/
theorem single_response_iff {events : Events} (run : Runs (handle cfg codec) events ()) :
    headersWritten events ≤ 1 ↔ Progress.start.single events = true := by
  obtain ⟨first, a, rest, reading, after, rfl⟩ := runs_bind_iff.mp run
  obtain rfl := runs_ask_iff.mp reading
  split at after
  · obtain ⟨counting, _, closing, counted, closed, rfl⟩ := runs_bind_iff.mp after
    obtain rfl := runs_ask_iff.mp counted
    obtain rfl := runs_ask_iff.mp closed
    exact ⟨fun _ => rfl, fun _ => Nat.zero_le 1⟩
  · obtain ⟨counting, _, served, counted, admitted, rfl⟩ := runs_bind_iff.mp after
    obtain ⟨events, outcome, later, serving, recovering, rfl⟩ := runs_bind_iff.mp admitted
    obtain rfl := runs_ask_iff.mp counted
    have served : Served ([⟨.attributes, a⟩] ++
        ([⟨.setAttributes { a with activeRequests := a.activeRequests + 1 }, ()⟩] ++ events))
        outcome :=
      .ahead (.quiet (quiet_attributes a))
        (.ahead (.quiet (quiet_setAttributes _ _)) (serves_serve _ _ serving))
    have iff := served.single_iff (recovers recovering)
    simp only [List.append_assoc] at iff
    exact iff

end Routes

/-- A browser asks for the dashboard, and the connection breaks in one drain. -/
def breaksAt (drainAt : Nat) (n : Nat) : (op : Op) → Ans op
  | .attributes => ⟨true, 0, 0, 0, 0⟩
  | .read _ => .ok (Utf8.encode "GET / HTTP/1.1\r\n\r\n".toList)
  | .drain => if n = drainAt then .error (.osError (some 110) "ETIMEDOUT") else .ok ()
  | .stat _ => .ok 512
  | .openFile _ => .ok [[60, 33]]
  | .page _ => .ok .null
  | .write _ | .readFile | .closeFile => .ok ()
  | .startInternetTest => true
  | .memFree => 100000
  | .setAttributes _ | .close | .collect | .sleepMs _ | .reset | .log _ _ => ()

/-- The drain behind the headers of the file raises. -/
def brokenFile : Events := ((handle .shipped Mqtt.idleCodec).play (breaksAt 5) 0).1

theorem single_response_iff_broken :
    Runs (handle .shipped Mqtt.idleCodec) brokenFile () ∧
      (headersWritten brokenFile ≤ 1 ↔ Progress.start.single brokenFile = true) :=
  have run := runs_play (breaksAt 5) 0 (handle .shipped Mqtt.idleCodec)
  ⟨run, single_response_iff run⟩

/-- The file has begun as `200`, and then there are the headers of a `404`. -/
theorem second_response_sent :
    Runs (handle .shipped Mqtt.idleCodec) brokenFile () ∧
      (brokenFile.filter begins).map Event.op =
        [.write (.headers 200 "text/html; charset=utf-8" 512),
          .write (.headers 404 "application/json" 2)] ∧
      ¬ headersWritten brokenFile ≤ 1 :=
  ⟨runs_play (breaksAt 5) 0 (handle .shipped Mqtt.idleCodec), by decide, by decide⟩

end EdgeGateway.Web
