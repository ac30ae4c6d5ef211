import Mathlib.Data.List.Induction
import Mathlib.Data.List.Infix

/-!
Runs of a deterministic labelled transition system.

A system has one initial state and a partial step function: an input that is
not enabled in a state has no successor. A `Run` is a finite sequence of enabled
inputs together with the state it reaches, so a statement about every run is a
statement about every interleaving the inputs can express.

* `Run.invariant` is the induction principle for reachable states, and `Reachable`
  lets a run be built step by step.
* `Always` and `EachStep` state a property of every state of a run and of every
  step of a run, the step being judged in the state it leaves.
* `eachStep_of_checks` establishes the second on a given run by running it.
* `always_of_eachStep` and `always_iff_eachStep` reduce a safety property of
  whole runs to a guard on single steps. The second is exact: the guard is both
  what the property needs and what it implies, because the first step that
  breaks the guard already breaks the property.
* `System.withBooks` keeps books beside a system that do not influence it
  (`run_withBooks_iff`), for properties that speak of the past of a run.
-/

namespace EdgeGateway.Lib

universe u v w

/-- One initial state and a partial step function. -/
structure System (σ : Type u) (ι : Type v) where
  init : σ
  step : σ → ι → Option σ

variable {σ : Type u} {ι : Type v}

/-- `Run S is s`: the inputs `is` are enabled one after the other and lead to `s`. -/
inductive Run (S : System σ ι) : List ι → σ → Prop where
  | start : Run S [] S.init
  | next {is : List ι} {s s' : σ} {i : ι} :
      Run S is s → S.step s i = some s' → Run S (is ++ [i]) s'

/-! ### Executing a run -/

/-- The state the inputs lead to, when every one of them is enabled. -/
def System.exec (S : System σ ι) (is : List ι) : Option σ :=
  is.foldlM S.step S.init

theorem System.exec_snoc (S : System σ ι) (is : List ι) (i : ι) :
    S.exec (is ++ [i]) = (S.exec is).bind fun s => S.step s i := by
  simp [System.exec, List.foldlM_append]

/-- The relation and the executable agree. -/
theorem run_iff_exec {S : System σ ι} {is : List ι} {s : σ} :
    Run S is s ↔ S.exec is = some s := by
  constructor
  · intro run
    induction run with
    | start => rfl
    | next _ step ih => rw [System.exec_snoc, ih]; exact step
  · intro exec
    induction is using List.reverseRecOn generalizing s with
    | nil =>
        have : S.init = s := Option.some.inj exec
        exact this ▸ .start
    | append_singleton is i ih =>
        rw [System.exec_snoc] at exec
        obtain ⟨mid, execMid, step⟩ := Option.bind_eq_some_iff.mp exec
        exact .next (ih execMid) step

theorem Run.unique {S : System σ ι} {is : List ι} {s t : σ}
    (left : Run S is s) (right : Run S is t) : s = t :=
  Option.some.inj ((run_iff_exec.mp left).symm.trans (run_iff_exec.mp right))

/-- The last step of a run. -/
theorem run_snoc {S : System σ ι} {is : List ι} {i : ι} {s' : σ} (run : Run S (is ++ [i]) s') :
    ∃ s, Run S is s ∧ S.step s i = some s' := by
  have exec := run_iff_exec.mp run
  rw [System.exec_snoc] at exec
  obtain ⟨s, before, step⟩ := Option.bind_eq_some_iff.mp exec
  exact ⟨s, run_iff_exec.mpr before, step⟩

/-- What holds at the start and is kept by every enabled step holds after every run. -/
theorem Run.invariant {S : System σ ι} {I : σ → Prop} (start : I S.init)
    (keeps : ∀ s i s', I s → S.step s i = some s' → I s') {is : List ι} {s : σ}
    (run : Run S is s) : I s := by
  induction run with
  | start => exact start
  | next _ step ih => exact keeps _ _ _ ih step

/-! ### Reachable states -/

/-- Some run leads to the state. -/
def Reachable (S : System σ ι) (s : σ) : Prop := ∃ is, Run S is s

theorem Reachable.init (S : System σ ι) : Reachable S S.init := ⟨[], .start⟩

theorem Reachable.step {S : System σ ι} {s s' : σ} {i : ι} (reach : Reachable S s)
    (step : S.step s i = some s') : Reachable S s' := by
  obtain ⟨is, run⟩ := reach
  exact ⟨is ++ [i], .next run step⟩

/-! ### Properties of every state and of every step of a run -/

/-- `P` holds in every state the run passes through, the first and last included. -/
def Always (S : System σ ι) (P : σ → Prop) (is : List ι) : Prop :=
  ∀ js s, js <+: is → Run S js s → P s

/-- `C` holds of every step of the run, in the state the step leaves. -/
def EachStep (S : System σ ι) (C : σ → ι → Prop) (is : List ι) : Prop :=
  ∀ js i s, js ++ [i] <+: is → Run S js s → C s i

theorem EachStep.mono_prefix {S : System σ ι} {C : σ → ι → Prop} {is js : List ι}
    (each : EachStep S C is) (sub : js <+: is) : EachStep S C js :=
  fun ks i s pre run => each ks i s (pre.trans sub) run

theorem EachStep.nil {S : System σ ι} {C : σ → ι → Prop} : EachStep S C [] := by
  intro js i s pre _
  simp at pre

theorem EachStep.snoc {S : System σ ι} {C : σ → ι → Prop} {is : List ι} {i : ι} {s : σ}
    (each : EachStep S C is) (run : Run S is s) (holds : C s i) : EachStep S C (is ++ [i]) := by
  intro js j t pre runT
  rcases List.prefix_concat_iff.mp pre with same | sub
  · obtain ⟨rfl, last⟩ := List.append_inj' same rfl
    obtain rfl : j = i := by simpa using last
    exact run.unique runT ▸ holds
  · exact each js j t sub runT

/-- Run the inputs and test every step in the state it leaves. -/
def System.checks (S : System σ ι) (test : σ → ι → Bool) : σ → List ι → Bool
  | _, [] => true
  | s, i :: is =>
      test s i &&
        match S.step s i with
        | some s' => S.checks test s' is
        | none => true

/-- A decidable property of steps is established along a run by running it. -/
theorem eachStep_of_checks {S : System σ ι} {C : σ → ι → Prop} [∀ s i, Decidable (C s i)]
    {is : List ι} (pass : S.checks (fun s i => decide (C s i)) S.init is = true) :
    EachStep S C is := by
  have along : ∀ js s, Run S js s → ∀ ks, js ++ ks = is →
      S.checks (fun s i => decide (C s i)) s ks = true := by
    intro js s run
    induction run with
    | start => rintro ks rfl; exact pass
    | @next js s s' i run step ih =>
        intro ks split
        have before := ih (i :: ks) (by simpa using split)
        simp only [System.checks, step, Bool.and_eq_true] at before
        exact before.2
  intro js i s ⟨ks, split⟩ run
  have here := along js s run (i :: ks) (by simpa using split)
  simp only [System.checks, Bool.and_eq_true] at here
  exact of_decide_eq_true here.1

/-- An invariant that only guarded steps keep holds in every state of a run
whose steps are all guarded. -/
theorem Run.guarded_invariant {S : System σ ι} {I : σ → Prop} {C : σ → ι → Prop}
    (start : I S.init)
    (keeps : ∀ s i s', I s → C s i → S.step s i = some s' → I s') {is : List ι} {s : σ}
    (run : Run S is s) (each : EachStep S C is) : I s := by
  induction run with
  | start => exact start
  | @next is s s' i run step ih =>
      have before := ih (each.mono_prefix (List.prefix_append _ _))
      exact keeps _ _ _ before (each is i s (List.prefix_refl _) run) step

/-- Guarded steps keep `I`, and `I` gives `P`: then `P` holds all along. -/
theorem always_of_eachStep {S : System σ ι} {I P : σ → Prop} {C : σ → ι → Prop}
    (start : I S.init) (keeps : ∀ s i s', I s → C s i → S.step s i = some s' → I s')
    (gives : ∀ s, I s → P s) {is : List ι} (each : EachStep S C is) : Always S P is :=
  fun _ s sub run => gives s (run.guarded_invariant start keeps (each.mono_prefix sub))

/-- **The guard is exact.** When moreover the first unguarded step leads out of
`P`, a run keeps `P` all along exactly when all of its steps are guarded. -/
theorem always_iff_eachStep {S : System σ ι} {I P : σ → Prop} {C : σ → ι → Prop}
    (start : I S.init) (keeps : ∀ s i s', I s → C s i → S.step s i = some s' → I s')
    (gives : ∀ s, I s → P s)
    (breaks : ∀ s i s', I s → ¬ C s i → S.step s i = some s' → ¬ P s') {is : List ι}
    {last : σ} (whole : Run S is last) : Always S P is ↔ EachStep S C is := by
  refine ⟨fun always => ?_, always_of_eachStep start keeps gives⟩
  induction whole with
  | start =>
      intro js i s pre _
      simp at pre
  | @next is s s' i run step ih =>
      have before : EachStep S C is :=
        ih fun js t sub => always js t (sub.trans (List.prefix_append _ _))
      have holds : C s i := by
        by_contra unguarded
        exact breaks s i s' (run.guarded_invariant start keeps before) unguarded step
          (always _ s' (List.prefix_refl _) (.next run step))
      exact before.snoc run holds

/-! ### Books beside a run -/

section Books

variable {β : Type w}

/-- The system, with books that every step continues. -/
def System.withBooks (S : System σ ι) (start : β) (book : σ → ι → σ → β → β) :
    System (σ × β) ι where
  init := (S.init, start)
  step := fun (s, books) i => (S.step s i).map fun s' => (s', book s i s' books)

theorem withBooks_step {S : System σ ι} {start : β} {book : σ → ι → σ → β → β}
    {s s' : σ × β} {i : ι}
    (step : (S.withBooks start book).step s i = some s') :
    S.step s.1 i = some s'.1 ∧ s'.2 = book s.1 i s'.1 s.2 := by
  obtain ⟨s₁, books⟩ := s
  obtain ⟨mid, stepped, rfl⟩ := Option.map_eq_some_iff.mp step
  exact ⟨stepped, rfl⟩

/-- **Books do not influence a run.** -/
theorem run_withBooks_iff {S : System σ ι} {start : β} {book : σ → ι → σ → β → β} {is : List ι}
    {s : σ} : Run S is s ↔ ∃ books, Run (S.withBooks start book) is (s, books) := by
  constructor
  · intro run
    induction run with
    | start => exact ⟨start, .start⟩
    | @next is s s' i run step ih =>
        obtain ⟨books, booked⟩ := ih
        refine ⟨book s i s' books, .next booked ?_⟩
        simp only [System.withBooks, step, Option.map_some]
  · rintro ⟨books, run⟩
    generalize whole : (s, books) = t at run
    induction run generalizing s books with
    | start =>
        obtain ⟨rfl, -⟩ := Prod.mk.inj whole
        exact .start
    | next run step ih =>
        subst whole
        exact .next (ih _ rfl) (withBooks_step step).1

end Books

end EdgeGateway.Lib
