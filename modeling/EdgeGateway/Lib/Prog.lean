/-!
Programs that perform operations.

A program returns, or performs an operation and goes on with the answer, which its
environment chooses. `Runs` is one way it can go: the operations with their answers,
and the value it returns. What may raise is an operation answered by an `Except`,
and `Finishes` is a run of a program under `ExceptT`.

* `runs_bind_iff`, `finishes_bind_iff`, `finishes_tryCatch_iff`: runs of a composed program.
* `Prog.play` runs a program against given answers, and `runs_play` says that it is
  one of its runs.
-/

namespace EdgeGateway.Lib

variable {Op : Type} {Ans : Op → Type} {α β ε : Type}

inductive Prog (Op : Type) (Ans : Op → Type) (α : Type) where
  | done (value : α)
  | perform (op : Op) (next : Ans op → Prog Op Ans α)

def Prog.bind : Prog Op Ans α → (α → Prog Op Ans β) → Prog Op Ans β
  | .done value, f => f value
  | .perform op next, f => .perform op fun answer => (next answer).bind f

instance : Monad (Prog Op Ans) where
  pure := .done
  bind := .bind

/-- Perform one operation, and return its answer. -/
def Prog.ask (op : Op) : Prog Op Ans (Ans op) := .perform op .done

/-! ### Runs -/

/-- An operation that was performed, and its answer. -/
structure Event (Op : Type) (Ans : Op → Type) where
  op : Op
  answer : Ans op

inductive Runs : Prog Op Ans α → List (Event Op Ans) → α → Prop where
  | done (value : α) : Runs (.done value) [] value
  | perform {op : Op} {next : Ans op → Prog Op Ans α} {events : List (Event Op Ans)} {value : α}
      (answer : Ans op) :
      Runs (next answer) events value → Runs (.perform op next) (⟨op, answer⟩ :: events) value

variable {events : List (Event Op Ans)}

theorem runs_pure_iff {a b : α} :
    Runs (pure a : Prog Op Ans α) events b ↔ events = [] ∧ b = a := by
  constructor
  · intro run
    cases run
    exact ⟨rfl, rfl⟩
  · rintro ⟨rfl, rfl⟩
    exact .done b

theorem runs_ask_iff {op : Op} {answer : Ans op} :
    Runs (Prog.ask op) events answer ↔ events = [⟨op, answer⟩] := by
  constructor
  · intro run
    cases run with
    | perform _ rest =>
        cases rest
        rfl
  · rintro rfl
    exact .perform answer (.done answer)

/-- **A run of a composed program is a run of each part.** -/
theorem runs_bind_iff {p : Prog Op Ans α} {f : α → Prog Op Ans β} {b : β} :
    Runs (p >>= f) events b ↔
      ∃ first a second, Runs p first a ∧ Runs (f a) second b ∧ events = first ++ second := by
  constructor
  · intro run
    induction p generalizing events with
    | done value => exact ⟨[], value, events, .done value, run, rfl⟩
    | perform op next ih =>
        cases run with
        | perform answer rest =>
            obtain ⟨first, a, second, before, after, rfl⟩ := ih answer rest
            exact ⟨_ :: first, a, second, .perform answer before, after, rfl⟩
  · rintro ⟨first, a, second, before, after, rfl⟩
    induction before with
    | done value => exact after
    | perform answer rest ih => exact .perform answer (ih after)

/-! ### Programs that raise -/

/-- A run of a program that returns or raises. -/
def Finishes (x : ExceptT ε (Prog Op Ans) α) (events : List (Event Op Ans)) (result : Except ε α) :
    Prop :=
  Runs x.run events result

section Raising

variable {result : Except ε α}

theorem finishes_pure_iff {a : α} :
    Finishes (pure a : ExceptT ε (Prog Op Ans) α) events result ↔ events = [] ∧ result = .ok a :=
  runs_pure_iff

theorem finishes_throw_iff {exc : ε} :
    Finishes (throw exc : ExceptT ε (Prog Op Ans) α) events result ↔
      events = [] ∧ result = .error exc :=
  runs_pure_iff

/-- An operation that does not raise. -/
theorem finishes_lift_iff {p : Prog Op Ans α} :
    Finishes (ExceptT.lift p : ExceptT ε (Prog Op Ans) α) events result ↔
      ∃ a, Runs p events a ∧ result = .ok a := by
  constructor
  · intro run
    obtain ⟨first, a, second, before, after, rfl⟩ := runs_bind_iff.mp run
    obtain ⟨rfl, rfl⟩ := runs_pure_iff.mp after
    exact ⟨a, by rwa [List.append_nil], rfl⟩
  · rintro ⟨a, run, rfl⟩
    exact runs_bind_iff.mpr ⟨events, a, [], run, runs_pure_iff.mpr ⟨rfl, rfl⟩, by simp⟩

/-- **A composed program ends in its first part, by raising, or in its second.** -/
theorem finishes_bind_iff {x : ExceptT ε (Prog Op Ans) α} {f : α → ExceptT ε (Prog Op Ans) β}
    {result : Except ε β} :
    Finishes (x >>= f) events result ↔
      (∃ exc, Finishes x events (.error exc) ∧ result = .error exc) ∨
        ∃ first a second, Finishes x first (.ok a) ∧ Finishes (f a) second result ∧
          events = first ++ second := by
  constructor
  · intro run
    obtain ⟨first, outcome, second, before, after, rfl⟩ := runs_bind_iff.mp run
    cases outcome with
    | ok a => exact .inr ⟨first, a, second, before, after, rfl⟩
    | error exc =>
        obtain ⟨rfl, rfl⟩ := runs_pure_iff.mp after
        exact .inl ⟨exc, by rwa [List.append_nil], rfl⟩
  · rintro (⟨exc, before, rfl⟩ | ⟨first, a, second, before, after, rfl⟩)
    · exact runs_bind_iff.mpr
        ⟨events, .error exc, [], before, runs_pure_iff.mpr ⟨rfl, rfl⟩, by simp⟩
    · exact runs_bind_iff.mpr ⟨first, .ok a, second, before, after, rfl⟩

/-- Programs compose associatively. -/
theorem finishes_assoc_iff {γ : Type} {x : ExceptT ε (Prog Op Ans) α}
    {f : α → ExceptT ε (Prog Op Ans) β} {g : β → ExceptT ε (Prog Op Ans) γ}
    {result : Except ε γ} :
    Finishes (x >>= f >>= g) events result ↔ Finishes (x >>= fun a => f a >>= g) events result := by
  constructor
  · intro run
    obtain ⟨exc, whole, rfl⟩ | ⟨both, b, third, whole, after, rfl⟩ := finishes_bind_iff.mp run
    · obtain ⟨exc, first, same⟩ | ⟨first, a, second, before, after, rfl⟩ :=
        finishes_bind_iff.mp whole
      · obtain rfl := Except.error.inj same
        exact finishes_bind_iff.mpr (.inl ⟨exc, first, rfl⟩)
      · exact finishes_bind_iff.mpr
          (.inr ⟨first, a, second, before, finishes_bind_iff.mpr (.inl ⟨exc, after, rfl⟩), rfl⟩)
    · obtain ⟨exc, -, same⟩ | ⟨first, a, second, before, middle, rfl⟩ :=
        finishes_bind_iff.mp whole
      · cases same
      · refine finishes_bind_iff.mpr (.inr ⟨first, a, second ++ third, before, ?_, by simp⟩)
        exact finishes_bind_iff.mpr (.inr ⟨second, b, third, middle, after, rfl⟩)
  · intro run
    obtain ⟨exc, first, rfl⟩ | ⟨first, a, rest, before, after, rfl⟩ := finishes_bind_iff.mp run
    · refine finishes_bind_iff.mpr (.inl ⟨exc, ?_, rfl⟩)
      exact finishes_bind_iff.mpr (.inl ⟨exc, first, rfl⟩)
    · obtain ⟨exc, second, rfl⟩ | ⟨second, b, third, middle, last, rfl⟩ :=
        finishes_bind_iff.mp after
      · refine finishes_bind_iff.mpr (.inl ⟨exc, ?_, rfl⟩)
        exact finishes_bind_iff.mpr (.inr ⟨first, a, rest, before, second, rfl⟩)
      · refine finishes_bind_iff.mpr (.inr ⟨first ++ second, b, third, ?_, last, by simp⟩)
        exact finishes_bind_iff.mpr (.inr ⟨first, a, second, before, middle, rfl⟩)

theorem finishes_tryCatch_iff {x : ExceptT ε (Prog Op Ans) α}
    {handler : ε → ExceptT ε (Prog Op Ans) α} :
    Finishes (tryCatch x handler) events result ↔
      (∃ a, Finishes x events (.ok a) ∧ result = .ok a) ∨
        ∃ first exc second, Finishes x first (.error exc) ∧ Finishes (handler exc) second result ∧
          events = first ++ second := by
  constructor
  · intro run
    obtain ⟨first, outcome, second, before, after, rfl⟩ := runs_bind_iff.mp run
    cases outcome with
    | error exc => exact .inr ⟨first, exc, second, before, after, rfl⟩
    | ok a =>
        obtain ⟨rfl, rfl⟩ := runs_pure_iff.mp after
        exact .inl ⟨a, by rwa [List.append_nil], rfl⟩
  · rintro (⟨a, before, rfl⟩ | ⟨first, exc, second, before, after, rfl⟩)
    · exact runs_bind_iff.mpr
        ⟨events, .ok a, [], before, runs_pure_iff.mpr ⟨rfl, rfl⟩, by simp⟩
    · exact runs_bind_iff.mpr ⟨first, .error exc, second, before, after, rfl⟩

end Raising

/-! ### Playing a program -/

/-- Run a program, the `n`-th operation and the later ones being answered as given. -/
def Prog.play (answers : Nat → (op : Op) → Ans op) :
    Nat → Prog Op Ans α → List (Event Op Ans) × α
  | _, .done value => ([], value)
  | n, .perform op next =>
      let rest := (next (answers n op)).play answers (n + 1)
      (⟨op, answers n op⟩ :: rest.1, rest.2)

theorem runs_play (answers : Nat → (op : Op) → Ans op) (n : Nat) (p : Prog Op Ans α) :
    Runs p (p.play answers n).1 (p.play answers n).2 := by
  induction p generalizing n with
  | done value => exact .done value
  | perform op next ih => exact .perform (answers n op) (ih (answers n op) (n + 1))

end EdgeGateway.Lib
