import EdgeGateway.Lib.Prog

/-!
Cooperative tasks on a shared state.

A task is a program that runs alone from one await to the next. Operations that
await suspend it until they are answered; the others are performed at once, and may
read and write what the tasks share.

* `Prog.Only`: the program performs operations of one kind only.
* `Prog.stretch` runs a program up to its next await, and `Prog.resume` from one
  await to the next.
* `Prog.stretch_bind`, `Prog.resume_bind`: as long as a program performs operations
  that leave the state alone, what follows it stays to be done, in the same state.
-/

namespace EdgeGateway.Lib

variable {Op : Type} {Ans : Op → Type} {α β ε σ : Type}

theorem Prog.bind_assoc {γ : Type} (p : Prog Op Ans α) (f : α → Prog Op Ans β)
    (g : β → Prog Op Ans γ) : p >>= f >>= g = p >>= fun a => f a >>= g := by
  induction p with
  | done value => rfl
  | perform op next ih => exact congrArg (Prog.perform op) (funext ih)

/-! ### Operations of one kind -/

def Prog.Only (P : Op → Prop) : Prog Op Ans α → Prop
  | .done _ => True
  | .perform op next => P op ∧ ∀ answer, (next answer).Only P

section Only

variable {P : Op → Prop}

theorem Prog.Only.bind {p : Prog Op Ans α} {f : α → Prog Op Ans β} (first : p.Only P)
    (second : ∀ a, (f a).Only P) : (p >>= f).Only P := by
  induction p with
  | done value => exact second value
  | perform op next ih => exact ⟨first.1, fun answer => ih answer (first.2 answer)⟩

theorem Prog.Only.ask {op : Op} (kind : P op) : (Prog.ask op : Prog Op Ans (Ans op)).Only P :=
  ⟨kind, fun _ => trivial⟩

theorem Prog.Only.run_bind {x : ExceptT ε (Prog Op Ans) α} {f : α → ExceptT ε (Prog Op Ans) β}
    (first : x.run.Only P) (second : ∀ a, (f a).run.Only P) : (x >>= f).run.Only P := by
  refine Prog.Only.bind first fun result => ?_
  cases result with
  | ok a => exact second a
  | error exc => trivial

theorem Prog.Only.run_tryCatch {x : ExceptT ε (Prog Op Ans) α}
    {handler : ε → ExceptT ε (Prog Op Ans) α} (first : x.run.Only P)
    (second : ∀ exc, (handler exc).run.Only P) : (tryCatch x handler).run.Only P := by
  refine Prog.Only.bind first fun result => ?_
  cases result with
  | ok a => trivial
  | error exc => exact second exc

theorem Prog.Only.run_lift {p : Prog Op Ans α} (only : p.Only P) :
    (ExceptT.lift p : ExceptT ε (Prog Op Ans) α).run.Only P :=
  Prog.Only.bind only fun _ => trivial

end Only

/-! ### Tasks -/

/-- How operations act on what the tasks share. -/
structure Sharing (Op : Type) (Ans : Op → Type) (σ : Type) where
  /-- the task is suspended until the operation is answered -/
  awaits : Op → Bool
  /-- the answer, given that of the environment, and the state behind it -/
  perform : (op : Op) → Ans op → σ → Ans op × σ

/-- What the environment answers to the `n`-th operation of a stretch. -/
abbrev Answers (Op : Type) (Ans : Op → Type) : Type := Nat → (op : Op) → Ans op

/-- Up to the next await, from the `n`-th operation of the stretch on. -/
def Prog.stretch (S : Sharing Op Ans σ) (answers : Answers Op Ans) :
    Nat → σ → Prog Op Ans α → σ × Prog Op Ans α
  | _, s, .done value => (s, .done value)
  | n, s, .perform op next =>
      if S.awaits op then (s, .perform op next)
      else
        let performed := S.perform op (answers n op) s
        (next performed.1).stretch S answers (n + 1) performed.2

/-- The await the task is suspended in ends, and the task runs up to the next one. -/
def Prog.resume (S : Sharing Op Ans σ) (answers : Answers Op Ans) (s : σ) :
    Prog Op Ans α → Option (σ × Prog Op Ans α)
  | .done _ => none
  | .perform op next =>
      let performed := S.perform op (answers 0 op) s
      some ((next performed.1).stretch S answers 1 performed.2)

section Stretch

variable {S : Sharing Op Ans σ} {answers : Answers Op Ans} {P : Op → Prop} {s : σ}

theorem Prog.stretch_perform {op : Op} (atOnce : S.awaits op = false)
    (f : Ans op → Prog Op Ans α) (n : Nat) :
    (Prog.ask op >>= f).stretch S answers n s =
      (f (S.perform op (answers n op) s).1).stretch S answers (n + 1)
        (S.perform op (answers n op) s).2 := by
  change Prog.stretch S answers n s (.perform op f) = _
  rw [Prog.stretch, if_neg (by simp [atOnce])]

theorem Prog.Only.stretch (calm : ∀ op, P op → ∀ answer s, (S.perform op answer s).2 = s)
    {p : Prog Op Ans α} (only : p.Only P) (n : Nat) :
    (p.stretch S answers n s).1 = s ∧ (p.stretch S answers n s).2.Only P := by
  induction p generalizing n with
  | done value => exact ⟨rfl, trivial⟩
  | perform op next ih =>
      unfold Prog.stretch
      split
      · exact ⟨rfl, only⟩
      · dsimp only
        rw [calm op only.1]
        exact ih _ (only.2 _) _

theorem Prog.Only.resume (calm : ∀ op, P op → ∀ answer s, (S.perform op answer s).2 = s)
    {p : Prog Op Ans α} (only : p.Only P) {resumed : σ × Prog Op Ans α}
    (ran : p.resume S answers s = some resumed) : resumed.1 = s ∧ resumed.2.Only P := by
  cases p with
  | done value => cases ran
  | perform op next =>
      obtain rfl := Option.some.inj ran
      rw [calm op only.1]
      exact Prog.Only.stretch calm (only.2 _) 1

/-- The stretch stays in the first part of the program, or comes to the second. -/
inductive Goes (S : Sharing Op Ans σ) (answers : Answers Op Ans) (P : Op → Prop)
    (f : α → Prog Op Ans β) (s : σ) : σ × Prog Op Ans β → Prop where
  | stays {rest : Prog Op Ans α} : rest.Only P → Goes S answers P f s (s, rest >>= f)
  | comes (n : Nat) (a : α) : Goes S answers P f s ((f a).stretch S answers n s)

/-- **As long as the operations leave the state alone, the rest of the program stays
to be done.** -/
theorem Prog.stretch_bind (calm : ∀ op, P op → ∀ answer s, (S.perform op answer s).2 = s)
    {p : Prog Op Ans α} (only : p.Only P) (f : α → Prog Op Ans β) (n : Nat) :
    Goes S answers P f s ((p >>= f).stretch S answers n s) := by
  induction p generalizing n with
  | done value => exact .comes n value
  | perform op next ih =>
      change Goes S answers P f s (Prog.stretch S answers n s (.perform op fun answer =>
        next answer >>= f))
      unfold Prog.stretch
      split
      · exact .stays only
      · dsimp only
        rw [calm op only.1]
        exact ih _ (only.2 _) _

theorem Prog.resume_bind (calm : ∀ op, P op → ∀ answer s, (S.perform op answer s).2 = s)
    {op : Op} {next : Ans op → Prog Op Ans α} (only : (Prog.perform op next).Only P)
    (f : α → Prog Op Ans β) :
    ∃ resumed, (Prog.perform op next >>= f).resume S answers s = some resumed ∧
      Goes S answers P f s resumed := by
  refine ⟨_, rfl, ?_⟩
  rw [calm op only.1]
  exact Prog.stretch_bind calm (only.2 _) f 1

end Stretch

end EdgeGateway.Lib
