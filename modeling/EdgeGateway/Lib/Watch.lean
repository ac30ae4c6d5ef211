import EdgeGateway.Lib.Tasks

/-!
Programs under a watch.

A watch follows the operations of a program: which ones are allowed by now, which
answers the environment may give, and how its own state goes on. `Prog.Ensures` is the
weakest precondition of a program: whatever is answered, it performs allowed operations
only and returns with the postcondition. `Secures` is the same for a program that
returns or raises.

* `ensures_bind_iff`, `secures_bind_iff`, `secures_tryCatch_iff`: the rules of composition.
* `Runs.ensured`: what a precondition says of a run.
-/

namespace EdgeGateway.Lib

variable {Op : Type} {Ans : Op → Type} {α β γ ε : Type}

structure Watch (Op : Type) (Ans : Op → Type) (γ : Type) where
  /-- the operation may be performed -/
  allows : γ → Op → Prop
  /-- the environment may answer so -/
  gives : γ → (op : Op) → Ans op → Prop
  next : γ → (op : Op) → Ans op → γ

variable {W : Watch Op Ans γ} {g : γ}

/-! ### Programs that return -/

/-- Whatever is answered, allowed operations are performed, and then `post` holds. -/
def Prog.Ensures (W : Watch Op Ans γ) (post : α → γ → Prop) : Prog Op Ans α → γ → Prop
  | .done a, g => post a g
  | .perform op next, g => W.allows g op ∧
      ∀ answer, W.gives g op answer → (next answer).Ensures W post (W.next g op answer)

theorem Prog.Ensures.mono {post post' : α → γ → Prop} {p : Prog Op Ans α}
    (ensures : p.Ensures W post g) (weaker : ∀ a g, post a g → post' a g) :
    p.Ensures W post' g := by
  induction p generalizing g with
  | done a => exact weaker a g ensures
  | perform op next ih =>
      exact ⟨ensures.1, fun answer given => ih answer (ensures.2 answer given)⟩

theorem Prog.ensures_congr {post post' : α → γ → Prop} {p : Prog Op Ans α}
    (same : ∀ a g, post a g ↔ post' a g) : p.Ensures W post g ↔ p.Ensures W post' g :=
  ⟨fun ensures => ensures.mono fun a g => (same a g).mp,
    fun ensures => ensures.mono fun a g => (same a g).mpr⟩

/-- **A composed program ensures what its second part does behind the first.** -/
theorem ensures_bind_iff {p : Prog Op Ans α} {f : α → Prog Op Ans β} {post : β → γ → Prop} :
    (p >>= f).Ensures W post g ↔ p.Ensures W (fun a g => (f a).Ensures W post g) g := by
  induction p generalizing g with
  | done a => exact Iff.rfl
  | perform op next ih =>
      exact and_congr_right fun _ => forall_congr' fun answer => imp_congr_right fun _ => ih answer

theorem ensures_ask_iff {op : Op} {post : Ans op → γ → Prop} :
    (Prog.ask op).Ensures W post g ↔
      W.allows g op ∧ ∀ answer, W.gives g op answer → post answer (W.next g op answer) :=
  Iff.rfl

/-- Operations that the watch does not notice. -/
theorem Prog.Only.ensures {P : Op → Prop} {p : Prog Op Ans α} (only : p.Only P)
    (allowed : ∀ op, P op → W.allows g op)
    (unnoticed : ∀ op, P op → ∀ answer, W.next g op answer = g) :
    p.Ensures W (fun _ g' => g' = g) g := by
  induction p with
  | done a => exact rfl
  | perform op next ih =>
      refine ⟨allowed op only.1, fun answer _ => ?_⟩
      rw [unnoticed op only.1]
      exact ih answer (only.2 answer)

/-! ### Programs that raise -/

/-- What holds behind a program that returned or raised. -/
def Outcomes (post : α → γ → Prop) (raised : ε → γ → Prop) : Except ε α → γ → Prop
  | .ok a, g => post a g
  | .error exc, g => raised exc g

def Secures (W : Watch Op Ans γ) (x : ExceptT ε (Prog Op Ans) α) (post : α → γ → Prop)
    (raised : ε → γ → Prop) (g : γ) : Prop :=
  x.run.Ensures W (Outcomes post raised) g

section Raising

variable {x : ExceptT ε (Prog Op Ans) α} {post : α → γ → Prop} {raised : ε → γ → Prop}

theorem Secures.mono {post' : α → γ → Prop} {raised' : ε → γ → Prop}
    (secures : Secures W x post raised g) (weaker : ∀ a g, post a g → post' a g)
    (weaker' : ∀ exc g, raised exc g → raised' exc g) : Secures W x post' raised' g := by
  refine Prog.Ensures.mono secures fun result g holds => ?_
  cases result with
  | ok a => exact weaker a g holds
  | error exc => exact weaker' exc g holds

theorem secures_bind_iff {f : α → ExceptT ε (Prog Op Ans) β} {post : β → γ → Prop} :
    Secures W (x >>= f) post raised g ↔
      Secures W x (fun a g => Secures W (f a) post raised g) raised g := by
  refine ensures_bind_iff.trans (Prog.ensures_congr fun result g => ?_)
  cases result with
  | ok a => exact Iff.rfl
  | error exc => exact Iff.rfl

theorem secures_tryCatch_iff {handler : ε → ExceptT ε (Prog Op Ans) α} :
    Secures W (tryCatch x handler) post raised g ↔
      Secures W x post (fun exc g => Secures W (handler exc) post raised g) g := by
  refine ensures_bind_iff.trans (Prog.ensures_congr fun result g => ?_)
  cases result with
  | ok a => exact Iff.rfl
  | error exc => exact Iff.rfl

/-- A program that does not raise. -/
theorem secures_lift_iff {p : Prog Op Ans α} :
    Secures W (ExceptT.lift p : ExceptT ε (Prog Op Ans) α) post raised g ↔
      p.Ensures W post g :=
  ensures_bind_iff

end Raising

/-! ### Runs -/

/-- The state of the watch behind these events. -/
def Watch.after (W : Watch Op Ans γ) (g : γ) (events : List (Event Op Ans)) : γ :=
  events.foldl (fun g ev => W.next g ev.op ev.answer) g

/-- Each operation was allowed when it was performed. -/
def Watch.Permits (W : Watch Op Ans γ) : γ → List (Event Op Ans) → Prop
  | _, [] => True
  | g, ev :: events => W.allows g ev.op ∧ W.Permits (W.next g ev.op ev.answer) events

/-- The environment answered as it may. -/
def Watch.Admits (W : Watch Op Ans γ) : γ → List (Event Op Ans) → Prop
  | _, [] => True
  | g, ev :: events => W.gives g ev.op ev.answer ∧ W.Admits (W.next g ev.op ev.answer) events

theorem Watch.admits_of_gives (free : ∀ g op answer, W.gives g op answer)
    (events : List (Event Op Ans)) : W.Admits g events := by
  induction events generalizing g with
  | nil => trivial
  | cons ev events ih => exact ⟨free g ev.op ev.answer, ih⟩

/-- **What a program ensures holds of each of its runs.** -/
theorem Runs.ensured {p : Prog Op Ans α} {events : List (Event Op Ans)} {a : α}
    {post : α → γ → Prop} (run : Runs p events a) (ensures : p.Ensures W post g)
    (admits : W.Admits g events) : W.Permits g events ∧ post a (W.after g events) := by
  induction run generalizing g with
  | done a => exact ⟨trivial, ensures⟩
  | perform answer rest ih =>
      obtain ⟨permits, holds⟩ := ih (ensures.2 answer admits.1) admits.2
      exact ⟨⟨ensures.1, permits⟩, holds⟩

/-- The operation behind these events was allowed there. -/
theorem Watch.Permits.of_append {before after : List (Event Op Ans)} {ev : Event Op Ans}
    (permits : W.Permits g (before ++ ev :: after)) : W.allows (W.after g before) ev.op := by
  induction before generalizing g with
  | nil => exact permits.1
  | cons first before ih => exact ih permits.2

end EdgeGateway.Lib
