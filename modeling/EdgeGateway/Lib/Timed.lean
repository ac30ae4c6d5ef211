import EdgeGateway.Lib.Run

/-!
A system beside a clock.

Between two steps of a timed run any time passes, and a step reads the clock:
`stamp` writes the reading into its input. `reachable_of_timed` forgets the clock.

`System.timing` keeps the time of the last event of a kind beside a timed run. A
reference that the system itself takes at those events is a reading of that time
(`reference_of_run`), however long ago that is.
-/

namespace EdgeGateway.Lib

universe u v w

variable {σ : Type u} {ι : Type v} {τ : Type w}

/-- Time passes, or the system takes a step. -/
inductive Timed (ι : Type v) where
  | idle (elapsed : Nat)
  | turn (i : ι)

/-- The system beside a clock that shows `start` at first. -/
def System.timed (S : System σ ι) (start : Nat) (stamp : Nat → ι → ι) :
    System (σ × Nat) (Timed ι) where
  init := (S.init, start)
  step
    | (s, now), .idle elapsed => some (s, now + elapsed)
    | (s, now), .turn i => (S.step s (stamp now i)).map fun s' => (s', now)

theorem timed_step {S : System σ ι} {start : Nat} {stamp : Nat → ι → ι} {s s' : σ × Nat}
    {i : Timed ι} (step : (S.timed start stamp).step s i = some s') :
    (∃ elapsed, i = .idle elapsed ∧ s' = (s.1, s.2 + elapsed)) ∨
      ∃ j, i = .turn j ∧ S.step s.1 (stamp s.2 j) = some s'.1 ∧ s'.2 = s.2 := by
  cases i with
  | idle elapsed =>
      obtain rfl := Option.some.inj step
      exact .inl ⟨elapsed, rfl, rfl⟩
  | turn j =>
      obtain ⟨mid, stepped, rfl⟩ := Option.map_eq_some_iff.mp step
      exact .inr ⟨j, rfl, stepped, rfl⟩

/-- **A timed run is a run.** -/
theorem reachable_of_timed {S : System σ ι} {start : Nat} {stamp : Nat → ι → ι}
    {is : List (Timed ι)} {s : σ × Nat} (run : Run (S.timed start stamp) is s) :
    Reachable S s.1 := by
  refine run.invariant (I := fun s => Reachable S s.1) (.init S) ?_
  intro s i s' reach step
  obtain ⟨elapsed, -, rfl⟩ | ⟨j, -, stepped, -⟩ := timed_step step
  · exact reach
  · exact reach.step stepped

/-! ### The last event of a kind -/

/-- The time of the last event. -/
def lastTime (stamp : Nat → ι → ι) (event : σ → ι → σ → Bool) (s : σ × Nat) (i : Timed ι)
    (s' : σ × Nat) (last : Option Nat) : Option Nat :=
  match i with
  | .idle _ => last
  | .turn j => if event s.1 (stamp s.2 j) s'.1 then some s.2 else last

/-- The timed system with the time of the last event, `first` before the first one. -/
def System.timing (S : System σ ι) (start : Nat) (stamp : Nat → ι → ι) (first : Option Nat)
    (event : σ → ι → σ → Bool) : System ((σ × Nat) × Option Nat) (Timed ι) :=
  (S.timed start stamp).withBooks first (lastTime stamp event)

section Reference

variable {S : System σ ι} {start : Nat} {stamp : Nat → ι → ι} {first : Option Nat}
  {event : σ → ι → σ → Bool} {is : List (Timed ι)} {s : (σ × Nat) × Option Nat}

theorem reachable_of_timing (run : Run (S.timing start stamp first event) is s) :
    Reachable S s.1.1 :=
  reachable_of_timed (run_withBooks_iff.mpr ⟨s.2, run⟩)

/-- The last event is not ahead of the clock. -/
theorem lastTime_le (before : ∀ time ∈ first, time ≤ start)
    (run : Run (S.timing start stamp first event) is s) : ∀ time ∈ s.2, time ≤ s.1.2 := by
  refine run.invariant (I := fun s => ∀ time ∈ s.2, time ≤ s.1.2) before ?_
  intro s i s' past step
  obtain ⟨stepped, books⟩ := withBooks_step step
  rw [books]
  obtain ⟨elapsed, rfl, same⟩ | ⟨j, rfl, -, now⟩ := timed_step stepped
  · intro time last
    rw [same]
    exact Nat.le_add_right_of_le (past time last)
  · intro time last
    rw [now]
    unfold lastTime at last
    dsimp only at last
    split at last
    · obtain rfl := Option.some.inj last
      exact Nat.le_refl _
    · exact past time last

/-- **A reference taken at every event is a reading of the last one.** -/
theorem reference_of_run (reference : σ → Option τ) (reading : Nat → τ)
    (begins : reference S.init = first.map reading)
    (takes : ∀ s now i s', Reachable S s → S.step s (stamp now i) = some s' →
      reference s' = if event s (stamp now i) s' then some (reading now) else reference s)
    (run : Run (S.timing start stamp first event) is s) :
    reference s.1.1 = s.2.map reading := by
  induction run with
  | start => exact begins
  | @next is s s' i run step ih =>
      obtain ⟨stepped, books⟩ := withBooks_step step
      rw [books]
      obtain ⟨elapsed, rfl, same⟩ | ⟨j, rfl, turned, -⟩ := timed_step stepped
      · rw [same]
        exact ih
      · rw [takes _ _ _ _ (reachable_of_timing run) turned]
        unfold lastTime
        dsimp only
        split
        · rfl
        · exact ih

end Reference

end EdgeGateway.Lib
