import Mathlib.Algebra.Group.Nat.Defs

/-!
The tick arithmetic of the runtime.

`ticks_ms` counts modulo `2^30`, and `ticks_diff` is the signed difference in
`[-2^29, 2^29)`. `ticksDiff_elapsed` is what the difference of two readings says
about the real time between them: it is that time up to half a period
(`ticksDiff_eq_iff`), and reaches a bound only while the time taken modulo the
period does (`le_ticksDiff_iff`).
-/

namespace EdgeGateway.Lib

def tickPeriod : Nat := 2 ^ 30

/-- `time.ticks_add(ticks, delta)`. -/
def ticksAdd (ticks delta : Nat) : Nat := (ticks + delta) % tickPeriod

/-- `time.ticks_diff(later, earlier)`. -/
def ticksDiff (later earlier : Nat) : Int :=
  ((later : Int) - earlier + tickPeriod / 2) % tickPeriod - tickPeriod / 2

/-- `time.ticks_ms()`, so many milliseconds after the counter started. -/
def ticksMs (real : Nat) : Nat := real % tickPeriod

/-- A deadline within half a period lies as far ahead as it was set. -/
theorem ticksDiff_ticksAdd {ticks delta : Nat} (short : delta < tickPeriod / 2) :
    ticksDiff (ticksAdd ticks delta) ticks = delta := by
  have moved : (((ticks + delta) % tickPeriod : Nat) : Int) - ticks + tickPeriod / 2 =
      (delta : Int) + tickPeriod / 2 - tickPeriod * ((ticks + delta) / tickPeriod : Nat) := by
    unfold tickPeriod
    omega
  unfold ticksDiff ticksAdd
  rw [moved, Int.sub_mul_emod_self_left, Int.emod_eq_of_lt]
  · omega
  · omega
  · unfold tickPeriod at *
    omega

theorem ticksAdd_ticksMs (real delta : Nat) :
    ticksAdd (ticksMs real) delta = ticksMs (real + delta) := by
  unfold ticksAdd ticksMs tickPeriod
  omega

/-- What is left of a deadline, set and read within half a period of the start. -/
theorem ticksDiff_deadline (start : Nat) {ahead elapsed : Nat} (near : ahead < tickPeriod / 2)
    (brief : elapsed < tickPeriod / 2) :
    ticksDiff (ticksAdd (ticksMs start) ahead) (ticksMs (start + elapsed)) = ahead - elapsed := by
  rw [ticksAdd_ticksMs]
  unfold ticksDiff ticksMs tickPeriod at *
  omega

section Elapsed

variable (start elapsed : Nat)

theorem ticksDiff_elapsed :
    ticksDiff (ticksMs (start + elapsed)) (ticksMs start) =
      ((elapsed : Int) + tickPeriod / 2) % tickPeriod - tickPeriod / 2 := by
  unfold ticksDiff ticksMs tickPeriod
  omega

/-- The difference of two readings is the time between them up to half a period. -/
theorem ticksDiff_eq_iff :
    ticksDiff (ticksMs (start + elapsed)) (ticksMs start) = elapsed ↔
      elapsed < tickPeriod / 2 := by
  rw [ticksDiff_elapsed]
  unfold tickPeriod
  omega

theorem le_ticksDiff_iff (bound : Nat) :
    (bound : Int) ≤ ticksDiff (ticksMs (start + elapsed)) (ticksMs start) ↔
      bound ≤ elapsed % tickPeriod ∧ elapsed % tickPeriod < tickPeriod / 2 := by
  rw [ticksDiff_elapsed]
  unfold tickPeriod
  omega

end Elapsed

end EdgeGateway.Lib
