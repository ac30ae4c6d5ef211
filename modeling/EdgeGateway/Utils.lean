import EdgeGateway.Lib.Calendar
import EdgeGateway.Lib.Ticks

/-!
The helpers of `utils.py` that read a clock.

* `isoTime_lt_iff`: as long as years have four digits, the texts `iso_time`
  returns are in the order of the seconds they show.
* `uptime_true_iff`: `uptime_seconds` is the time since boot up to half a period
  of the tick counter, which is a little over six days, and no longer.
-/

namespace EdgeGateway.Utils

open EdgeGateway.Lib

/-! ### `iso_time` -/

structure Clock where
  /-- `TIMEZONE_OFFSET_HOURS` -/
  timezoneOffsetHours : Int
  /-- what `time.time()` counts from, in seconds since the start of the year 2000 -/
  epoch : Int

/-- The local time at a value of `time.time()`. -/
def Clock.localTime (clock : Clock) (time : Int) : DateTime :=
  localtime (clock.epoch + (time + clock.timezoneOffsetHours * 3600))

def isoText (t : DateTime) : Text :=
  padded 4 t.year ++ '-' :: (padded 2 t.month ++ '-' :: (padded 2 t.day ++ ' ' ::
    (padded 2 t.hour ++ ':' :: (padded 2 t.minute ++ ':' :: padded 2 t.second))))

/-- `iso_time`, at a value of `time.time()`. -/
def Clock.isoTime (clock : Clock) (time : Int) : String :=
  String.ofList (isoText (clock.localTime time))

def Clock.FourDigitYear (clock : Clock) (time : Int) : Prop :=
  0 ≤ (clock.localTime time).year ∧ (clock.localTime time).year < 10000

/-- With years of four digits, texts are compared like fields. -/
theorem isoText_lt_iff {a b : Int} (yearA : 0 ≤ (localtime a).year ∧ (localtime a).year < 10000)
    (yearB : 0 ≤ (localtime b).year ∧ (localtime b).year < 10000) :
    isoText (localtime a) < isoText (localtime b) ↔
      (localtime a).fields < (localtime b).fields := by
  have two : ∀ {n : Nat}, n < 100 → 0 ≤ (n : Int) ∧ (n : Int) < 10 ^ (1 + 1) := by
    intro n small
    omega
  obtain ⟨monthA, dayA, hourA, minuteA, secondA⟩ := localtime_lt_hundred a
  obtain ⟨monthB, dayB, hourB, minuteB, secondB⟩ := localtime_lt_hundred b
  simp only [isoText, DateTime.fields, List.cons_lt_cons_iff, List.not_lt_nil, and_false, or_false,
    padded_append_lt_iff 3 yearA yearB, padded_append_lt_iff 1 (two monthA) (two monthB),
    padded_append_lt_iff 1 (two dayA) (two dayB), padded_append_lt_iff 1 (two hourA) (two hourB),
    padded_append_lt_iff 1 (two minuteA) (two minuteB), padded_lt_iff 1 (two secondA) (two secondB)]
  simp

/-- **Texts are in the order of time**: of two times in years of four digits, the
earlier one has the smaller text. -/
theorem isoTime_lt_iff {clock : Clock} {a b : Int} (yearA : clock.FourDigitYear a)
    (yearB : clock.FourDigitYear b) : clock.isoTime a < clock.isoTime b ↔ a < b := by
  have texts : clock.isoTime a < clock.isoTime b ↔
      isoText (clock.localTime a) < isoText (clock.localTime b) := by
    change (clock.isoTime a).toList < (clock.isoTime b).toList ↔ _
    unfold Clock.isoTime
    rw [String.toList_ofList, String.toList_ofList]
  unfold Clock.FourDigitYear Clock.localTime at yearA yearB
  rw [texts]
  unfold Clock.localTime
  rw [isoText_lt_iff yearA yearB, localtime_lt_iff]
  omega

/-! ### `uptime_seconds` -/

/-- `uptime_seconds`, when the counter read `bootTicks` at boot. -/
def uptimeSeconds (bootTicks ticks : Nat) : Int := ticksDiff ticks bootTicks / 1000

/-- What `uptime_seconds` returns after `elapsed` milliseconds of real time, when
the counter had run for `boot` milliseconds at boot. -/
def uptimeAfter (boot elapsed : Nat) : Int :=
  uptimeSeconds (ticksMs boot) (ticksMs (boot + elapsed))

section Uptime

variable (boot : Nat)

theorem uptimeAfter_eq (elapsed : Nat) :
    uptimeAfter boot elapsed =
      (((elapsed : Int) + tickPeriod / 2) % tickPeriod - tickPeriod / 2) / 1000 := by
  unfold uptimeAfter uptimeSeconds
  rw [ticksDiff_elapsed]

/-- Up to half a period, the uptime is the time since boot. -/
theorem uptimeAfter_of_lt {elapsed : Nat} (short : elapsed < tickPeriod / 2) :
    uptimeAfter boot elapsed = ((elapsed / 1000 : Nat) : Int) := by
  unfold uptimeAfter uptimeSeconds
  rw [(ticksDiff_eq_iff boot elapsed).mpr short]
  rfl

/-- From half a period on, it falls behind. -/
theorem uptimeAfter_lt {elapsed : Nat} (long : tickPeriod / 2 ≤ elapsed) :
    uptimeAfter boot elapsed < ((elapsed / 1000 : Nat) : Int) := by
  rw [uptimeAfter_eq]
  unfold tickPeriod at long ⊢
  omega

theorem uptimeAfter_half : uptimeAfter boot (tickPeriod / 2) < 0 := by
  rw [uptimeAfter_eq]
  unfold tickPeriod
  decide

/-- **The uptime is true for less than half a period**, and for so long successive
readings neither decrease nor are negative. -/
theorem uptime_true_iff (elapsed : Nat) :
    (uptimeAfter boot elapsed = ((elapsed / 1000 : Nat) : Int) ↔ elapsed < tickPeriod / 2) ∧
    ((∀ later ≤ elapsed, ∀ earlier ≤ later,
        0 ≤ uptimeAfter boot earlier ∧ uptimeAfter boot earlier ≤ uptimeAfter boot later) ↔
      elapsed < tickPeriod / 2) := by
  constructor
  · constructor
    · intro same
      by_contra long
      exact absurd same (Int.ne_of_lt (uptimeAfter_lt boot (Nat.not_lt.mp long)))
    · exact uptimeAfter_of_lt boot
  · constructor
    · intro steady
      by_contra long
      have reading := (steady _ (Nat.not_lt.mp long) _ (Nat.le_refl _)).1
      exact absurd reading (Int.not_le.mpr (uptimeAfter_half boot))
    · intro short later within earlier before
      rw [uptimeAfter_of_lt boot (by omega), uptimeAfter_of_lt boot (by omega)]
      omega

end Uptime

/-- Six days and five hours after a boot with the counter at 0, the uptime is
negative. -/
theorem uptime_wraps :
    ¬ ∀ boot elapsed, uptimeAfter boot elapsed = ((elapsed / 1000 : Nat) : Int) ∧
      0 ≤ uptimeAfter boot elapsed := by
  intro always
  exact absurd (always 0 (tickPeriod / 2)).2 (Int.not_le.mpr (uptimeAfter_half 0))

end EdgeGateway.Utils
