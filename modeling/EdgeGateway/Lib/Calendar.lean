import EdgeGateway.Lib.Text
import Mathlib.Algebra.Group.Int.Defs
import Mathlib.Algebra.Group.Nat.Defs
import Mathlib.Data.List.Basic
import Mathlib.Order.Basic

/-!
The calendar of the runtime, and numbers printed with leading zeros.

* `localtime` splits seconds since the start of the year 2000 into year, month,
  day, hour, minute and second. It walks through the years of a cycle of 400 and
  then through the months of a year, and `locate_before` says that such a walk
  keeps the order. `localtime_lt` follows: a later time has larger fields, read
  from the year down.
* `padded` is `%0<width>d`. Two numbers that fit a width are in the order of their
  texts, whatever is printed behind them (`padded_append_lt_iff`).
-/

namespace EdgeGateway.Lib

universe u

/-! ### Walking through blocks -/

/-- The place of element `n`, counted from the first of block `i`, when block `j`
has `len j` elements: its block, and how far into that it stands. -/
def locate (len : Nat → Nat) : Nat → Nat → Nat → Nat × Nat
  | 0, i, n => (i, n)
  | fuel + 1, i, n => if n < len i then (i, n) else locate len fuel (i + 1) (n - len i)

/-- How many elements `count` blocks have from block `i` on. -/
def blockSum (len : Nat → Nat) : Nat → Nat → Nat
  | 0, _ => 0
  | count + 1, i => len i + blockSum len count (i + 1)

/-- A place is before another one. -/
def Before (p q : Nat × Nat) : Prop := p.1 < q.1 ∨ p.1 = q.1 ∧ p.2 < q.2

section Locate

variable (len : Nat → Nat)

theorem le_locate (fuel i n : Nat) : i ≤ (locate len fuel i n).1 := by
  induction fuel generalizing i n with
  | zero => exact le_rfl
  | succ fuel ih =>
      unfold locate
      split
      · exact le_rfl
      · exact (Nat.le_succ i).trans (ih (i + 1) (n - len i))

/-- A walk that is long enough ends inside a block. -/
theorem locate_inside {fuel i n : Nat} (enough : n < blockSum len fuel i) :
    (locate len fuel i n).1 < i + fuel ∧
      (locate len fuel i n).2 < len (locate len fuel i n).1 := by
  induction fuel generalizing i n with
  | zero => exact absurd enough (Nat.not_lt_zero n)
  | succ fuel ih =>
      unfold locate
      split
      · rename_i here
        exact ⟨by omega, here⟩
      · rename_i further
        have rest : n - len i < blockSum len fuel (i + 1) := by
          simp only [blockSum] at enough
          omega
        obtain ⟨index, offset⟩ := ih rest
        exact ⟨by omega, offset⟩

/-- **A walk keeps the order.** -/
theorem locate_before (fuel i : Nat) {m n : Nat} (less : m < n) :
    Before (locate len fuel i m) (locate len fuel i n) := by
  induction fuel generalizing i m n with
  | zero => exact .inr ⟨rfl, less⟩
  | succ fuel ih =>
      unfold locate
      by_cases first : m < len i
      · rw [if_pos first]
        by_cases second : n < len i
        · rw [if_pos second]
          exact .inr ⟨rfl, less⟩
        · rw [if_neg second]
          exact .inl (le_locate len fuel (i + 1) (n - len i))
      · have second : ¬ n < len i := by omega
        rw [if_neg first, if_neg second]
        exact ih (i + 1) (by omega)

end Locate

/-! ### The calendar -/

/-- Leap years, for a year counted from one that 400 divides. -/
def leap (year : Nat) : Bool := year % 4 = 0 && (year % 100 ≠ 0 || year % 400 = 0)

def yearLength (year : Nat) : Nat := if leap year then 366 else 365

/-- The days of a month, January being month 0. -/
def monthLength (year month : Nat) : Nat :=
  [31, if leap year then 29 else 28, 31, 30, 31, 30, 31, 31, 30, 31, 30, 31].getD month 0

/-- The first six elements `time.localtime` returns. -/
structure DateTime where
  year : Int
  month : Nat
  day : Nat
  hour : Nat
  minute : Nat
  second : Nat
deriving DecidableEq, Repr

def DateTime.fields (t : DateTime) : List Int :=
  [t.year, t.month, t.day, t.hour, t.minute, t.second]

def secondsPerDay : Int := 86400

/-- The days of 400 years. -/
def daysPerCycle : Int := 146097

/-- The year of the cycle that a day is in, and the day of that year. -/
def yearPlace (days : Int) : Nat × Nat := locate yearLength 400 0 (days % daysPerCycle).toNat

/-- The month of the year that a day is in, and the day of that month, from 0 on. -/
def monthPlace (days : Int) : Nat × Nat :=
  locate (monthLength (yearPlace days).1) 12 0 (yearPlace days).2

def yearOf (days : Int) : Int := 2000 + 400 * (days / daysPerCycle) + (yearPlace days).1

/-- `time.localtime`, of seconds since the start of the year 2000. -/
def localtime (seconds : Int) : DateTime :=
  let days := seconds / secondsPerDay
  let rest := (seconds % secondsPerDay).toNat
  { year := yearOf days
    month := (monthPlace days).1 + 1
    day := (monthPlace days).2 + 1
    hour := rest / 3600
    minute := rest / 60 % 60
    second := rest % 60 }

theorem blockSum_yearLength : blockSum yearLength 400 0 = daysPerCycle.toNat := by
  decide +kernel

theorem blockSum_monthLength (year : Nat) : blockSum (monthLength year) 12 0 = yearLength year := by
  unfold yearLength
  simp only [blockSum, monthLength]
  cases leap year <;> rfl

theorem le_monthLength (year month : Nat) : monthLength year month ≤ 31 := by
  unfold monthLength
  match month with
  | 0 | 1 | 2 | 3 | 4 | 5 | 6 | 7 | 8 | 9 | 10 | 11 => cases leap year <;> decide
  | month + 12 => exact Nat.zero_le 31

theorem yearPlace_inside (days : Int) :
    (yearPlace days).1 < 400 ∧ (yearPlace days).2 < yearLength (yearPlace days).1 := by
  have enough : (days % daysPerCycle).toNat < blockSum yearLength 400 0 := by
    rw [blockSum_yearLength]
    unfold daysPerCycle
    omega
  obtain ⟨year, day⟩ := locate_inside yearLength enough
  rw [Nat.zero_add] at year
  exact ⟨year, day⟩

theorem monthPlace_inside (days : Int) : (monthPlace days).1 < 12 ∧ (monthPlace days).2 < 31 := by
  have enough := (yearPlace_inside days).2
  rw [← blockSum_monthLength] at enough
  obtain ⟨month, day⟩ := locate_inside (monthLength (yearPlace days).1) enough
  have short := le_monthLength (yearPlace days).1 (monthPlace days).1
  unfold monthPlace at short ⊢
  omega

/-- The fields below the year fit two digits. -/
theorem localtime_lt_hundred (seconds : Int) :
    (localtime seconds).month < 100 ∧ (localtime seconds).day < 100 ∧
      (localtime seconds).hour < 100 ∧ (localtime seconds).minute < 100 ∧
        (localtime seconds).second < 100 := by
  have places := monthPlace_inside (seconds / secondsPerDay)
  have inDay : (seconds % secondsPerDay).toNat < 86400 := by
    unfold secondsPerDay
    omega
  simp only [localtime]
  omega

/-- A later day is in a later year, or in the same year at a later place. -/
theorem yearOf_before {d e : Int} (less : d < e) :
    yearOf d < yearOf e ∨ yearOf d = yearOf e ∧ Before (monthPlace d) (monthPlace e) := by
  have inCycle := (yearPlace_inside d).1
  by_cases cycle : d / daysPerCycle = e / daysPerCycle
  · have rest : (d % daysPerCycle).toNat < (e % daysPerCycle).toNat := by
      unfold daysPerCycle at cycle ⊢
      omega
    rcases locate_before yearLength 400 0 rest with year | ⟨year, day⟩
    · left
      unfold yearOf yearPlace
      omega
    · right
      have same : (yearPlace d).1 = (yearPlace e).1 := year
      constructor
      · unfold yearOf
        rw [cycle, same]
      · unfold monthPlace
        rw [same]
        exact locate_before _ 12 0 day
  · left
    have later : d / daysPerCycle < e / daysPerCycle := by
      unfold daysPerCycle at cycle ⊢
      omega
    unfold yearOf
    omega

/-- **A later time has larger fields**, compared from the year down. -/
theorem localtime_lt {a b : Int} (less : a < b) : (localtime a).fields < (localtime b).fields := by
  simp only [DateTime.fields, localtime, List.cons_lt_cons_iff]
  by_cases day : a / secondsPerDay = b / secondsPerDay
  · rw [day]
    have rest : (a % secondsPerDay).toNat < (b % secondsPerDay).toNat := by
      unfold secondsPerDay at day ⊢
      omega
    omega
  · have later : a / secondsPerDay < b / secondsPerDay := by
      unfold secondsPerDay at day ⊢
      omega
    rcases yearOf_before later with year | ⟨year, month | ⟨month, date⟩⟩
    · exact .inl year
    · omega
    · omega

theorem localtime_lt_iff {a b : Int} : (localtime a).fields < (localtime b).fields ↔ a < b := by
  constructor
  · intro fields
    by_contra notLess
    rcases Int.lt_or_eq_of_le (Int.not_lt.mp notLess) with less | rfl
    · exact List.lt_asymm fields (localtime_lt less)
    · exact List.lt_irrefl _ fields
  · exact localtime_lt

/-! ### Texts in the order of what they show -/

/-- The digits of a number, at least `width` of them. -/
def zeroPadded (width n : Nat) : Text :=
  let digits := Nat.toDigits 10 n
  List.replicate (width - digits.length) '0' ++ digits

/-- `"%0<width>d" % n`. -/
def padded (width : Nat) : Int → Text
  | .ofNat n => zeroPadded width n
  | .negSucc n => '-' :: zeroPadded (width - 1) (n + 1)

/-- Texts whose fronts have one length are compared at the fronts first. -/
theorem append_lt_append_iff {α : Type u} [LT α] {xs ys xs' ys' : List α}
    (same : xs.length = ys.length) :
    xs ++ xs' < ys ++ ys' ↔ xs < ys ∨ xs = ys ∧ xs' < ys' := by
  induction xs generalizing ys with
  | nil =>
      obtain rfl := List.eq_nil_of_length_eq_zero same.symm
      simp
  | cons x xs ih =>
      cases ys with
      | nil => cases same
      | cons y ys =>
          simp only [List.cons_append, List.cons_lt_cons_iff, ih (Nat.succ.inj same),
            List.cons.injEq]
          tauto

theorem digitChar_lt_iff {a b : Nat} (ha : a < 10) (hb : b < 10) :
    a.digitChar < b.digitChar ↔ a < b := by
  have table : ∀ a < 10, ∀ b < 10, (Nat.digitChar a < Nat.digitChar b ↔ a < b) := by decide
  exact table a ha b hb

theorem digitChar_inj {a b : Nat} (ha : a < 10) (hb : b < 10) :
    a.digitChar = b.digitChar ↔ a = b := by
  have table : ∀ a < 10, ∀ b < 10, (Nat.digitChar a = Nat.digitChar b ↔ a = b) := by decide
  exact table a ha b hb

theorem zeroPadded_one {n : Nat} (digit : n < 10) : zeroPadded 1 n = [n.digitChar] := by
  unfold zeroPadded
  rw [Nat.toDigits_of_lt_base digit]
  rfl

/-- The last digit stands behind the others. -/
theorem zeroPadded_succ_succ (width n : Nat) :
    zeroPadded (width + 2) n = zeroPadded (width + 1) (n / 10) ++ [(n % 10).digitChar] := by
  unfold zeroPadded
  by_cases digit : n < 10
  · rw [Nat.div_eq_of_lt digit, Nat.mod_eq_of_lt digit, Nat.toDigits_of_lt_base digit,
      Nat.toDigits_zero]
    simp [List.replicate_succ']
  · rw [Nat.toDigits_of_base_le (by decide) (not_lt.mp digit)]
    simp [Nat.succ_sub_succ]

theorem length_zeroPadded {width n : Nat} (fits : n < 10 ^ (width + 1)) :
    (zeroPadded (width + 1) n).length = width + 1 := by
  have short := (Nat.length_toDigits_le_iff (by decide) (Nat.succ_pos width)).mpr fits
  unfold zeroPadded
  rw [List.length_append, List.length_replicate]
  omega

/-- Numbers that fit a width are in the order of their texts. -/
theorem zeroPadded_order {width a b : Nat} (ha : a < 10 ^ (width + 1)) (hb : b < 10 ^ (width + 1)) :
    (zeroPadded (width + 1) a < zeroPadded (width + 1) b ↔ a < b) ∧
      (zeroPadded (width + 1) a = zeroPadded (width + 1) b ↔ a = b) := by
  induction width generalizing a b with
  | zero =>
      rw [zeroPadded_one ha, zeroPadded_one hb, List.cons_lt_cons_iff, List.cons.injEq,
        digitChar_lt_iff ha hb, digitChar_inj ha hb]
      simp
  | succ width ih =>
      have frontA : a / 10 < 10 ^ (width + 1) := by rw [Nat.pow_succ] at ha; omega
      have frontB : b / 10 < 10 ^ (width + 1) := by rw [Nat.pow_succ] at hb; omega
      have lastA : a % 10 < 10 := Nat.mod_lt a (by decide)
      have lastB : b % 10 < 10 := Nat.mod_lt b (by decide)
      have same : (zeroPadded (width + 1) (a / 10)).length =
          (zeroPadded (width + 1) (b / 10)).length := by
        rw [length_zeroPadded frontA, length_zeroPadded frontB]
      obtain ⟨less, equal⟩ := ih frontA frontB
      rw [zeroPadded_succ_succ, zeroPadded_succ_succ]
      constructor
      · rw [append_lt_append_iff same, less, equal, List.cons_lt_cons_iff,
          digitChar_lt_iff lastA lastB]
        simp only [List.not_lt_nil, and_false, or_false]
        omega
      · constructor
        · intro texts
          obtain ⟨front, last⟩ := List.append_inj texts same
          have digits := (digitChar_inj lastA lastB).mp (List.singleton_inj.mp last)
          have fronts := equal.mp front
          omega
        · rintro rfl
          rfl

/-- **Numbers that fit a width are in the order of their texts**, whatever is
printed behind them. -/
theorem padded_append_lt_iff (width : Nat) {a b : Int} {rest rest' : Text}
    (ha : 0 ≤ a ∧ a < 10 ^ (width + 1)) (hb : 0 ≤ b ∧ b < 10 ^ (width + 1)) :
    padded (width + 1) a ++ rest < padded (width + 1) b ++ rest' ↔
      a < b ∨ a = b ∧ rest < rest' := by
  obtain ⟨a, rfl⟩ := Int.eq_ofNat_of_zero_le ha.1
  obtain ⟨b, rfl⟩ := Int.eq_ofNat_of_zero_le hb.1
  have fitsA : a < 10 ^ (width + 1) := by exact_mod_cast ha.2
  have fitsB : b < 10 ^ (width + 1) := by exact_mod_cast hb.2
  obtain ⟨less, equal⟩ := zeroPadded_order fitsA fitsB
  have same : (zeroPadded (width + 1) a).length = (zeroPadded (width + 1) b).length := by
    rw [length_zeroPadded fitsA, length_zeroPadded fitsB]
  change zeroPadded (width + 1) a ++ rest < zeroPadded (width + 1) b ++ rest' ↔ _
  rw [append_lt_append_iff same, less, equal, Int.ofNat_lt, Int.ofNat_inj]

theorem padded_lt_iff (width : Nat) {a b : Int} (ha : 0 ≤ a ∧ a < 10 ^ (width + 1))
    (hb : 0 ≤ b ∧ b < 10 ^ (width + 1)) :
    padded (width + 1) a < padded (width + 1) b ↔ a < b := by
  have ends : padded (width + 1) a ++ [] < padded (width + 1) b ++ [] ↔ _ :=
    padded_append_lt_iff width ha hb
  simpa using ends

end EdgeGateway.Lib
