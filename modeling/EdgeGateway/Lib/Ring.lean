import Mathlib.Data.List.DropRight
import Mathlib.Data.List.Rotate

/-!
A list used as a ring: the contents from a slot on, read around the end.

The contents are `items.rotate start`, and `window items start count` reads
`count` slots one after the other, each index taken modulo the length.

* `window_eq` says that a window inside the ring exists and holds the first
  elements from its start, `window_last` that the window `count` short of a full
  turn holds the last `count` elements of the contents.
* `rotate_set_succ` is what overwriting the oldest slot does to the contents.
* `rtake_concat` is what appending does to a full log that keeps its last elements.
-/

namespace EdgeGateway.Lib

universe u

variable {α : Type u}

/-! ### Reading a window -/

/-- The `count` slots from `start` on, unless one of them does not exist. -/
def window (items : List α) (start count : Nat) : Option (List α) :=
  (List.range count).mapM fun offset => items[(start + offset) % items.length]?

/-- Reads that find the first elements of a list, one after the other. -/
theorem mapM_range_of_getElem? {xs : List α} {read : Nat → Option α} {count : Nat}
    (inside : count ≤ xs.length) (finds : ∀ i < count, read i = xs[i]?) :
    (List.range count).mapM read = some (xs.take count) := by
  induction count with
  | zero => rfl
  | succ count ih =>
      have before := ih (Nat.le_of_succ_le inside) fun i less => finds i (Nat.lt_succ_of_lt less)
      have last : read count = some xs[count] := by
        rw [finds count (Nat.lt_succ_self count)]
        exact List.getElem?_eq_getElem inside
      rw [List.range_succ, List.mapM_append, before]
      simp only [List.mapM_cons, List.mapM_nil, last, Option.pure_def, Option.bind_eq_bind,
        Option.bind_some]
      rw [List.take_succ_eq_append_getElem inside]

theorem window_eq {items : List α} (start : Nat) {count : Nat} (inside : count ≤ items.length) :
    window items start count = some ((items.rotate start).take count) := by
  apply mapM_range_of_getElem?
  · rw [List.length_rotate]
    exact inside
  · intro offset before
    rw [List.getElem?_rotate (lt_of_lt_of_le before inside), Nat.add_comm]

/-! ### Keeping the last elements -/

theorem length_rtake (xs : List α) (n : Nat) : (xs.rtake n).length = min n xs.length := by
  unfold List.rtake
  rw [List.length_drop]
  omega

theorem rtake_of_length_le {xs : List α} {n : Nat} (fits : xs.length ≤ n) : xs.rtake n = xs := by
  unfold List.rtake
  rw [Nat.sub_eq_zero_of_le fits, List.drop_zero]

/-- Asking for more than there is asks for everything. -/
theorem rtake_min_length (xs : List α) (n : Nat) : xs.rtake (min n xs.length) = xs.rtake n := by
  unfold List.rtake
  congr 1
  omega

/-- A full bounded log drops its oldest element for a new one. -/
theorem rtake_concat {xs : List α} {n : Nat} (full : xs.length = n) (pos : 0 < n) (x : α) :
    (xs ++ [x]).rtake n = xs.tail ++ [x] := by
  cases xs with
  | nil => subst full; exact absurd pos (Nat.lt_irrefl 0)
  | cons y ys =>
      unfold List.rtake
      have one : (y :: ys ++ [x]).length - n = 1 := by simp [← full]
      rw [one]
      rfl

/-! ### Around the end -/

/-- Starting `count` short of a full turn reads the last `count` elements. -/
theorem window_last {items : List α} (start : Nat) {count : Nat} (inside : count ≤ items.length) :
    window items ((start + items.length - count) % items.length) count =
      some ((items.rotate start).rtake count) := by
  have short : start + items.length - count = start + (items.length - count) := by omega
  have length := List.length_rotate items start
  have back : items.length - count ≤ (items.rotate start).length := by omega
  rw [window_eq _ inside, List.rotate_mod, short, ← List.rotate_rotate,
    List.rotate_eq_drop_append_take back]
  have ends : ((items.rotate start).drop (items.length - count)).length = count := by
    rw [List.length_drop]
    omega
  rw [List.take_left' ends, List.rtake, length]

/-- Overwriting the oldest slot and moving on drops the oldest element and
appends the new one. -/
theorem rotate_set_succ {items : List α} {next : Nat} (inside : next < items.length) (x : α) :
    (items.set next x).rotate (next + 1) = (items.rotate next).tail ++ [x] := by
  obtain ⟨pre, y, post, rfl, rfl⟩ : ∃ pre y post, items = pre ++ y :: post ∧ pre.length = next :=
    ⟨items.take next, items[next], items.drop (next + 1), by simp, by simp; omega⟩
  have turned : (pre ++ y :: post).rotate pre.length = (y :: post) ++ pre :=
    List.rotate_append_length_eq pre (y :: post)
  have further : ((pre ++ [x]) ++ post).rotate (pre ++ [x]).length = post ++ (pre ++ [x]) :=
    List.rotate_append_length_eq (pre ++ [x]) post
  have written : (pre ++ y :: post).set pre.length x = (pre ++ [x]) ++ post := by simp
  rw [List.length_append, List.length_singleton] at further
  rw [turned, written, further]
  simp

end EdgeGateway.Lib
