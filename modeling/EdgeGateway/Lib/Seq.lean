import Mathlib.Data.List.Basic
import Mathlib.Data.List.TakeWhile

/-!
Positional operations on a list that is used as a queue.

* `lastIdx?` is a scan from the tail for the first match, stated by what it
  splits the list into (`lastIdx?_eq_some`).
* `afterPrefix` inserts behind the longest prefix of elements satisfying a
  predicate. On a list whose matching elements all stand in front (`Fronted`),
  the new element stands behind those and before the others
  (`pairwise_afterPrefix`).
* `getLast?_filter` finds the last match of a sorted list.
* `first_split` says that a list splits at the first occurrence of an element in
  one way only.
-/

namespace EdgeGateway.Lib

universe u

variable {α : Type u} (p : α → Bool)

/-! ### Scanning from the tail -/

/-- The greatest index whose element satisfies `p`. -/
def lastIdx? : List α → Option Nat
  | [] => none
  | x :: xs =>
      match lastIdx? xs with
      | some i => some (i + 1)
      | none => if p x then some 0 else none

theorem lastIdx?_eq_none_iff {xs : List α} :
    lastIdx? p xs = none ↔ ∀ x ∈ xs, p x = false := by
  induction xs with
  | nil => simp [lastIdx?]
  | cons x xs ih =>
      cases found : lastIdx? p xs with
      | some i =>
          have later : ¬ ∀ y ∈ xs, p y = false := by
            rw [← ih, found]; exact Option.some_ne_none i
          simp [lastIdx?, found, later]
      | none =>
          have quiet := ih.mp found
          cases here : p x with
          | true => simp [lastIdx?, found, here]
          | false => simpa [lastIdx?, found, here] using quiet

theorem lastIdx?_map {β : Type u} (g : β → α) (xs : List β) :
    lastIdx? p (xs.map g) = lastIdx? (fun x => p (g x)) xs := by
  induction xs with
  | nil => rfl
  | cons x xs ih => simp only [List.map_cons, lastIdx?, ih]

/-- A hit splits the list at a match with no match behind it. -/
theorem lastIdx?_eq_some {xs : List α} {i : Nat} (hit : lastIdx? p xs = some i) :
    ∃ pre x post, xs = pre ++ x :: post ∧ pre.length = i ∧ p x = true ∧
      ∀ y ∈ post, p y = false := by
  induction xs generalizing i with
  | nil => simp [lastIdx?] at hit
  | cons x xs ih =>
      cases found : lastIdx? p xs with
      | some j =>
          obtain ⟨pre, y, post, rfl, len, matched, rest⟩ := ih found
          have : j + 1 = i := by simpa [lastIdx?, found] using hit
          exact ⟨x :: pre, y, post, rfl, by simp [len, this], matched, rest⟩
      | none =>
          have hit' : p x = true ∧ 0 = i := by simpa [lastIdx?, found] using hit
          exact ⟨[], x, xs, rfl, hit'.2, hit'.1, (lastIdx?_eq_none_iff p).mp found⟩

/-- Replacing the element at a split. -/
theorem set_at_split (pre post : List α) (x y : α) :
    (pre ++ x :: post).set pre.length y = pre ++ y :: post := by
  simp

/-- What held pairwise of a list holds after one element made way for another
that stands to the rest as it should. -/
theorem pairwise_replace {R : α → α → Prop} {pre post : List α} {x y : α}
    (rel : (pre ++ x :: post).Pairwise R) (before : ∀ a ∈ pre, R a y) (after : ∀ b ∈ post, R y b) :
    (pre ++ y :: post).Pairwise R := by
  obtain ⟨left, right, cross⟩ := List.pairwise_append.mp rel
  refine List.pairwise_append.mpr ⟨left, List.pairwise_cons.mpr ⟨after, right.of_cons⟩, ?_⟩
  intro a ha b hb
  rcases List.mem_cons.mp hb with rfl | hb
  · exact before a ha
  · exact cross a ha b (List.mem_cons_of_mem _ hb)

/-- Erasing the element at a split. -/
theorem eraseIdx_at_split (pre post : List α) (x : α) :
    (pre ++ x :: post).eraseIdx pre.length = pre ++ post := by
  simp [List.eraseIdx_append_of_length_le]

/-! ### Inserting behind a prefix -/

/-- Insert `x` behind the longest prefix whose elements satisfy `p`. -/
def afterPrefix (x : α) (xs : List α) : List α :=
  xs.insertIdx (xs.takeWhile p).length x

theorem afterPrefix_eq (x : α) (xs : List α) :
    afterPrefix p x xs = xs.takeWhile p ++ x :: xs.dropWhile p := by
  unfold afterPrefix
  induction xs with
  | nil => rfl
  | cons y ys ih =>
      by_cases hy : p y = true
      · simp only [List.takeWhile_cons_of_pos hy, List.dropWhile_cons_of_pos hy,
          List.length_cons, List.insertIdx_succ_cons, ih, List.cons_append]
      · simp only [List.takeWhile_cons_of_neg hy, List.dropWhile_cons_of_neg hy,
          List.length_nil, List.insertIdx_zero, List.nil_append]

/-- A map that respects the predicates takes the new element to its place. -/
theorem map_afterPrefix {β : Type u} {q : β → Bool} (g : α → β) (x : α) (xs : List α)
    (same : ∀ y, q (g y) = p y) :
    (afterPrefix p x xs).map g = afterPrefix q (g x) (xs.map g) := by
  have front : (xs.map g).takeWhile q = (xs.takeWhile p).map g := by
    rw [List.takeWhile_map]
    exact congrArg (fun r => (xs.takeWhile r).map g) (funext same)
  have back : (xs.map g).dropWhile q = (xs.dropWhile p).map g := by
    rw [List.dropWhile_map]
    exact congrArg (fun r => (xs.dropWhile r).map g) (funext same)
  rw [afterPrefix_eq, afterPrefix_eq, front, back, List.map_append, List.map_cons]

theorem mem_afterPrefix {x y : α} {xs : List α} :
    y ∈ afterPrefix p x xs ↔ y = x ∨ y ∈ xs := by
  rw [afterPrefix_eq]
  conv_rhs => rw [← List.takeWhile_append_dropWhile (p := p) (l := xs)]
  simp only [List.mem_append, List.mem_cons]
  tauto

@[simp] theorem length_afterPrefix (x : α) (xs : List α) :
    (afterPrefix p x xs).length = xs.length + 1 := by
  rw [afterPrefix_eq]
  conv_rhs => rw [← List.takeWhile_append_dropWhile (p := p) (l := xs)]
  simp only [List.length_append, List.length_cons]
  omega

/-- The elements satisfying `p` all stand in front of the others. -/
def Fronted (xs : List α) : Prop := xs.Pairwise fun a b => p b = true → p a = true

theorem Fronted.dropWhile_neg {xs : List α} (front : Fronted p xs) :
    ∀ y ∈ xs.dropWhile p, p y = false := by
  induction xs with
  | nil => simp
  | cons x xs ih =>
      obtain ⟨first, rest⟩ := List.pairwise_cons.mp front
      by_cases hx : p x = true
      · rw [List.dropWhile_cons_of_pos hx]; exact ih rest
      · rw [List.dropWhile_cons_of_neg hx]
        intro y hy
        rcases List.mem_cons.mp hy with rfl | hy
        · simpa using hx
        · simpa using fun hp => hx (first y hy hp)

/-- The head of the result satisfies `p`, and is the old head when that did. -/
theorem afterPrefix_head (xs : List α) {x : α} (hx : p x = true) :
    ∃ head tail, afterPrefix p x xs = head :: tail ∧ p head = true ∧
      ∀ y, xs.head? = some y → p y = true → head = y := by
  rw [afterPrefix_eq]
  cases xs with
  | nil => exact ⟨x, [], rfl, hx, fun y none => by cases none⟩
  | cons y ys =>
      by_cases hy : p y = true
      · refine ⟨y, _, by rw [List.takeWhile_cons_of_pos hy, List.cons_append], hy, ?_⟩
        exact fun z same _ => Option.some.inj same
      · refine ⟨x, _, by rw [List.takeWhile_cons_of_neg hy, List.nil_append], hx, ?_⟩
        exact fun z same hz => absurd (Option.some.inj same ▸ hz) hy

/-- Pairwise relations survive an insertion between the prefix and the rest. -/
theorem pairwise_afterPrefix_of_parts {R : α → α → Prop} {x : α} {xs : List α}
    (rel : xs.Pairwise R) (before : ∀ y ∈ xs.takeWhile p, R y x)
    (after : ∀ y ∈ xs.dropWhile p, R x y) :
    (afterPrefix p x xs).Pairwise R := by
  have split := List.takeWhile_append_dropWhile (p := p) (l := xs)
  rw [← split] at rel
  obtain ⟨left, right, cross⟩ := List.pairwise_append.mp rel
  rw [afterPrefix_eq]
  refine List.pairwise_append.mpr ⟨left, List.pairwise_cons.mpr ⟨after, right⟩, ?_⟩
  intro a ha b hb
  rcases List.mem_cons.mp hb with rfl | hb
  · exact before a ha
  · exact cross a ha b hb

/-- A relation the new element has to everything, in both directions, survives. -/
theorem pairwise_afterPrefix_of_forall {R : α → α → Prop} {x : α} {xs : List α}
    (rel : xs.Pairwise R) (related : ∀ y ∈ xs, R y x ∧ R x y) :
      (afterPrefix p x xs).Pairwise R := by
  apply pairwise_afterPrefix_of_parts p rel
  · intro y hy
    exact (related y ((List.takeWhile_sublist p).subset hy)).1
  · intro y hy
    exact (related y ((List.dropWhile_sublist p).subset hy)).2

/-- Pairwise relations survive an insertion behind the prefix when the new
element stands well after the matching ones and before the others. -/
theorem pairwise_afterPrefix {R : α → α → Prop} {x : α} {xs : List α}
    (front : Fronted p xs) (rel : xs.Pairwise R)
    (before : ∀ y ∈ xs, p y = true → R y x) (after : ∀ y ∈ xs, p y = false → R x y) :
    (afterPrefix p x xs).Pairwise R := by
  apply pairwise_afterPrefix_of_parts p rel
  · intro y hy
    exact before y ((List.takeWhile_sublist p).subset hy) (List.mem_takeWhile_imp hy)
  · intro y hy
    exact after y ((List.dropWhile_sublist p).subset hy) (front.dropWhile_neg p y hy)

/-! ### The last match -/

/-- In a sorted list, a match that no match comes after is the last one. -/
theorem getLast?_filter {R : α → α → Prop} {xs : List α} (sorted : xs.Pairwise R) {x : α}
    (mem : x ∈ xs) (matched : p x = true) (last : ∀ y ∈ xs, p y = true → ¬ R x y) :
    (xs.filter p).getLast? = some x := by
  have kept : x ∈ xs.filter p := List.mem_filter.mpr ⟨mem, matched⟩
  have order : (xs.filter p).Pairwise R := sorted.sublist List.filter_sublist
  rcases List.eq_nil_or_concat (xs.filter p) with nil | ⟨init, z, split⟩
  · rw [nil] at kept; cases kept
  · have zMem : z ∈ xs.filter p := by rw [split]; simp
    obtain ⟨zIn, zMatched⟩ := List.mem_filter.mp zMem
    rw [split, List.concat_eq_append] at kept order
    rcases List.mem_append.mp kept with before | isLast
    · exact absurd ((List.pairwise_append.mp order).2.2 x before z (by simp)) (last z zIn zMatched)
    · rw [split, List.mem_singleton.mp isLast]
      simp

/-! ### Removing an element -/

theorem filter_ne_eq_self [DecidableEq α] {x : α} {xs : List α} (absent : x ∉ xs) :
    xs.filter (· ≠ x) = xs := by
  apply List.filter_eq_self.mpr
  intro y mem
  have other : y ≠ x := fun same => absent (same ▸ mem)
  simpa using other

/-! ### Splitting at the first occurrence -/

theorem first_split {c : α} {xs xs' ys ys' : List α} (first : c ∉ xs) (first' : c ∉ xs')
    (same : xs ++ c :: ys = xs' ++ c :: ys') : xs = xs' ∧ ys = ys' := by
  induction xs generalizing xs' with
  | nil =>
      cases xs' with
      | nil => exact ⟨rfl, (List.cons.inj same).2⟩
      | cons x' xs' =>
          obtain ⟨rfl, -⟩ := List.cons.inj same
          exact absurd List.mem_cons_self first'
  | cons x xs ih =>
      cases xs' with
      | nil =>
          obtain ⟨rfl, -⟩ := List.cons.inj same
          exact absurd List.mem_cons_self first
      | cons x' xs' =>
          obtain ⟨rfl, rest⟩ := List.cons.inj same
          obtain ⟨rfl, tails⟩ := ih (fun mem => first (List.mem_cons_of_mem _ mem))
            (fun mem => first' (List.mem_cons_of_mem _ mem)) rest
          exact ⟨rfl, tails⟩

/-- What precedes a last element without holding it is a part of the rest. -/
theorem prefix_before_last {c : α} {xs ys zs : List α} (first : c ∉ xs)
    (same : xs ++ ys = zs ++ [c]) : ∃ more, zs = xs ++ more ∧ ys = more ++ [c] := by
  rcases List.append_eq_append_iff.mp same with ⟨more, split, rest⟩ | ⟨more, rfl, rest⟩
  · exact ⟨more, split, rest⟩
  · rcases List.append_eq_singleton_iff.mp rest.symm with ⟨rfl, rfl⟩ | ⟨rfl, -⟩
    · exact ⟨[], by simp⟩
    · exact absurd (by simp) first

end EdgeGateway.Lib
