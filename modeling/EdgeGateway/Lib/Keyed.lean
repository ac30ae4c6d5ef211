import Mathlib.Data.List.Basic
import Mathlib.Data.List.Nodup

/-!
Lists of pairs used as dictionaries: `List.lookup` reads, and no key stands twice.

One lemma for what each way of changing the list does to the keys, and one for
what it does to a lookup: changing the value of a key in place (`mapAt`), removing
the entry of a key (`List.eraseP`), and appending an entry.
-/

namespace EdgeGateway.Lib

universe u v

variable {κ : Type u} {β : Type v}

def keys (xs : List (κ × β)) : List κ := xs.map Prod.fst

theorem mem_keys_of_mem {xs : List (κ × β)} {entry : κ × β} (mem : entry ∈ xs) :
    entry.1 ∈ keys xs :=
  List.mem_map_of_mem mem

section Lookup

variable [BEq κ] [LawfulBEq κ] {xs : List (κ × β)} {key : κ} {value : β}

theorem lookup_cons_of_eq {other : κ} (here : other = key) :
    ((other, value) :: xs).lookup key = some value := by
  subst here
  exact List.lookup_cons_self

theorem lookup_cons_of_ne {other : κ} (apart : other ≠ key) :
    ((other, value) :: xs).lookup key = xs.lookup key := by
  have miss : (key == other) = false := beq_false_of_ne apart.symm
  rw [List.lookup_cons, miss]

theorem mem_of_lookup (found : xs.lookup key = some value) : (key, value) ∈ xs := by
  obtain ⟨front, back, rfl, -⟩ := List.lookup_eq_some_iff.mp found
  simp

theorem lookup_eq_none_iff_keys : xs.lookup key = none ↔ key ∉ keys xs := by
  rw [List.lookup_eq_none_iff]
  constructor
  · intro absent mem
    obtain ⟨entry, inside, rfl⟩ := List.mem_map.mp mem
    exact bne_iff_ne.mp (absent entry inside) rfl
  · intro absent entry inside
    apply bne_iff_ne.mpr
    rintro rfl
    exact absent (mem_keys_of_mem inside)

/-! ### Appending -/

theorem lookup_concat_self (absent : xs.lookup key = none) (value : β) :
    (xs ++ [(key, value)]).lookup key = some value := by
  rw [List.lookup_append, absent, List.lookup_cons_self]
  rfl

theorem lookup_concat_other {other : κ} (apart : other ≠ key) (value : β) :
    (xs ++ [(key, value)]).lookup other = xs.lookup other := by
  rw [List.lookup_append, lookup_cons_of_ne apart.symm, List.lookup_nil, Option.or_none]

end Lookup

/-! ### Changing a value in place -/

variable [DecidableEq κ]

def mapAt (key : κ) (change : β → β) (xs : List (κ × β)) : List (κ × β) :=
  xs.map fun entry => if entry.1 = key then (entry.1, change entry.2) else entry

section MapAt

variable (key : κ) (change : β → β) (xs : List (κ × β))

theorem keys_mapAt : keys (mapAt key change xs) = keys xs := by
  unfold keys mapAt
  rw [List.map_map]
  apply List.map_congr_left
  intro entry _
  simp only [Function.comp_apply]
  split <;> rfl

theorem length_mapAt : (mapAt key change xs).length = xs.length := List.length_map _

variable [BEq κ] [LawfulBEq κ]

theorem lookup_mapAt_self : (mapAt key change xs).lookup key = (xs.lookup key).map change := by
  unfold mapAt
  induction xs with
  | nil => rfl
  | cons entry xs ih =>
      obtain ⟨first, value⟩ := entry
      rw [List.map_cons]
      by_cases here : first = key
      · rw [if_pos here, lookup_cons_of_eq here, lookup_cons_of_eq here, Option.map_some]
      · rw [if_neg here, lookup_cons_of_ne here, lookup_cons_of_ne here, ih]

theorem lookup_mapAt_other {key other : κ} (apart : other ≠ key) :
    (mapAt key change xs).lookup other = xs.lookup other := by
  unfold mapAt
  induction xs with
  | nil => rfl
  | cons entry xs ih =>
      obtain ⟨first, value⟩ := entry
      rw [List.map_cons]
      by_cases here : first = key
      · have miss : first ≠ other := fun same => apart (same.symm.trans here)
        rw [if_pos here, lookup_cons_of_ne miss, lookup_cons_of_ne miss, ih]
      · rw [if_neg here]
        by_cases same : first = other
        · rw [lookup_cons_of_eq same, lookup_cons_of_eq same]
        · rw [lookup_cons_of_ne same, lookup_cons_of_ne same, ih]

end MapAt

/-! ### Removing -/

section Erase

variable [BEq κ] [LawfulBEq κ] (xs : List (κ × β))

theorem keys_eraseP (key : κ) :
    keys (xs.eraseP fun entry => entry.1 = key) = (keys xs).erase key := by
  induction xs with
  | nil => rfl
  | cons entry xs ih =>
      by_cases here : entry.1 = key
      · rw [List.eraseP_cons_of_pos (by simpa using here)]
        simp [keys, here]
      · rw [List.eraseP_cons_of_neg (by simpa using here)]
        unfold keys at ih ⊢
        rw [List.map_cons, List.map_cons, List.erase_cons_tail (by simpa using here), ih]

theorem lookup_eraseP_other {key other : κ} (apart : other ≠ key) :
    (xs.eraseP fun entry => entry.1 = key).lookup other = xs.lookup other := by
  induction xs with
  | nil => rfl
  | cons entry xs ih =>
      obtain ⟨first, value⟩ := entry
      by_cases here : first = key
      · have miss : first ≠ other := fun same => apart (same.symm.trans here)
        rw [List.eraseP_cons_of_pos (by simpa using here), lookup_cons_of_ne miss]
      · rw [List.eraseP_cons_of_neg (by simpa using here)]
        by_cases same : first = other
        · rw [lookup_cons_of_eq same, lookup_cons_of_eq same]
        · rw [lookup_cons_of_ne same, lookup_cons_of_ne same, ih]

theorem lookup_eraseP_self {xs : List (κ × β)} (distinct : (keys xs).Nodup) (key : κ) :
    (xs.eraseP fun entry => entry.1 = key).lookup key = none := by
  rw [lookup_eq_none_iff_keys, keys_eraseP]
  exact distinct.not_mem_erase

end Erase

end EdgeGateway.Lib
