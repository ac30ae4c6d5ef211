import EdgeGateway.Devices
import EdgeGateway.Lib.Keyed
import EdgeGateway.Utils

/-!
The registry of devices over whole sequences of updates.

`registry clock capacity updates` is the registry after the updates, from the
empty one. It never grows beyond its capacity, files every record under its own
identity, and every record shows the last update of its device and counts the
updates since the device was last discovered (`registry_kept`).

An update leaves the other records alone, except that a new device makes a full
registry give up one (`update_others`, `evictOldest_spec`). The one it gives up has
the least text in `last_seen`, and since the texts are in the order of time, no
other device was updated before it (`registry_update`).
-/

namespace EdgeGateway.Devices

open EdgeGateway.Lib EdgeGateway.Utils

/-! ### Sequences of updates -/

/-- A call of `update`, at a value of `time.time()`. -/
structure Update where
  time : Int
  ip : String
  payload : Text
  parsed : Json

def Update.nodeId (u : Update) : Text := nodeIdOf u.ip u.parsed

def DeviceManager.receive (clock : Clock) (m : DeviceManager) (u : Update) : DeviceManager :=
  (m.update (clock.isoTime u.time) u.ip u.payload u.parsed).1

def registry (clock : Clock) (capacity : Nat) (updates : List Update) : DeviceManager :=
  updates.foldl (DeviceManager.receive clock) (.init capacity)

/-- The clock does not go back, and shows years of four digits. -/
structure Steady (clock : Clock) (updates : List Update) : Prop where
  ordered : updates.Pairwise fun a b => a.time ≤ b.time
  fourDigits : ∀ u ∈ updates, clock.FourDigitYear u.time

theorem registry_concat (clock : Clock) (capacity : Nat) (updates : List Update) (u : Update) :
    registry clock capacity (updates ++ [u]) =
      (registry clock capacity updates).receive clock u := by
  unfold registry
  rw [List.foldl_append]
  rfl

/-- The last update of a device. -/
def lastUpdate (key : Text) (updates : List Update) : Option Update :=
  updates.reverse.find? fun u => u.nodeId = key

theorem lastUpdate_concat_self (updates : List Update) (u : Update) :
    lastUpdate u.nodeId (updates ++ [u]) = some u := by
  unfold lastUpdate
  rw [List.reverse_concat, List.find?_cons_of_pos (by simp)]

theorem lastUpdate_concat_other {key : Text} {u : Update} (apart : u.nodeId ≠ key)
    (updates : List Update) : lastUpdate key (updates ++ [u]) = lastUpdate key updates := by
  unfold lastUpdate
  rw [List.reverse_concat, List.find?_cons_of_neg (by simpa using apart)]

theorem mem_of_lastUpdate {key : Text} {updates : List Update} {u : Update}
    (last : lastUpdate key updates = some u) : u ∈ updates :=
  List.mem_reverse.mp (List.mem_of_find?_eq_some last)

/-- Update `first` discovered the device, and it was known at each of its updates
in `after`. -/
structure Discovered (clock : Clock) (capacity : Nat) (key : Text) (before : List Update)
    (first : Update) (after : List Update) : Prop where
  own : first.nodeId = key
  fresh : (registry clock capacity before).devices.lookup key = none
  held : ∀ a u b, after = a ++ u :: b → u.nodeId = key →
    (registry clock capacity (before ++ first :: a)).devices.lookup key ≠ none

/-- How many of the updates are of the device. -/
def updatesOf (key : Text) (updates : List Update) : Nat :=
  (updates.filter fun u => u.nodeId = key).length

/-! ### What one update does -/

/-- The record of a device that was discovered by an update. -/
def Update.record (clock : Clock) (u : Update) : Device :=
  (Device.discovered u.ip u.parsed).seen (clock.isoTime u.time) u.ip u.payload u.parsed

/-- A device that is known keeps its place, a new one is appended. -/
theorem receive_cases (clock : Clock) (m : DeviceManager) (u : Update) :
    (∃ device, m.devices.lookup u.nodeId = some device ∧
      m.receive clock u = { m with
        devices := mapAt u.nodeId (Device.seen (clock.isoTime u.time) u.ip u.payload u.parsed)
          m.devices }) ∨
    (m.devices.lookup u.nodeId = none ∧
      m.receive clock u = { m with
        devices := (if m.capacity ≤ m.devices.length then evictOldest m.devices else m.devices) ++
          [(u.nodeId, u.record clock)] }) := by
  unfold DeviceManager.receive DeviceManager.update
  cases known : m.devices.lookup u.nodeId with
  | some device =>
      left
      unfold Update.nodeId at known ⊢
      dsimp only
      rw [known]
      exact ⟨device, rfl, rfl⟩
  | none =>
      right
      unfold Update.nodeId at known ⊢
      dsimp only
      rw [known]
      exact ⟨rfl, rfl⟩

theorem older_some (key : Text) (seen : String) (entry : Text × Device) :
    older (some (key, seen)) entry =
      if entry.2.lastSeen < seen then some (entry.1, entry.2.lastSeen) else some (key, seen) := rfl

/-- The scan of `_evict_oldest`, from a key and a text found before: it ends with
the least text, and with the key that it was found under. -/
theorem foldl_older_some (key : Text) (seen : String) (devices : List (Text × Device)) :
    ∃ key' seen', devices.foldl older (some (key, seen)) = some (key', seen') ∧
      (key' = key ∧ seen' = seen ∨ ∃ device, (key', device) ∈ devices ∧ device.lastSeen = seen') ∧
      seen' ≤ seen ∧ ∀ entry ∈ devices, seen' ≤ entry.2.lastSeen := by
  induction devices generalizing key seen with
  | nil => exact ⟨key, seen, rfl, .inl ⟨rfl, rfl⟩, String.le_refl seen, by simp⟩
  | cons entry devices ih =>
      rw [List.foldl_cons, older_some]
      by_cases less : entry.2.lastSeen < seen
      · rw [if_pos less]
        obtain ⟨key', seen', found, origin, least, others⟩ := ih entry.1 entry.2.lastSeen
        refine ⟨key', seen', found, ?_, ?_, List.forall_mem_cons.mpr ⟨least, others⟩⟩
        · right
          rcases origin with ⟨rfl, rfl⟩ | ⟨device, mem, shown⟩
          · exact ⟨entry.2, List.mem_cons_self, rfl⟩
          · exact ⟨device, List.mem_cons_of_mem _ mem, shown⟩
        · exact String.le_trans least (String.not_lt.mp (String.lt_asymm less))
      · rw [if_neg less]
        obtain ⟨key', seen', found, origin, least, others⟩ := ih key seen
        have first := String.le_trans least (String.not_lt.mp less)
        refine ⟨key', seen', found, ?_, least, List.forall_mem_cons.mpr ⟨first, others⟩⟩
        rcases origin with same | ⟨device, mem, shown⟩
        · exact .inl same
        · exact .inr ⟨device, List.mem_cons_of_mem _ mem, shown⟩

/-- **`_evict_oldest` removes one record**, and no record has a lesser `last_seen`. -/
theorem evictOldest_spec {devices : List (Text × Device)} (nonempty : devices ≠ []) :
    ∃ victim device, (victim, device) ∈ devices ∧
      evictOldest devices = devices.eraseP (fun entry => entry.1 = victim) ∧
      ∀ entry ∈ devices, device.lastSeen ≤ entry.2.lastSeen := by
  cases devices with
  | nil => exact absurd rfl nonempty
  | cons first rest =>
      obtain ⟨victim, seen, found, origin, least, others⟩ :=
        foldl_older_some first.1 first.2.lastSeen rest
      have scanned : (first :: rest).foldl older none = some (victim, seen) := found
      have each : ∀ entry ∈ first :: rest, seen ≤ entry.2.lastSeen :=
        List.forall_mem_cons.mpr ⟨least, others⟩
      have evicted : evictOldest (first :: rest) =
          (first :: rest).eraseP (fun entry => entry.1 = victim) := by
        unfold evictOldest
        rw [scanned]
      rcases origin with ⟨rfl, rfl⟩ | ⟨device, mem, rfl⟩
      · exact ⟨first.1, first.2, List.mem_cons_self, evicted, each⟩
      · exact ⟨victim, device, List.mem_cons_of_mem _ mem, evicted, each⟩

/-! ### What holds of every record -/

section Records

variable {clock : Clock} {capacity : Nat} {updates : List Update} {u : Update}

/-- A record after the updates: it shows the last one of its device, and counts
those since the device was last discovered. -/
structure Kept (clock : Clock) (capacity : Nat) (updates : List Update) (key : Text)
    (device : Device) : Prop where
  nodeId_eq : device.nodeId = key
  shows : ∃ last, lastUpdate key updates = some last ∧ device.ipAddress = last.ip ∧
    device.latestJson = last.payload ∧ device.lastSeen = clock.isoTime last.time
  counts : ∃ before first after, updates = before ++ first :: after ∧
    Discovered clock capacity key before first after ∧
    device.packetCount = 1 + updatesOf key after

theorem updatesOf_concat_self (key : Text) (after : List Update) (own : u.nodeId = key) :
    updatesOf key (after ++ [u]) = updatesOf key after + 1 := by
  simp [updatesOf, List.filter_append, own]

theorem updatesOf_concat_other (key : Text) (after : List Update) (apart : u.nodeId ≠ key) :
    updatesOf key (after ++ [u]) = updatesOf key after := by
  simp [updatesOf, List.filter_append, apart]

/-- A discovery stays the last one through an update of another device, and
through one at which the device is known. -/
theorem Discovered.concat {key : Text} {before after : List Update} {first : Update}
    (since : Discovered clock capacity key before first after)
    (known : u.nodeId = key →
      (registry clock capacity (before ++ first :: after)).devices.lookup key ≠ none) :
    Discovered clock capacity key before first (after ++ [u]) where
  own := since.own
  fresh := since.fresh
  held a v b split own := by
    rcases List.eq_nil_or_concat b with rfl | ⟨front, last, rfl⟩
    · obtain ⟨rfl, same⟩ := List.append_inj' split rfl
      obtain rfl := List.singleton_inj.mp same
      exact known own
    · have whole : after ++ [u] = (a ++ v :: front) ++ [last] := by
        rw [split, List.concat_eq_append, List.append_assoc, List.cons_append]
      obtain ⟨rfl, -⟩ := List.append_inj' whole rfl
      exact since.held a v front rfl own

/-- An update of another device leaves what is known of a record. -/
theorem Kept.concat_other {key : Text} {device : Device}
    (kept : Kept clock capacity updates key device) (apart : u.nodeId ≠ key) :
    Kept clock capacity (updates ++ [u]) key device where
  nodeId_eq := kept.nodeId_eq
  shows := by
    rw [lastUpdate_concat_other apart]
    exact kept.shows
  counts := by
    obtain ⟨before, first, after, rfl, since, count⟩ := kept.counts
    refine ⟨before, first, after ++ [u], by simp, ?_, ?_⟩
    · exact since.concat fun own => absurd own apart
    · rw [updatesOf_concat_other key after apart]
      exact count

/-- An update of the device itself is shown and counted. -/
theorem Kept.concat_self {device : Device} (kept : Kept clock capacity updates u.nodeId device)
    (known : (registry clock capacity updates).devices.lookup u.nodeId ≠ none) :
    Kept clock capacity (updates ++ [u]) u.nodeId
      (device.seen (clock.isoTime u.time) u.ip u.payload u.parsed) where
  nodeId_eq := kept.nodeId_eq
  shows := ⟨u, lastUpdate_concat_self updates u, rfl, rfl, rfl⟩
  counts := by
    obtain ⟨before, first, after, rfl, since, count⟩ := kept.counts
    refine ⟨before, first, after ++ [u], by simp, ?_, ?_⟩
    · exact since.concat fun _ => known
    · rw [updatesOf_concat_self _ after rfl]
      exact congrArg (· + 1) count

/-- A device that was not known is discovered by the update. -/
theorem kept_record (absent : (registry clock capacity updates).devices.lookup u.nodeId = none) :
    Kept clock capacity (updates ++ [u]) u.nodeId (u.record clock) where
  nodeId_eq := rfl
  shows := ⟨u, lastUpdate_concat_self updates u, rfl, rfl, rfl⟩
  counts := ⟨updates, u, [], rfl, ⟨rfl, absent, by simp⟩, rfl⟩

/-! ### What holds of the registry -/

structure Bounded (clock : Clock) (capacity : Nat) (updates : List Update) : Prop where
  capacity_eq : (registry clock capacity updates).capacity = capacity
  length_le : (registry clock capacity updates).devices.length ≤ capacity
  distinct : (keys (registry clock capacity updates).devices).Nodup
  kept : ∀ entry ∈ (registry clock capacity updates).devices,
    Kept clock capacity updates entry.1 entry.2

theorem bounded_nil : Bounded clock capacity [] where
  capacity_eq := rfl
  length_le := Nat.zero_le _
  distinct := List.nodup_nil
  kept := by simp [registry, DeviceManager.init]

/-- Whether an update makes the registry give up a record. -/
def Evicts (clock : Clock) (capacity : Nat) (updates : List Update) (u : Update) : Prop :=
  (registry clock capacity updates).devices.lookup u.nodeId = none ∧
    (registry clock capacity updates).devices.length = capacity

/-- The records an update finds room beside: all of them, or all but the victim. -/
theorem remaining (pos : 1 ≤ capacity) (bounded : Bounded clock capacity updates)
    (absent : (registry clock capacity updates).devices.lookup u.nodeId = none) :
    let m := registry clock capacity updates
    let rest := if m.capacity ≤ m.devices.length then evictOldest m.devices else m.devices
    rest.Sublist m.devices ∧ rest.length < capacity ∧
      (¬ Evicts clock capacity updates u → rest = m.devices) ∧
      (Evicts clock capacity updates u → ∃ victim device, (victim, device) ∈ m.devices ∧
        rest = m.devices.eraseP (fun entry => entry.1 = victim) ∧
        ∀ entry ∈ m.devices, device.lastSeen ≤ entry.2.lastSeen) := by
  dsimp only
  rw [bounded.capacity_eq]
  by_cases full : capacity ≤ (registry clock capacity updates).devices.length
  · have size := le_antisymm bounded.length_le full
    have nonempty : (registry clock capacity updates).devices ≠ [] := by
      apply List.ne_nil_of_length_pos
      omega
    obtain ⟨victim, device, mem, evicted, least⟩ := evictOldest_spec nonempty
    have shorter := List.length_eraseP_of_mem (p := fun entry => decide (entry.1 = victim)) mem
      (by simp)
    rw [if_pos full, evicted]
    refine ⟨List.eraseP_sublist, ?_, ?_, ?_⟩
    · omega
    · intro none
      exact absurd ⟨absent, size⟩ none
    · intro _
      exact ⟨victim, device, mem, rfl, least⟩
  · rw [if_neg full]
    refine ⟨List.Sublist.refl _, by omega, fun _ => rfl, ?_⟩
    intro evicts
    exact absurd evicts.2.ge full

/-- An update keeps the registry bounded, whichever way it goes. -/
theorem Bounded.concat (pos : 1 ≤ capacity) (bounded : Bounded clock capacity updates) :
    Bounded clock capacity (updates ++ [u]) := by
  have after := registry_concat clock capacity updates u
  rcases receive_cases clock (registry clock capacity updates) u with
    ⟨device, known, same⟩ | ⟨absent, same⟩
  · rw [same] at after
    constructor
    · rw [after]
      exact bounded.capacity_eq
    · rw [after, length_mapAt]
      exact bounded.length_le
    · rw [after, keys_mapAt]
      exact bounded.distinct
    · intro entry mem
      rw [after] at mem
      obtain ⟨old, inside, rfl⟩ := List.mem_map.mp mem
      have kept := bounded.kept old inside
      by_cases own : old.1 = u.nodeId
      · rw [if_pos own]
        rw [own] at kept ⊢
        exact kept.concat_self (by simp [known])
      · rw [if_neg own]
        exact kept.concat_other fun same => own same.symm
  · obtain ⟨sub, room, -, -⟩ := remaining pos bounded absent
    rw [same] at after
    have fresh : u.nodeId ∉ keys (registry clock capacity updates).devices :=
      lookup_eq_none_iff_keys.mp absent
    constructor
    · rw [after]
      exact bounded.capacity_eq
    · rw [after, List.length_append]
      exact room
    · rw [after]
      unfold keys
      rw [List.map_append, List.nodup_append']
      refine ⟨bounded.distinct.sublist (sub.map Prod.fst), List.nodup_singleton _, ?_⟩
      intro key inside new
      rw [List.mem_singleton.mp new] at inside
      exact fresh ((sub.map Prod.fst).subset inside)
    · intro entry mem
      rw [after] at mem
      rcases List.mem_append.mp mem with old | new
      · have inside := sub.subset old
        apply (bounded.kept entry inside).concat_other
        intro own
        exact fresh (own ▸ mem_keys_of_mem inside)
      · rw [List.mem_singleton.mp new]
        exact kept_record absent

/-- **The registry after any updates** is within its capacity, and every record
is what the updates of its device make of it. -/
theorem registry_bounded (pos : 1 ≤ capacity) : Bounded clock capacity updates := by
  induction updates using List.reverseRecOn with
  | nil => exact bounded_nil
  | append_singleton updates u ih => exact ih.concat pos

/-- The record an update is about stands in the registry behind it. -/
theorem lookup_updated (pos : 1 ≤ capacity) :
    ∃ device, (registry clock capacity (updates ++ [u])).devices.lookup u.nodeId = some device := by
  rw [registry_concat]
  rcases receive_cases clock (registry clock capacity updates) u with
    ⟨device, known, same⟩ | ⟨absent, same⟩
  · rw [same]
    dsimp only
    rw [lookup_mapAt_self, known, Option.map_some]
    exact ⟨_, rfl⟩
  · obtain ⟨sub, -, -, -⟩ := remaining pos (registry_bounded pos) absent
    refine ⟨u.record clock, ?_⟩
    rw [same]
    exact lookup_concat_self (sub.lookup_eq_none absent) _

/-- Without an eviction, an update changes no other record. -/
theorem lookup_other (pos : 1 ≤ capacity) (room : ¬ Evicts clock capacity updates u) {key : Text}
    (apart : key ≠ u.nodeId) :
    (registry clock capacity (updates ++ [u])).devices.lookup key =
      (registry clock capacity updates).devices.lookup key := by
  rw [registry_concat]
  rcases receive_cases clock (registry clock capacity updates) u with
    ⟨device, known, same⟩ | ⟨absent, same⟩
  · rw [same]
    exact lookup_mapAt_other _ _ apart
  · obtain ⟨-, -, whole, -⟩ := remaining pos (registry_bounded pos) absent
    rw [same]
    dsimp only
    rw [lookup_concat_other apart, whole room]

/-- **An eviction removes one record** and changes no other. The victim is the one
whose last update is the earliest. -/
theorem lookup_evicted (pos : 1 ≤ capacity) (steady : Steady clock updates)
    (evicts : Evicts clock capacity updates u) :
    ∃ victim last, victim ∈ keys (registry clock capacity updates).devices ∧
      lastUpdate victim updates = some last ∧
      (registry clock capacity (updates ++ [u])).devices.lookup victim = none ∧
      (∀ key, key ≠ u.nodeId → key ≠ victim →
        (registry clock capacity (updates ++ [u])).devices.lookup key =
          (registry clock capacity updates).devices.lookup key) ∧
      ∀ key ∈ keys (registry clock capacity updates).devices, ∃ other,
        lastUpdate key updates = some other ∧ last.time ≤ other.time := by
  have bounded : Bounded clock capacity updates := registry_bounded pos
  rw [registry_concat]
  rcases receive_cases clock (registry clock capacity updates) u with
    ⟨device, known, same⟩ | ⟨absent, same⟩
  · rw [evicts.1] at known
    cases known
  · obtain ⟨-, -, -, evicted⟩ := remaining pos bounded absent
    obtain ⟨victim, device, mem, rest, least⟩ := evicted evicts
    obtain ⟨last, lastOf, -, -, lastSeen⟩ := (bounded.kept _ mem).shows
    have inside : victim ∈ keys (registry clock capacity updates).devices := mem_keys_of_mem mem
    have other : victim ≠ u.nodeId := by
      rintro rfl
      exact lookup_eq_none_iff_keys.mp absent inside
    rw [same]
    dsimp only
    rw [rest]
    refine ⟨victim, last, inside, lastOf, ?_, ?_, ?_⟩
    · rw [lookup_concat_other other]
      exact lookup_eraseP_self bounded.distinct victim
    · intro key apart kept
      rw [lookup_concat_other apart, lookup_eraseP_other _ kept]
    · intro key keyIn
      obtain ⟨entry, entryIn, rfl⟩ := List.mem_map.mp keyIn
      obtain ⟨entryLast, entryOf, -, -, entrySeen⟩ := (bounded.kept entry entryIn).shows
      refine ⟨entryLast, entryOf, ?_⟩
      have texts := least entry entryIn
      rw [lastSeen, entrySeen] at texts
      by_contra later
      have less := (isoTime_lt_iff (steady.fourDigits _ (mem_of_lastUpdate entryOf))
        (steady.fourDigits _ (mem_of_lastUpdate lastOf))).mpr (Int.not_le.mp later)
      exact String.not_lt.mpr texts less

end Records

/-- **The device registry.** After any updates, one more update leaves the
registry within its capacity, with every record under its own identity. The record
it is about shows it, and counts the updates of the device since it was last
discovered. The other records are unchanged, but for the one that is removed
exactly when the device is new to a full registry: no device's last update is
earlier than that of the victim. -/
theorem registry_update {clock : Clock} {capacity : Nat} {updates : List Update} {u : Update}
    (pos : 1 ≤ capacity) (steady : Steady clock (updates ++ [u])) :
    let old := registry clock capacity updates
    let new := registry clock capacity (updates ++ [u])
    new.devices.length ≤ capacity ∧
    ((keys new.devices).Nodup ∧ ∀ entry ∈ new.devices, entry.2.nodeId = entry.1) ∧
    (∃ device, new.devices.lookup u.nodeId = some device ∧ device.ipAddress = u.ip ∧
      device.latestJson = u.payload ∧ device.lastSeen = clock.isoTime u.time ∧
      ∃ before first after, updates ++ [u] = before ++ first :: after ∧
        Discovered clock capacity u.nodeId before first after ∧
        device.packetCount = 1 + updatesOf u.nodeId after) ∧
    (¬ (old.devices.lookup u.nodeId = none ∧ old.devices.length = capacity) →
      ∀ key ≠ u.nodeId, new.devices.lookup key = old.devices.lookup key) ∧
    (old.devices.lookup u.nodeId = none ∧ old.devices.length = capacity →
      ∃ victim last, victim ∈ keys old.devices ∧ lastUpdate victim updates = some last ∧
        new.devices.lookup victim = none ∧
        (∀ key, key ≠ u.nodeId → key ≠ victim →
          new.devices.lookup key = old.devices.lookup key) ∧
        ∀ key ∈ keys old.devices, ∃ other,
          lastUpdate key updates = some other ∧ last.time ≤ other.time) := by
  have bounded : Bounded clock capacity (updates ++ [u]) := registry_bounded pos
  have before : Steady clock updates := by
    constructor
    · exact (List.pairwise_append.mp steady.ordered).1
    · intro v mem
      exact steady.fourDigits v (List.mem_append_left _ mem)
  refine ⟨bounded.length_le, ⟨bounded.distinct, ?_⟩, ?_, ?_, ?_⟩
  · intro entry mem
    exact (bounded.kept entry mem).nodeId_eq
  · obtain ⟨device, found⟩ : ∃ device,
        (registry clock capacity (updates ++ [u])).devices.lookup u.nodeId = some device :=
      lookup_updated pos
    have kept := bounded.kept _ (mem_of_lookup found)
    obtain ⟨last, lastOf, ip, payload, seen⟩ := kept.shows
    rw [lastUpdate_concat_self] at lastOf
    obtain rfl := Option.some.inj lastOf
    exact ⟨device, found, ip, payload, seen, kept.counts⟩
  · intro room key apart
    exact lookup_other pos room apart
  · intro evicts
    exact lookup_evicted pos before evicts

/-- A registry of one, to which a second device comes two seconds after the first. -/
theorem registry_update_second :
    let first : Update := ⟨0, "10.0.0.2", [], .null⟩
    let second : Update := ⟨2, "10.0.0.3", [], .null⟩
    Steady ⟨7, 0⟩ ([first] ++ [second]) ∧
      (registry ⟨7, 0⟩ 1 ([first] ++ [second])).devices.length ≤ 1 ∧
      (registry ⟨7, 0⟩ 1 ([first] ++ [second])).devices.lookup first.nodeId = none := by
  intro first second
  have steady : Steady ⟨7, 0⟩ ([first] ++ [second]) := by
    constructor
    · simp [first, second]
    · intro u mem
      simp only [List.singleton_append, List.mem_cons, List.not_mem_nil, or_false] at mem
      unfold Clock.FourDigitYear
      rcases mem with rfl | rfl
      · decide
      · decide
  have update := registry_update (Nat.le_refl 1) steady
  exact ⟨steady, update.1, by decide⟩

end EdgeGateway.Devices
