import Confinement.Proofs.Table.Correspondence

/-! Tables in which nothing ever gives way.

Where each shard has room for all the keys that are used at all, it does not matter which keys share a
shard: no update finds one full. So two such tables answer alike, however many shards they have and
whichever way their keys are spread.
-/

set_option autoImplicit false

namespace Confinement

open Association (keys)

variable {κ α : Type}

namespace Shard

structure Fits (allowed : List κ) (shard : Shard κ α) : Prop extends Bounded shard where
  ample : allowed.length ≤ shard.capacity
  among : keys shard.entries ⊆ allowed

theorem fits_empty {allowed : List κ} {capacity : Nat} (ample : allowed.length ≤ capacity) :
    (empty capacity : Shard κ α).Fits allowed where
  toBounded := bounded_empty capacity
  ample := ample
  among := List.nil_subset allowed

variable {allowed : List κ} {shard : Shard κ α}

theorem Fits.of_sublist {after : Shard κ α} (fits : shard.Fits allowed)
    (kept : (keys after.entries).Sublist (keys shard.entries))
    (sameCapacity : after.capacity = shard.capacity) : after.Fits allowed where
  distinct := kept.nodup fits.distinct
  room := by
    have lengths := kept.length_le
    simp only [keys, List.length_map] at lengths
    rw [sameCapacity]
    exact Nat.le_trans lengths fits.room
  ample := sameCapacity ▸ fits.ample
  among := List.Subset.trans kept.subset fits.among

variable [DecidableEq κ]

theorem Fits.touch (fits : shard.Fits allowed) (key : κ) : (shard.touch key).1.Fits allowed :=
  fits.of_sublist (shard.keys_touch key ▸ .refl _) (shard.capacity_touch key)

theorem Fits.setValue (fits : shard.Fits allowed) (key : κ) (change : α → α) :
    (shard.setValue key change).Fits allowed :=
  fits.of_sublist (shard.keys_setValue key change ▸ .refl _) rfl

theorem Fits.remove (fits : shard.Fits allowed) (key : κ) : (shard.remove key).1.Fits allowed :=
  fits.of_sublist
    (shard.entries_remove key ▸ Association.keys_sublist (Association.erase_sublist key _))
    (shard.capacity_remove key)

theorem Fits.lt_of_absent (fits : shard.Fits allowed) {key : κ} (member : key ∈ allowed)
    (absent : shard.find? key = none) : shard.size < shard.capacity :=
  Nat.lt_of_lt_of_le (fits.size_lt fits.among member absent) fits.ample

theorem Fits.insertNew (fits : shard.Fits allowed) {key : κ} (member : key ∈ allowed)
    (absent : shard.find? key = none) (value : α) :
    (shard.insertNew key value).1.Fits allowed := by
  have bounded := fits.toBounded.insertNew key value
  rw [insertNew_of_room (fits.lt_of_absent member absent) absent] at bounded ⊢
  exact ⟨bounded, fits.ample, List.cons_subset.mpr ⟨member, fits.among⟩⟩

/-! ## How many records there are -/

@[simp] theorem size_touch (shard : Shard κ α) (key : κ) :
    (shard.touch key).1.size = shard.size := by
  simpa [keys, size] using congrArg List.length (shard.keys_touch key)

@[simp] theorem size_setValue (shard : Shard κ α) (key : κ) (change : α → α) :
    (shard.setValue key change).size = shard.size := by
  simpa [keys, size] using congrArg List.length (shard.keys_setValue key change)

theorem Bounded.size_remove (bounded : shard.Bounded) (key : κ) :
    (shard.remove key).1.size + (if (shard.find? key).isSome then 1 else 0) = shard.size := by
  rw [size, entries_remove]
  cases found : shard.find? key with
  | none =>
    rw [Association.erase_of_absent ((find?_eq_none_iff shard key).mp found)]
    rfl
  | some value =>
    have present : key ∈ keys shard.entries := by
      by_contra absent
      rw [(find?_eq_none_iff shard key).mpr absent] at found
      cases found
    exact Association.length_erase bounded.distinct present

end Shard

namespace Table

variable {required : Shard κ α → Prop} {table : Table κ α}

theorem Each.withShard (each : table.Each required) (key : κ) {shard : Shard κ α}
    (meets : required shard) : (table.withShard key shard).Each required where
  nonempty := by simpa [Table.withShard] using each.nonempty
  holds other member := by
    rcases List.mem_or_eq_of_mem_set member with member | rfl
    · exact each.holds other member
    · exact meets

theorem total_add (sizes : List Nat) (held extra : Nat) :
    sizes.foldl (· + ·) (held + extra) = sizes.foldl (· + ·) held + extra := by
  rw [Nat.add_comm held, List.foldl_assoc, Nat.add_comm extra]

theorem total_set (shards : List (Shard κ α)) {index : Nat} (inside : index < shards.length)
    (shard : Shard κ α) (held : Nat) :
    ((shards.set index shard).map Shard.size).foldl (· + ·) held + shards[index].size =
      (shards.map Shard.size).foldl (· + ·) held + shard.size := by
  induction shards generalizing index held with
  | nil => cases inside
  | cons first rest ih =>
    cases index with
    | zero =>
      simp only [List.set_cons_zero, List.map_cons, List.foldl_cons, List.getElem_cons_zero,
        total_add]
      omega
    | succ index => exact ih (Nat.lt_of_succ_lt_succ inside) (held + first.size)

@[simp] theorem size_new (name : String) (capacity shards : Nat) (assignment : κ → UInt64) :
    (new name capacity shards assignment : Table κ α).size = 0 := by
  rw [size, new, List.map_map]
  induction shardCapacities capacity shards with
  | nil => rfl
  | cons part rest ih => exact ih

@[simp] theorem size_clear (table : Table κ α) : table.clear.size = 0 := by
  rw [size, clear, List.map_map]
  induction table.shards with
  | nil => rfl
  | cons shard rest ih => exact ih

theorem Each.size_withShard (each : table.Each required) (key : κ) (shard : Shard κ α) :
    (table.withShard key shard).size + (table.shardOf key).size = table.size + shard.size := by
  have inside := each.index_lt key
  have current : table.shardOf key = table.shards[table.shardIndex key] := by
    rw [Table.shardOf, List.getD_eq_getElem?_getD, List.getElem?_eq_getElem inside, Option.getD_some]
  rw [current]
  exact total_set table.shards inside shard 0

/-! ## Room for every allowed key -/

/-- Each shard has room for all the allowed keys, the table holds no others, and no update has ever
dropped a record. -/
structure Spacious (allowed : List κ) (table : Table κ α) : Prop where
  fits : table.Each (Shard.Fits allowed)
  kept : table.evicted = 0

/-- What is left over in the division goes to the first shards, so that each has its full share. -/
theorem spacious_new (name : String) {capacity shards : Nat} (assignment : κ → UInt64)
    {allowed : List κ} (ample : allowed.length ≤ capacity / shardCount capacity shards) :
    (new name capacity shards assignment : Table κ α).Spacious allowed where
  fits.nonempty := nonempty_new name capacity shards assignment
  fits.holds shard member := by
    obtain ⟨part, inside, rfl⟩ := List.mem_map.mp member
    obtain ⟨index, _, rfl⟩ := List.mem_map.mp inside
    exact Shard.fits_empty (Nat.le_trans ample (Nat.le_add_right _ _))
  kept := rfl

theorem Spacious.bounded {allowed : List κ} (spacious : table.Spacious allowed) :
    table.Bounded :=
  spacious.fits.imp fun _ fits => fits.toBounded

theorem Spacious.evictions {allowed : List κ} (spacious : table.Spacious allowed) :
    table.evictions = 0 := by
  rw [Table.evictions, spacious.kept]
  rfl

variable [DecidableEq κ]

theorem Each.size_lookup (each : table.Each required) (key : κ) :
    (table.lookup key).1.size = table.size := by
  have sizes := each.size_withShard key ((table.shardOf key).touch key).1
  rw [Shard.size_touch] at sizes
  rw [lookup_eq]
  exact Nat.add_right_cancel sizes

theorem Each.size_shardOf_lookup (each : table.Each required) (key other : κ) :
    ((table.lookup key).1.shardOf other).size = (table.shardOf other).size := by
  rw [lookup_eq, each.shardOf_withShard]
  split
  next same => rw [Shard.size_touch, Table.shardOf, Table.shardOf, same]
  next => rfl

theorem Each.size_modify (each : table.Each required) (key : κ) (change : α → α) :
    (table.modify key change).1.size = table.size := by
  have sizes := each.size_withShard key (((table.shardOf key).touch key).1.setValue key change)
  rw [Shard.size_setValue, Shard.size_touch] at sizes
  rw [modify_eq]
  exact Nat.add_right_cancel sizes

theorem Each.size_delete (bounded : table.Bounded) (key : κ) :
    (table.delete key).1.size + (if (table.find? key).isSome then 1 else 0) = table.size := by
  have sizes := bounded.size_withShard key ((table.shardOf key).remove key).1
  have removed := (bounded.shardOf key).size_remove key
  rw [delete_eq, find?]
  dsimp only
  omega

/-! ## The operations -/

namespace Spacious

variable {allowed : List κ} {key : κ}

theorem mem_of_find? (spacious : table.Spacious allowed) {value : α}
    (found : table.find? key = some value) : key ∈ allowed := by
  apply (spacious.fits.shardOf key).among
  by_contra absent
  rw [find?, (Shard.find?_eq_none_iff _ _).mpr absent] at found
  cases found

theorem lookup (spacious : table.Spacious allowed) (key : κ) :
    (table.lookup key).1.Spacious allowed := by
  rw [lookup_eq]
  exact ⟨spacious.fits.withShard key ((spacious.fits.shardOf key).touch key), spacious.kept⟩

theorem modify (spacious : table.Spacious allowed) (key : κ) (change : α → α) :
    (table.modify key change).1.Spacious allowed := by
  rw [modify_eq]
  exact ⟨spacious.fits.withShard key (((spacious.fits.shardOf key).touch key).setValue key change),
    spacious.kept⟩

theorem delete (spacious : table.Spacious allowed) (key : κ) :
    (table.delete key).1.Spacious allowed := by
  rw [delete_eq]
  exact ⟨spacious.fits.withShard key ((spacious.fits.shardOf key).remove key), spacious.kept⟩

structure Taken (allowed : List κ) (before : Table κ α) (key : κ) (value : α)
    (result : Table κ α × Except Exhausted (Option α)) : Prop where
  answer : result.2 = .ok (before.find? key)
  spacious : result.1.Spacious allowed
  found : ∀ other, result.1.find? other = if other = key then some value else before.find? other
  size : result.1.size = before.size + if (before.find? key).isSome then 0 else 1

theorem update (spacious : table.Spacious allowed) (member : key ∈ allowed) (value : α) :
    Taken allowed table key value (table.update key value) := by
  have fits := spacious.fits.shardOf key
  have updated := updated_update spacious.bounded key value
  cases present : table.find? key with
  | some old =>
    rw [update_present present] at updated ⊢
    have sizes := spacious.fits.size_withShard key
      (((table.shardOf key).touch key).1.setValue key fun _ => value)
    rw [Shard.size_setValue, Shard.size_touch] at sizes
    refine ⟨congrArg Except.ok present.symm, ⟨spacious.fits.withShard key
      ((fits.touch key).setValue key _), spacious.kept⟩, ?_, ?_⟩
    · cases updated with
      | replaced _ found _ => exact found
    · rw [present]
      exact Nat.add_right_cancel sizes
  | none =>
    have counted : (table.shardOf key).count.Fits allowed := fits.of_sublist (.refl _) rfl
    have inserted := counted.insertNew member present value
    rw [update_absent present] at updated ⊢
    rw [Shard.insertNew_of_room (counted.lt_of_absent member present) present] at updated inserted ⊢
    refine ⟨congrArg Except.ok present.symm, ⟨spacious.fits.withShard key inserted, spacious.kept⟩,
      ?_, ?_⟩
    · cases updated with
      | inserted _ found _ => exact found
      | evicting _ full => exact absurd (fits.lt_of_absent member present) (Nat.not_lt.mpr full)
    · rw [present]
      refine Nat.add_right_cancel ((spacious.fits.size_withShard key _).trans ?_)
      rw [Nat.add_assoc, Nat.add_comm _ (table.shardOf key).size]
      rfl

end Spacious

/-! ## Two tables alike -/

/-- Two tables with room for the same keys that hold the same records, spread as they may be. -/
structure Twin (allowed : List κ) (first second : Table κ α) : Prop where
  spacious : first.Spacious allowed
  other : second.Spacious allowed
  found : ∀ key, second.find? key = first.find? key
  size : second.size = first.size

variable {allowed : List κ} {first second : Table κ α}

theorem twin_new {capacity shards reshards : Nat} (assignment reassignment : κ → UInt64)
    (ample : allowed.length ≤ capacity / shardCount capacity shards)
    (again : allowed.length ≤ capacity / shardCount capacity reshards) (name : String) :
    Twin allowed (new name capacity shards assignment : Table κ α)
      (new name capacity reshards reassignment) where
  spacious := spacious_new name assignment ample
  other := spacious_new name reassignment again
  found key := by rw [find?_new, find?_new]
  size := by rw [size_new, size_new]

namespace Twin

theorem lookup (twin : Twin allowed first second) (key : κ) :
    Twin allowed (first.lookup key).1 (second.lookup key).1 where
  spacious := twin.spacious.lookup key
  other := twin.other.lookup key
  found other := by
    rw [twin.spacious.fits.find?_lookup, twin.other.fits.find?_lookup, twin.found]
  size := by rw [twin.spacious.fits.size_lookup, twin.other.fits.size_lookup, twin.size]

theorem modify (twin : Twin allowed first second) (key : κ) (change : α → α) :
    Twin allowed (first.modify key change).1 (second.modify key change).1 where
  spacious := twin.spacious.modify key change
  other := twin.other.modify key change
  found other := by
    rw [twin.spacious.fits.find?_modify, twin.other.fits.find?_modify, twin.found]
  size := by rw [twin.spacious.fits.size_modify, twin.other.fits.size_modify, twin.size]

theorem delete (twin : Twin allowed first second) (key : κ) :
    Twin allowed (first.delete key).1 (second.delete key).1 where
  spacious := twin.spacious.delete key
  other := twin.other.delete key
  found other := by
    rw [twin.spacious.fits.find?_delete, twin.other.fits.find?_delete, twin.found]
  size := by
    have before := twin.spacious.bounded.size_delete key
    have after := twin.other.bounded.size_delete key
    rw [twin.found, twin.size] at after
    exact Nat.add_right_cancel (after.trans before.symm)

theorem update (twin : Twin allowed first second) {key : κ} (member : key ∈ allowed) (value : α) :
    Twin allowed (first.update key value).1 (second.update key value).1 where
  spacious := (twin.spacious.update member value).spacious
  other := (twin.other.update member value).spacious
  found other := by
    rw [(twin.spacious.update member value).found, (twin.other.update member value).found, twin.found]
  size := by
    rw [(twin.spacious.update member value).size, (twin.other.update member value).size, twin.found,
      twin.size]

end Twin

def twinning (allowed : List κ) : Correspondence κ α where
  alike first second := Twin allowed first second
  asked _ := True
  stored key := key ∈ allowed
  whole _ := False
  allowed _ _ := True
  allowed_of_follows _ _ := id
  bounded twin := ⟨twin.spacious.bounded, twin.other.bounded⟩
  found twin key _ := twin.found key
  lookup twin key _ _ := twin.lookup key
  modify twin key _ change _ := twin.modify key change
  delete twin key _ _ := twin.delete key
  update twin key member value _ := by
    refine ⟨twin.update member value, ?_⟩
    rw [(twin.other.update member value).answer, (twin.spacious.update member value).answer,
      twin.found]
  named twin key member value failure refused := by
    rw [(twin.spacious.update member value).answer] at refused
    cases refused
  wholly _ _ _ uses _ := uses.elim

end Table

end Confinement
