import Confinement.Proofs.Table.Succession

/-! A table answers as the lists of its records do.

The view of a table as lists in the order of use commutes with every operation as long as no counter
has started over, so a table with ticks and one without them answer any operations alike.
-/

set_option autoImplicit false

namespace Confinement

variable {κ α : Type}

namespace RecencyTable

theorem withShard_self (table : RecencyTable κ α) (key : κ) :
    table.withShard key (table.shardOf key) = table := by
  have same : table.shards.set (table.shardIndex key) (table.shardOf key) = table.shards := by
    apply List.ext_getElem (by simp)
    intro index _ bound
    rw [List.getElem_set]
    split
    next equal =>
      subst equal
      rw [shardOf, List.getD_eq_getElem?_getD, List.getElem?_eq_getElem bound, Option.getD_some]
    next => rfl
  rw [withShard, same]

end RecencyTable

variable [DecidableEq κ]

namespace Table

variable {table : Table κ α}

@[simp] theorem shardIndex_recency (table : Table κ α) (key : κ) :
    table.recency.shardIndex key = table.shardIndex key := by
  simp [recency, RecencyTable.shardIndex, shardIndex]

@[simp] theorem shardOf_recency (table : Table κ α) (key : κ) :
    table.recency.shardOf key = (table.shardOf key).recency := by
  rw [RecencyTable.shardOf, shardIndex_recency, shardOf, recency]
  simp only [List.getD_eq_getElem?_getD, List.getElem?_map]
  cases table.shards[table.shardIndex key]? <;> rfl

theorem recency_withShard (table : Table κ α) (key : κ) (shard : Shard κ α) :
    (table.withShard key shard).recency = table.recency.withShard key shard.recency := by
  rw [recency, withShard, RecencyTable.withShard, shardIndex_recency, List.map_set]
  rfl

theorem Unwrapped.of_withShard (each : table.Ordered) {key : κ} {shard : Shard κ α}
    (fresh : (table.withShard key shard).Unwrapped) : shard.Unwrapped := by
  apply fresh
  exact List.mem_set (each.index_lt key) shard

theorem Each.find?_recency (ordered : table.Ordered) (key : κ) :
    (table.recency.shardOf key).find? key = table.find? key := by
  rw [shardOf_recency]
  exact (ordered.shardOf key).find?_recency key

theorem recency_new (name : String) (capacity shards : Nat) (assignment : κ → UInt64) :
    (new name capacity shards assignment : Table κ α).recency =
      RecencyTable.new capacity shards assignment := by
  rw [recency, new, RecencyTable.new, List.map_map]
  rfl

/-! ## Each operation -/

theorem Each.recency_lookup (ordered : table.Ordered) (key : κ)
    (fresh : (table.lookup key).1.Unwrapped) :
    (table.lookup key).1.recency =
      table.recency.withShard key ((table.recency.shardOf key).touch key id) := by
  rw [lookup_eq] at fresh ⊢
  have room : (table.shardOf key).uses + 1 < UInt64.size := by
    simpa using fresh.of_withShard ordered
  rw [recency_withShard, (ordered.shardOf key).recency_touch room, shardOf_recency]

theorem Each.recency_modify (ordered : table.Ordered) (key : κ) (change : α → α)
    (fresh : (table.modify key change).1.Unwrapped) :
    (table.modify key change).1.recency =
      table.recency.withShard key ((table.recency.shardOf key).touch key change) := by
  rw [modify_eq] at fresh ⊢
  have room : (table.shardOf key).uses + 1 < UInt64.size := by
    simpa using fresh.of_withShard ordered
  rw [recency_withShard, (ordered.shardOf key).recency_modify room, shardOf_recency]

theorem Each.recency_delete (ordered : table.Ordered) (key : κ) :
    (table.delete key).1.recency =
      table.recency.withShard key ((table.recency.shardOf key).erase key) := by
  rw [delete_eq, recency_withShard, (ordered.shardOf key).recency_remove, shardOf_recency]

theorem Each.recency_update_present (ordered : table.Ordered) {key : κ} {old : α}
    (present : table.find? key = some old) (value : α)
    (fresh : (table.update key value).1.Unwrapped) :
    (table.update key value).1.recency =
      table.recency.withShard key ((table.recency.shardOf key).touch key fun _ => value) := by
  rw [update_present present] at fresh ⊢
  have room : (table.shardOf key).uses + 1 < UInt64.size := by
    simpa using fresh.of_withShard ordered
  rw [recency_withShard, (ordered.shardOf key).recency_modify room, shardOf_recency]

theorem recency_withShard_count (table : Table κ α) (key : κ) :
    (table.withShard key (table.shardOf key).count).recency = table.recency := by
  have same : (table.shardOf key).count.recency = table.recency.shardOf key := by
    rw [shardOf_recency]
    rfl
  rw [recency_withShard, same, RecencyTable.withShard_self]

theorem update_none {key : κ} (absent : table.find? key = none)
    (none : (table.shardOf key).capacity = 0) (value : α) :
    table.update key value = (table.withShard key (table.shardOf key).count, .error ⟨0⟩) := by
  have none : (table.shardOf key).count.capacity = 0 := none
  rw [update_absent absent, Shard.insertNew_none none]

/-- Elsewhere a new record comes in front, and the last one gives way to it if the shard is full. -/
theorem Each.recency_update_absent (ordered : table.Ordered) {key : κ}
    (absent : table.find? key = none) (some : (table.shardOf key).capacity ≠ 0) (value : α)
    (fresh : (table.update key value).1.Unwrapped) :
    (table.update key value).2 = .ok none ∧
      (table.update key value).1.recency =
        { table.recency.withShard key ((table.recency.shardOf key).insertNew key value) with
          evictions := table.evicted +
            if (table.recency.shardOf key).records.length < (table.shardOf key).capacity
            then 0 else 1 } := by
  have shard := ordered.shardOf key
  have missing : (table.shardOf key).count.find? key = none := absent
  have taken := shard.count.insertNew some missing value
  rw [update_absent absent] at fresh ⊢
  cases answer : (table.shardOf key).count.insertNew key value with
  | mk after result =>
    rw [answer] at fresh taken
    have counted : after.uses < UInt64.size := by
      apply fresh after
      cases result <;> exact List.mem_set (ordered.index_lt key) after
    -- The missed lookup before it has counted a use as well, which changes no order.
    obtain ⟨_, rfl, records⟩ := taken counted
    refine ⟨rfl, ?_⟩
    have exchanged : (table.withShard key after).recency =
        table.recency.withShard key ((table.shardOf key).recency.insertNew key value) := by
      rw [recency_withShard, records]
      rfl
    have lost : (if decide ((table.shardOf key).capacity ≤ (table.shardOf key).size) then 1 else 0) =
        if (table.recency.shardOf key).records.length < (table.shardOf key).capacity
        then 0 else 1 := by
      rw [shardOf_recency, shard.length_records]
      simp only [decide_eq_true_eq]
      split <;> split <;> omega
    rw [← lost, shardOf_recency, ← exchanged]
    rfl

/-- If nothing gives way to it, a new record in a shard with room for one changes nothing else. -/
theorem Each.find?_update (ordered : table.Ordered) {key : κ}
    (some : (table.shardOf key).capacity ≠ 0) (value : α)
    (fresh : (table.update key value).1.Unwrapped)
    (kept : (table.update key value).1.evicted = table.evicted) (other : κ) :
    (table.update key value).1.find? other =
      if other = key then .some value else table.find? other := by
  have updated := updated_update ordered.bounded key value
  have counted : (table.update key value).1.evicted ≠ table.evicted + 1 := by omega
  cases present : table.find? key with
  | some old =>
    rw [update_present present] at updated ⊢
    cases updated with
    | replaced _ found _ => exact found other
  | none =>
    obtain ⟨answer, _⟩ := ordered.recency_update_absent present some value fresh
    rw [answer] at updated
    cases updated with
    | inserted _ found _ => exact found other
    | evicting _ _ _ _ evicted => exact absurd evicted counted

theorem perform_update (table : Table κ α) (key : κ) (value : α) :
    table.perform (.update key value) = ((table.update key value).1,
      match (table.update key value).2 with
      | .ok previous => .updated previous
      | .error failure => .exhausted failure) := by
  rw [perform]
  split <;> simp [*]

theorem recency_perform_update (ordered : table.Ordered) (key : κ) (value : α)
    (fresh : (table.update key value).1.Unwrapped) :
    (table.perform (.update key value)).1.recency =
        (table.recency.perform (.update key value)).1 ∧
      (table.perform (.update key value)).2 = (table.recency.perform (.update key value)).2 := by
  have same : (table.recency.shardOf key).capacity = (table.shardOf key).capacity := by
    rw [shardOf_recency]
    rfl
  have found := ordered.find?_recency key
  rw [perform_update]
  cases present : table.find? key with
  | some old =>
    have answer : (table.update key value).2 = .ok (some old) := by rw [update_present present]
    have view := ordered.recency_update_present present value fresh
    rw [present] at found
    simp only [RecencyTable.perform, found, view, answer, and_self]
  | none =>
    rw [present] at found
    simp only [RecencyTable.perform, found, same]
    by_cases none : (table.shardOf key).capacity = 0
    · rw [if_pos none, update_none present none]
      exact ⟨recency_withShard_count table key, rfl⟩
    · rw [if_neg none]
      obtain ⟨answer, view⟩ := ordered.recency_update_absent present none value fresh
      rw [view, answer]
      exact ⟨rfl, rfl⟩

/-- An operation does to the lists of records what it does to the table, and answers the same. -/
theorem recency_perform (ordered : table.Ordered) (operation : TableOperation κ α)
    (fresh : (table.perform operation).1.Unwrapped) :
    (table.perform operation).1.recency = (table.recency.perform operation).1 ∧
      (table.perform operation).2 = (table.recency.perform operation).2 := by
  cases operation with
  | update key value =>
    rw [perform_update] at fresh
    exact recency_perform_update ordered key value fresh
  | lookup key =>
    refine ⟨ordered.recency_lookup key fresh, ?_⟩
    change TableAnswer.record (table.lookup key).2 = .record ((table.recency.shardOf key).find? key)
    rw [answer_lookup, ordered.find?_recency]
  | modify key change =>
    refine ⟨ordered.recency_modify key change fresh, ?_⟩
    change TableAnswer.record (table.modify key change).2 =
      .record ((table.recency.shardOf key).find? key)
    rw [answer_modify, ordered.find?_recency]
  | delete key =>
    refine ⟨ordered.recency_delete key, ?_⟩
    change TableAnswer.record (table.delete key).2 =
      .record ((table.recency.shardOf key).find? key)
    rw [answer_delete, ordered.find?_recency]
  | contains key =>
    refine ⟨rfl, ?_⟩
    simp only [perform, RecencyTable.perform, contains, ordered.find?_recency]
  | clear =>
    refine ⟨?_, rfl⟩
    simp only [perform, RecencyTable.perform, clear, recency, List.map_map, RecencyTable.mk.injEq,
      true_and, and_true]
    exact List.map_congr_left fun shard _ => rfl
  | size =>
    refine ⟨rfl, ?_⟩
    have lengths : table.recency.shards.map (fun shard => shard.records.length) =
        table.shards.map Shard.size := by
      rw [recency, List.map_map]
      exact List.map_congr_left fun shard member => (ordered.holds shard member).length_records
    simp only [perform, RecencyTable.perform, lengths, size]
  | evictions =>
    refine ⟨rfl, ?_⟩
    simp only [perform, RecencyTable.perform, evictions, UInt64.toNat_ofNat', recency]

/-! ## Runs -/

theorem recency_run (operations : List (TableOperation κ α)) (ordered : table.Ordered)
    (fresh : (table.run operations).1.Unwrapped) :
    (table.run operations).1.recency = (table.recency.run operations).1 ∧
      (table.run operations).2 = (table.recency.run operations).2 := by
  induction operations generalizing table with
  | nil => exact ⟨rfl, rfl⟩
  | cons operation rest ih =>
    -- No counter starts over before the end, since counters only run on.
    have first := (follows_run rest (table.perform operation).1).unwrapped fresh
    have step := recency_perform ordered operation first
    have later := (table.follows_perform operation).ordered first ordered
    obtain ⟨views, answers⟩ := ih later fresh
    rw [step.1] at views answers
    rw [run, RecencyTable.run]
    exact ⟨views, congrArg₂ List.cons step.2 answers⟩

/-- A new table answers any operations as the lists of its records do, and it ends as their view, as
long as none of its counters has started over. -/
theorem run_refines_recency (name : String) (capacity shards : Nat) (assignment : κ → UInt64)
    (operations : List (TableOperation κ α))
    (fresh : ((new name capacity shards assignment).run operations).1.Unwrapped) :
    ((new name capacity shards assignment).run operations).1.recency =
        ((RecencyTable.new capacity shards assignment).run operations).1 ∧
      ((new name capacity shards assignment).run operations).2 =
        ((RecencyTable.new capacity shards assignment).run operations).2 := by
  have ordered : (new name capacity shards assignment : Table κ α).Ordered :=
    each_new name capacity shards assignment Shard.ordered_empty
  rw [← recency_new name]
  exact recency_run operations ordered fresh

/-- Three records in a table of two: the one that was looked up stays, the other one goes. -/
theorem run_refines_recency_lookup :
    ((new "pair" 2 1 (fun _ => 0)).run
      [.update 1 10, .update 2 20, .lookup 1, .update 3 30, .contains 2, .evictions] :
        Table Nat Nat × _).2 =
      [.updated none, .updated none, .record (some 10), .updated none, .present false, .count 1] := by
  rw [(run_refines_recency "pair" 2 1 (fun _ => 0)
    [.update 1 10, .update 2 20, .lookup 1, .update 3 30, .contains 2, .evictions]
    (by decide +kernel)).2]
  decide +kernel

end Table

end Confinement
