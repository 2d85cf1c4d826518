import Confinement.Proofs.Table.Capacity
import Confinement.Proofs.Table.History
import Confinement.Proofs.Table.Permutation
import Confinement.Proofs.Table.Refinement
import Confinement.Proofs.Table.Single
import Mathlib.Algebra.GroupWithZero.Nat

/-! What a table takes in, and where it goes.

Each record that is taken in is held, or it has given way to another one, or it was deleted or cleared away.
An update counts one eviction however many records it drops, so the count is exact only because a full
shard drops exactly one.
-/

set_option autoImplicit false

namespace Confinement

variable {κ α : Type} [DecidableEq κ]

/-! ## What each operation takes in and gives away -/

namespace TableMoment

def inserts (moment : TableMoment κ α) : Bool :=
  match moment.operation, moment.answer with
  | .update _ _, .updated none => true
  | _, _ => false

def removes (moment : TableMoment κ α) : Bool :=
  match moment.operation, moment.answer with
  | .delete _, .record (some _) => true
  | _, _ => false

def cleared (moment : TableMoment κ α) : Nat :=
  match moment.operation with
  | .clear => moment.table.size
  | _ => 0

end TableMoment

theorem Shard.Linked.size_insertNew {shard : Shard κ α} (linked : shard.Linked)
    (some : shard.capacity ≠ 0) (full : shard.capacity ≤ shard.size) {key : κ}
    (absent : shard.find? key = none) (value : α) :
    (shard.insertNew key value).1.size = shard.size := by
  obtain ⟨oldest, _, present, inserted, _⟩ := linked.insertNew_full some full key value
  have removed := linked.toBounded.size_remove oldest
  rw [if_pos (Option.isSome_iff_ne_none.mpr present)] at removed
  have room := linked.toBounded.room
  have free : (shard.remove oldest).1.size < (shard.remove oldest).1.capacity := by
    rw [capacity_remove]
    change shard.size ≤ shard.capacity at room
    omega
  have missing : (shard.remove oldest).1.find? key = none := by
    rw [find?_remove, absent, ite_self]
  rw [insertNew_of_room free missing] at inserted
  rw [← congrArg Prod.fst inserted, ← removed]
  rfl

namespace Table

variable {table : Table κ α} {key : κ}

theorem Each.update_full (linked : table.Each Shard.Linked) (absent : table.find? key = none)
    (some : (table.shardOf key).capacity ≠ 0)
    (full : (table.shardOf key).capacity ≤ (table.shardOf key).size) (value : α) :
    (table.update key value).2 = .ok none ∧ (table.update key value).1.size = table.size ∧
      (table.update key value).1.evicted = table.evicted + 1 := by
  have shard := (linked.shardOf key).count
  have kept := shard.size_insertNew some full absent value
  obtain ⟨_, _, _, _, dropped⟩ := shard.insertNew_full some full key value
  have sizes := linked.size_withShard key ((table.shardOf key).count.insertNew key value).1
  rw [kept] at sizes
  rw [update_absent absent]
  generalize (table.shardOf key).count.insertNew key value = result at dropped sizes
  obtain ⟨shard, answer⟩ := result
  cases dropped
  exact ⟨rfl, Nat.add_right_cancel sizes, rfl⟩

theorem Takes.answer (takes : table.Takes key) (value : α) :
    (table.update key value).2 = .ok (table.find? key) := by
  cases present : table.find? key with
  | some old => rw [update_present present]
  | none =>
    have room : (table.shardOf key).count.size < (table.shardOf key).count.capacity :=
      takes.resolve_left fun some => some present
    rw [update_absent present, Shard.insertNew_of_room room present]

/-- What an update takes in, the table holds beside what it held, unless it counts another record as
dropped. -/
theorem Each.size_update (linked : table.Each Shard.Linked) (key : κ) (value : α) :
    (table.update key value).1.size + (table.update key value).1.evicted =
      table.size + table.evicted +
        if (TableMoment.mk table (.update key value)).inserts then 1 else 0 := by
  have bounded := bounded_of_linked linked
  simp only [TableMoment.inserts, TableMoment.answer, perform_update]
  by_cases takes : table.Takes key
  · have fitted := takes.fitted bounded value
    rw [fitted.size, fitted.evicted, takes.answer]
    cases table.find? key with
    | none => exact Nat.add_right_comm table.size 1 table.evicted
    | some old => rfl
  · obtain ⟨absent, full⟩ := not_or.mp takes
    have absent : table.find? key = none := not_not.mp absent
    by_cases none : (table.shardOf key).capacity = 0
    · rw [update_none absent none]
      exact congrArg (· + _) (Nat.add_right_cancel (linked.size_withShard key _))
    · obtain ⟨answer, size, evicted⟩ := linked.update_full absent none (Nat.not_lt.mp full) value
      rw [answer, size, evicted]
      rfl

theorem removes_delete (table : Table κ α) (key : κ) :
    (TableMoment.mk table (.delete key)).removes = (table.find? key).isSome := by
  have answer : (TableMoment.mk table (.delete key)).answer = .record (table.find? key) :=
    congrArg TableAnswer.record (table.answer_delete key)
  rw [TableMoment.removes, answer]
  cases table.find? key <;> rfl

theorem Each.balance_perform (linked : table.Each Shard.Linked) (operation : TableOperation κ α) :
    (table.perform operation).1.size + (table.perform operation).1.evicted +
        ((if (TableMoment.mk table operation).removes then 1 else 0) +
          (TableMoment.mk table operation).cleared) =
      table.size + table.evicted + if (TableMoment.mk table operation).inserts then 1 else 0 := by
  cases operation with
  | update key value =>
    rw [← linked.size_update key value, perform_update]
    rfl
  | lookup key =>
    have evicted : (table.perform (.lookup key)).1.evicted = table.evicted :=
      table.evicted_perform nofun
    have size : (table.perform (.lookup key)).1.size = table.size := linked.size_lookup key
    rw [size, evicted]
    rfl
  | modify key change =>
    have evicted : (table.perform (.modify key change)).1.evicted = table.evicted :=
      table.evicted_perform nofun
    have size : (table.perform (.modify key change)).1.size = table.size :=
      linked.size_modify key change
    rw [size, evicted]
    rfl
  | delete key =>
    have evicted : (table.perform (.delete key)).1.evicted = table.evicted :=
      table.evicted_perform nofun
    have size : (table.perform (.delete key)).1.size + _ = table.size :=
      (bounded_of_linked linked).size_delete key
    rw [evicted, removes_delete, ← size, Nat.add_right_comm]
    rfl
  | clear =>
    change table.clear.size + table.evicted + (0 + table.size) = table.size + table.evicted
    rw [size_clear]
    omega
  | contains | size | evictions => rfl

/-! ## Runs -/

theorem Each.balance_run (linked : table.Each Shard.Linked) (operations : List (TableOperation κ α)) :
    (table.run operations).1.size + (table.run operations).1.evicted +
        ((table.moments operations).countP TableMoment.removes +
          ((table.moments operations).map TableMoment.cleared).sum) =
      table.size + table.evicted + (table.moments operations).countP TableMoment.inserts := by
  induction operations generalizing table with
  | nil => rfl
  | cons operation rest ih =>
    have first := linked.balance_perform operation
    have later := ih ((table.follows_perform operation).linked linked)
    simp only [run, moments_cons, List.countP_cons, List.map_cons, List.sum_cons]
    omega

/-- The shards share out the capacity as evenly as they can, and no more records are held. -/
structure Apportioned (capacity : Nat) (table : Table κ α) : Prop where
  total : (table.shards.map Shard.capacity).sum = capacity
  even : ∀ first ∈ table.shards, ∀ second ∈ table.shards, first.capacity ≤ second.capacity + 1
  some : 1 ≤ capacity → ∀ shard ∈ table.shards, 1 ≤ shard.capacity
  size : table.size ≤ capacity

structure Stores (capacity : Nat) (table : Table κ α) (key : κ) (value : α) : Prop where
  refused_iff : (∃ failure, (table.update key value).2 = .error failure) ↔ capacity = 0
  unchanged : ∀ failure, (table.update key value).2 = .error failure → failure = ⟨0⟩ ∧
    (∀ other, (table.update key value).1.find? other = table.find? other) ∧
    (table.update key value).1.size = table.size ∧
    (table.update key value).1.evictions = table.evictions
  found : ∀ previous, (table.update key value).2 = .ok previous →
    ((table.update key value).1.lookup key).2 = some value

/-- What a table of this capacity is at any time of the operations, and their account in the end. -/
structure Conserved (capacity : Nat) (start : Table κ α) (operations : List (TableOperation κ α)) :
    Prop where
  apportioned : ∀ early, early <+: operations → (start.run early).1.Apportioned capacity
  stores : ∀ early, early <+: operations → ∀ key value, (start.run early).1.Stores capacity key value
  answers : (start.moments operations).map TableMoment.answer = (start.run operations).2
  balance : (start.moments operations).countP TableMoment.inserts =
    (start.run operations).1.size + (start.run operations).1.evictions.toNat +
      (start.moments operations).countP TableMoment.removes +
      ((start.moments operations).map TableMoment.cleared).sum

variable {name : String} {capacity shards : Nat} {assignment : κ → UInt64}

theorem mem_shardCapacities {part : Nat} (member : part ∈ shardCapacities capacity shards) :
    capacity / shardCount capacity shards ≤ part ∧
      part ≤ capacity / shardCount capacity shards + 1 := by
  obtain ⟨index, _, rfl⟩ := List.mem_map.mp member
  split <;> omega

theorem Follows.apportioned (follows : Follows (new name capacity shards assignment) table) :
    table.Apportioned capacity := by
  have parts : table.shards.map Shard.capacity = shardCapacities capacity shards := by
    have same : Shard.capacity ∘ (Shard.empty : Nat → Shard κ α) = id := rfl
    rw [follows.capacities, new, List.map_map, same, List.map_id]
  have among : ∀ shard ∈ table.shards, shard.capacity ∈ shardCapacities capacity shards := by
    intro shard member
    rw [← parts]
    exact List.mem_map_of_mem member
  constructor
  case total =>
    rw [parts, List.sum_eq_foldl]
    exact total_shardCapacities capacity shards
  case even =>
    intro first one second other
    have most := (mem_shardCapacities (among first one)).2
    have least := (mem_shardCapacities (among second other)).1
    omega
  case some =>
    intro some shard member
    exact Nat.one_le_iff_ne_zero.mpr
      ((follows.roomy (roomy_new name some shards assignment)).holds shard member)
  case size => exact follows.size_le

theorem Follows.refused_iff (follows : Follows (new name capacity shards assignment) table) (key : κ)
    (value : α) : (∃ failure, (table.update key value).2 = .error failure) ↔ capacity = 0 := by
  have linked : table.Each Shard.Linked := follows.linked (each_new _ _ _ _ Shard.linked_empty)
  constructor
  · rintro ⟨failure, refused⟩
    by_contra some
    have roomy := follows.roomy (roomy_new name (Nat.one_le_iff_ne_zero.mpr some) shards assignment)
    obtain ⟨previous, taken⟩ := linked.update_ok roomy key value
    rw [refused] at taken
    cases taken
  · rintro rfl
    have single := follows.single (single_none name shards assignment)
    exact ⟨_, single.update_none (bounded_of_linked linked) key value⟩

theorem Follows.stores (follows : Follows (new name capacity shards assignment) table) (key : κ)
    (value : α) : table.Stores capacity key value := by
  have bounded : table.Bounded := follows.bounded (each_new _ _ _ _ Shard.bounded_empty)
  have updated := updated_update bounded key value
  constructor
  case refused_iff => exact follows.refused_iff key value
  case unchanged =>
    intro failure refused
    obtain rfl := (follows.refused_iff key value).mp ⟨failure, refused⟩
    have single := follows.single (single_none name shards assignment)
    obtain ⟨shard, member, none, only⟩ := single.shardOf
    have absent := single.find?_none bounded key
    rw [single.update_none bounded key value] at refused updated
    cases refused
    cases updated with
    | refused _ _ found _ =>
      rw [update_none absent ((congrArg Shard.capacity (only key)).trans none)] at found ⊢
      exact ⟨rfl, found, Nat.add_right_cancel (bounded.size_withShard key _), rfl⟩
  case found =>
    intro previous taken
    rw [taken] at updated
    rw [answer_lookup]
    exact updated.stored

/-- A new table keeps within its capacity and refuses nothing unless it has none. What was ever taken in and
is no longer held has given way to another record, was deleted, or was cleared away. -/
theorem conserved_run (name : String) (capacity shards : Nat) (assignment : κ → UInt64)
    (operations : List (TableOperation κ α))
    (counted : ((new name capacity shards assignment).run operations).1.evicted < UInt64.size) :
    (new name capacity shards assignment).Conserved capacity operations := by
  constructor
  case apportioned => exact fun early _ => (follows_run early _).apportioned
  case stores => exact fun early _ key value => (follows_run early _).stores key value
  case answers => exact map_answer_moments _ operations
  case balance =>
    have linked : (new name capacity shards assignment : Table κ α).Each Shard.Linked :=
      each_new _ _ _ _ Shard.linked_empty
    have balance := linked.balance_run operations
    have fresh : (new name capacity shards assignment : Table κ α).evicted = 0 := rfl
    rw [size_new, fresh] at balance
    rw [evictions, UInt64.toNat_ofNat_of_lt' counted]
    omega

/-- Five records are taken in by three places in two shards: one is held in the end, one gave way, one was
deleted, and two were cleared away. -/
theorem conserved_run_cleared :
    let start : Table Nat Nat := new "three" 3 2 UInt64.ofNat
    let operations : List (TableOperation Nat Nat) :=
      [.update 1 10, .update 3 30, .update 2 20, .delete 2, .update 4 40, .clear, .update 5 50]
    start.shards.map Shard.capacity = [2, 1] ∧ start.Conserved 3 operations ∧
      (start.moments operations).countP TableMoment.inserts = 5 ∧
      (start.run operations).1.size = 1 ∧ (start.run operations).1.evictions = 1 ∧
      (start.moments operations).countP TableMoment.removes = 1 ∧
      (start.moments operations).map TableMoment.cleared = [0, 0, 0, 0, 0, 2, 0] :=
  ⟨by decide +kernel, conserved_run "three" 3 2 UInt64.ofNat _ (by decide +kernel), by decide +kernel,
    by decide +kernel, by decide +kernel, by decide +kernel, by decide +kernel⟩

end Table

end Confinement
