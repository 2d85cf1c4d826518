import Confinement.Proofs.Table.Eviction
import Confinement.Proofs.Table.Spacious

/-! Tables that came by the same records in different orders.

Which record was used last is seen only where one has to give way to another. So where all find room, new
records may be taken in in any order, and the tables that come out hold the same and are used alike.
-/

set_option autoImplicit false

namespace Confinement.Table

variable {κ α : Type} [DecidableEq κ] {table origin first second third : Table κ α} {key : κ} {value : α}

/-! ## Updates that find room -/

def Takes (table : Table κ α) (key : κ) : Prop :=
  table.find? key ≠ none ∨ (table.shardOf key).size < (table.shardOf key).capacity

structure Fitted (before : Table κ α) (key : κ) (value : α) (after : Table κ α) : Prop where
  found : ∀ other, after.find? other = if other = key then some value else before.find? other
  held : ∀ other, (after.shardOf other).size = (before.shardOf other).size +
    if before.find? key = none ∧ before.shardIndex other = before.shardIndex key then 1 else 0
  size : after.size = before.size + if before.find? key = none then 1 else 0
  evicted : after.evicted = before.evicted

theorem Takes.fitted (takes : table.Takes key) (bounded : table.Bounded) (value : α) :
    table.Fitted key value (table.update key value).1 := by
  have updated := updated_update bounded key value
  cases present : table.find? key with
  | some old =>
    rw [update_present present] at updated ⊢
    have sizes := bounded.size_withShard key
      (((table.shardOf key).touch key).1.setValue key fun _ => value)
    rw [Shard.size_setValue, Shard.size_touch] at sizes
    refine ⟨?_, fun other => ?_, by simpa [present] using Nat.add_right_cancel sizes, rfl⟩
    · cases updated with
      | replaced _ found _ => exact found
    · rw [bounded.shardOf_withShard]
      split
      next same => simp [present, shardOf_congr same]
      next => simp [present]
  | none =>
    have room := takes.resolve_left fun some => some present
    have free : (table.shardOf key).count.size < (table.shardOf key).count.capacity := room
    rw [update_absent present, Shard.insertNew_of_room free present] at updated ⊢
    refine ⟨?_, fun other => ?_, ?_, rfl⟩
    · cases updated with
      | inserted _ found _ => exact found
      | evicting _ full => exact absurd room (Nat.not_lt.mpr full)
    · refine (congrArg Shard.size (bounded.shardOf_withShard key other _)).trans ?_
      by_cases same : table.shardIndex other = table.shardIndex key
      · rw [if_pos same, if_pos ⟨present, same⟩, shardOf_congr same]
        rfl
      · rw [if_neg same, if_neg fun both => same both.2, Nat.add_zero]
    · rw [if_pos present]
      refine Nat.add_right_cancel ((bounded.size_withShard key _).trans ?_)
      rw [Nat.add_assoc, Nat.add_comm 1]
      rfl

theorem takes_of_kept (linked : table.Each Shard.Linked) (roomy : table.Roomy)
    (kept : (table.update key value).1.evicted = table.evicted) : table.Takes key := by
  by_contra full
  obtain ⟨absent, full⟩ := not_or.mp full
  have absent : table.find? key = none := not_not.mp absent
  obtain ⟨_, _, _, _, dropped⟩ := (linked.shardOf key).count.insertNew_full (roomy.shardOf key)
    (Nat.not_lt.mp full) key value
  rw [update_absent absent] at kept
  generalize (table.shardOf key).count.insertNew key value = result at kept dropped
  obtain ⟨shard, answer⟩ := result
  cases dropped
  exact Nat.succ_ne_self _ kept

/-! ## The same records in another order -/

structure Permuted (origin first second : Table κ α) : Prop where
  one : origin.Follows first
  other : origin.Follows second
  found : ∀ key, second.find? key = first.find? key
  held : ∀ key, (second.shardOf key).size = (first.shardOf key).size
  size : second.size = first.size
  evicted : second.evicted = first.evicted

namespace Permuted

theorem refl (follows : origin.Follows first) : Permuted origin first first :=
  ⟨follows, follows, fun _ => rfl, fun _ => rfl, rfl, rfl⟩

theorem trans (permuted : Permuted origin first second) (again : Permuted origin second third) :
    Permuted origin first third where
  one := permuted.one
  other := again.other
  found key := (again.found key).trans (permuted.found key)
  held key := (again.held key).trans (permuted.held key)
  size := again.size.trans permuted.size
  evicted := again.evicted.trans permuted.evicted

variable (linked : origin.Each Shard.Linked)
include linked

theorem lookup (permuted : Permuted origin first second) (key : κ) :
    Permuted origin (first.lookup key).1 (second.lookup key).1 where
  one := permuted.one.trans (first.follows_lookup key)
  other := permuted.other.trans (second.follows_lookup key)
  found other := by
    rw [(permuted.one.linked linked).find?_lookup, (permuted.other.linked linked).find?_lookup,
      permuted.found]
  held other := by
    rw [(permuted.one.linked linked).size_shardOf_lookup,
      (permuted.other.linked linked).size_shardOf_lookup, permuted.held]
  size := by
    rw [(permuted.one.linked linked).size_lookup, (permuted.other.linked linked).size_lookup,
      permuted.size]
  evicted := by
    rw [lookup_eq, lookup_eq]
    exact permuted.evicted

theorem takes (permuted : Permuted origin first second) (takes : first.Takes key) :
    second.Takes key := by
  rw [Takes, permuted.found, permuted.held, permuted.other.capacity_shardOf linked.nonempty,
    ← permuted.one.capacity_shardOf linked.nonempty]
  exact takes

theorem update (permuted : Permuted origin first second) (takes : first.Takes key) (value : α) :
    Permuted origin (first.update key value).1 (second.update key value).1 := by
  have bounded : ∀ {table}, origin.Follows table → table.Bounded := fun follows =>
    bounded_of_linked (follows.linked linked)
  have fitted := takes.fitted (bounded permuted.one) value
  have again := (permuted.takes linked takes).fitted (bounded permuted.other) value
  have index : ∀ other, second.shardIndex other = first.shardIndex other := fun other => by
    rw [permuted.other.shardIndex, permuted.one.shardIndex]
  constructor
  case one => exact permuted.one.trans (first.follows_update key value)
  case other => exact permuted.other.trans (second.follows_update key value)
  case found => intro other; rw [again.found, fitted.found, permuted.found]
  case held =>
    intro other
    rw [again.held, fitted.held, permuted.held, permuted.found, index, index]
  case size => rw [again.size, fitted.size, permuted.size, permuted.found]
  case evicted => rw [again.evicted, fitted.evicted, permuted.evicted]

end Permuted

/-! ## Exchanges -/

variable {one other : κ} {again : α}

/-- Where two records find room one after the other, each finds room before the other as well. -/
theorem Takes.exchange (takes : table.Takes one) (bounded : table.Bounded) (apart : one ≠ other)
    (later : (table.update one value).1.Takes other) :
    table.Takes other ∧ (table.update other again).1.Takes one := by
  have capacity : ∀ key value stored, ((table.update key value).1.shardOf stored).capacity =
      (table.shardOf stored).capacity := fun key value =>
    (table.follows_update key value).capacity_shardOf bounded.nonempty
  have fitted := takes.fitted bounded value
  rw [Takes, fitted.found, if_neg apart.symm, fitted.held, capacity] at later
  have early : table.Takes other := later.imp_right (Nat.lt_of_le_of_lt (Nat.le_add_right _ _))
  have fitted := early.fitted bounded again
  refine ⟨early, ?_⟩
  rw [Takes, fitted.found, if_neg apart, fitted.held, capacity]
  rcases takes with present | room
  · exact .inl present
  by_cases both : table.find? other = none ∧ table.shardIndex one = table.shardIndex other
  · obtain ⟨absent, same⟩ := both
    by_cases missing : table.find? one = none
    · -- Both are new in one shard, which had room for two.
      have room := later.resolve_left fun some => some absent
      rw [if_pos ⟨missing, same.symm⟩, ← shardOf_congr same] at room
      exact .inr (by rwa [if_pos ⟨absent, same⟩])
    · exact .inl missing
  · exact .inr (by rwa [if_neg both])

theorem permuted_exchange (linked : origin.Each Shard.Linked) (follows : origin.Follows table)
    (apart : one ≠ other) (takes : table.Takes one)
    (later : (table.update one value).1.Takes other) :
    Permuted origin ((table.update one value).1.update other again).1
      ((table.update other again).1.update one value).1 := by
  have bounded : ∀ {table}, origin.Follows table → table.Bounded := fun follows =>
    bounded_of_linked (follows.linked linked)
  obtain ⟨early, last⟩ := takes.exchange (bounded follows) apart later
  have step := table.follows_update one value
  have next := table.follows_update other again
  have first := takes.fitted (bounded follows) value
  have second := later.fitted (bounded (follows.trans step)) again
  have third := early.fitted (bounded follows) again
  have fourth := last.fitted (bounded (follows.trans next)) value
  have absent : ((table.update one value).1.find? other = none) = (table.find? other = none) := by
    rw [first.found, if_neg apart.symm]
  have missing : ((table.update other again).1.find? one = none) = (table.find? one = none) := by
    rw [third.found, if_neg apart]
  constructor
  case one => exact (follows.trans step).trans (follows_update _ other again)
  case other => exact (follows.trans next).trans (follows_update _ one value)
  case found =>
    intro key
    rw [second.found, first.found, fourth.found, third.found]
    by_cases same : key = one
    · rw [if_pos same, if_neg (same ▸ apart), if_pos same]
    · rw [if_neg same, if_neg same]
  case held =>
    intro key
    rw [second.held, first.held, fourth.held, third.held, step.shardIndex, step.shardIndex,
      next.shardIndex, next.shardIndex]
    simp only [absent, missing, Nat.add_right_comm]
  case size =>
    rw [second.size, first.size, fourth.size, third.size]
    simp only [absent, missing, Nat.add_right_comm]
  case evicted => rw [second.evicted, first.evicted, fourth.evicted, third.evicted]

end Confinement.Table
