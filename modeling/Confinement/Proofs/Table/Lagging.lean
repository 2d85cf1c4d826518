import Confinement.Proofs.Table.Correspondence
import Confinement.Proofs.Table.Refinement

/-! Tables that hold the same records in the same order of use, though one of them was used more often.

A lookup that finds nothing counts as a use and does nothing else. Ticks are compared with each other and
with nothing else, so as long as no counter starts over it does not matter how many of them were spent.
-/

set_option autoImplicit false

namespace Confinement

variable {κ α : Type} [DecidableEq κ]

namespace Shard

structure Lags (first second : Shard κ α) : Prop where
  ordered : first.Ordered
  other : second.Ordered
  recency : second.recency = first.recency
  uses : first.uses ≤ second.uses

namespace Lags

variable {first second : Shard κ α} {key : κ}

theorem refl {shard : Shard κ α} (ordered : shard.Ordered) : shard.Lags shard :=
  ⟨ordered, ordered, rfl, Nat.le_refl _⟩

theorem capacity (lags : first.Lags second) : second.capacity = first.capacity :=
  congrArg Recency.capacity lags.recency

theorem found (lags : first.Lags second) (key : κ) : second.find? key = first.find? key := by
  rw [← lags.other.find?_recency, lags.recency, lags.ordered.find?_recency]

theorem size (lags : first.Lags second) : second.size = first.size := by
  rw [← lags.other.length_records, lags.recency, lags.ordered.length_records]

theorem count (lags : first.Lags second) : first.Lags second.count :=
  ⟨lags.ordered, lags.other.count, lags.recency, Nat.le_succ_of_le lags.uses⟩

theorem both (lags : first.Lags second) : first.count.Lags second.count :=
  ⟨lags.ordered.count, lags.other.count, lags.recency, Nat.succ_le_succ lags.uses⟩

theorem touch (lags : first.Lags second) (fresh : (second.touch key).1.Unwrapped) :
    (first.touch key).1.Lags (second.touch key).1 := by
  have uses := lags.uses
  rw [Unwrapped, uses_touch] at fresh
  have early : first.uses + 1 < UInt64.size := by omega
  refine ⟨lags.ordered.touch early key, lags.other.touch fresh key, ?_, by simpa using uses⟩
  rw [lags.other.recency_touch fresh, lags.ordered.recency_touch early, lags.recency]

theorem setValue (lags : first.Lags second) (key : κ) (change : α → α) :
    (first.setValue key change).Lags (second.setValue key change) where
  ordered := lags.ordered.setValue key change
  other := lags.other.setValue key change
  recency := by
    apply Recency.ext lags.capacity
    rw [recency_setValue, recency_setValue, lags.recency]
  uses := lags.uses

theorem remove (lags : first.Lags second) (key : κ) :
    (first.remove key).1.Lags (second.remove key).1 where
  ordered := lags.ordered.remove key
  other := lags.other.remove key
  recency := by rw [lags.other.recency_remove, lags.ordered.recency_remove, lags.recency]
  uses := by simpa using lags.uses

theorem clear (lags : first.Lags second) : first.clear.Lags second.clear where
  ordered := first.ordered_clear
  other := second.ordered_clear
  recency := Recency.ext lags.capacity rfl
  uses := lags.uses

theorem insertNew (lags : first.Lags second) (absent : first.find? key = none) (value : α)
    (fresh : (second.insertNew key value).1.Unwrapped) :
    (first.insertNew key value).1.Lags (second.insertNew key value).1 ∧
      (second.insertNew key value).2 = (first.insertNew key value).2 := by
  by_cases none : first.capacity = 0
  · rw [insertNew_none none, insertNew_none (lags.capacity.trans none)]
    exact ⟨lags, rfl⟩
  have some : second.capacity ≠ 0 := lags.capacity ▸ none
  have again := (lags.found key).trans absent
  have counted : ∀ {shard : Shard κ α}, shard.Ordered → shard.capacity ≠ 0 →
      (shard.insertNew key value).1.uses = shard.uses + 1 := by
    intro shard ordered some
    rw [insertNew_taken some (ordered.roomy some).1]
    rfl
  have uses := lags.uses
  have early : (first.insertNew key value).1.uses < UInt64.size := by
    rw [Unwrapped, counted lags.other some] at fresh
    rw [counted lags.ordered none]
    omega
  obtain ⟨ordered, answer, records⟩ := lags.ordered.insertNew none absent value early
  obtain ⟨other, reply, others⟩ := lags.other.insertNew some again value fresh
  refine ⟨⟨ordered, other, ?_, ?_⟩, ?_⟩
  · rw [others, records, lags.recency]
  · rw [counted lags.ordered none, counted lags.other some]
    exact Nat.succ_le_succ uses
  · rw [reply, answer, lags.capacity, lags.size]

end Lags

end Shard

namespace Table

structure Lags (first second : Table κ α) : Prop where
  name : second.name = first.name
  capacity : second.capacity = first.capacity
  assignment : second.assignment = first.assignment
  evicted : second.evicted = first.evicted
  nonempty : first.shards ≠ []
  length : second.shards.length = first.shards.length
  shard : ∀ (index : Nat) (one other : Shard κ α), first.shards[index]? = some one →
    second.shards[index]? = some other → one.Lags other

variable {table : Table κ α} {key : κ}

theorem Ordered.lags (ordered : table.Ordered) : table.Lags table where
  name := rfl
  capacity := rfl
  assignment := rfl
  evicted := rfl
  nonempty := ordered.nonempty
  length := rfl
  shard index one other first second := by
    rw [first, Option.some.injEq] at second
    exact second ▸ .refl (ordered.holds one (List.mem_of_getElem? first))

namespace Lags

variable {first second : Table κ α}

theorem index (lags : first.Lags second) (key : κ) :
    second.shardIndex key = first.shardIndex key := by
  rw [shardIndex, shardIndex, lags.assignment, lags.length]

theorem again (lags : first.Lags second) : second.shards ≠ [] := by
  have nonempty := lags.nonempty
  rw [← List.length_pos_iff] at nonempty ⊢
  exact lags.length ▸ nonempty

theorem ordered (lags : first.Lags second) : first.Ordered where
  nonempty := lags.nonempty
  holds shard member := by
    obtain ⟨index, inside, rfl⟩ := List.mem_iff_getElem.mp member
    have bound : index < second.shards.length := lags.length ▸ inside
    exact (lags.shard index _ _ (List.getElem?_eq_getElem inside)
      (List.getElem?_eq_getElem bound)).ordered

theorem other (lags : first.Lags second) : second.Ordered where
  nonempty := lags.again
  holds shard member := by
    obtain ⟨index, inside, rfl⟩ := List.mem_iff_getElem.mp member
    have bound : index < first.shards.length := lags.length ▸ inside
    exact (lags.shard index _ _ (List.getElem?_eq_getElem bound)
      (List.getElem?_eq_getElem inside)).other

theorem shardOf (lags : first.Lags second) (key : κ) :
    (first.shardOf key).Lags (second.shardOf key) := by
  have inside := lags.ordered.index_lt key
  have bound : first.shardIndex key < second.shards.length := lags.length ▸ inside
  refine lags.shard (first.shardIndex key) _ _ ?_ ?_
  · simp [Table.shardOf, inside]
  · simp [Table.shardOf, lags.index, bound]

theorem found (lags : first.Lags second) (key : κ) : second.find? key = first.find? key :=
  (lags.shardOf key).found key

theorem recency (lags : first.Lags second) : second.recency = first.recency := by
  have shards : second.shards.map Shard.recency = first.shards.map Shard.recency := by
    apply List.ext_getElem
    · simp [lags.length]
    · intro index late early
      rw [List.length_map] at late early
      rw [List.getElem_map, List.getElem_map]
      exact (lags.shard index _ _ (List.getElem?_eq_getElem early)
        (List.getElem?_eq_getElem late)).recency
  rw [Table.recency, Table.recency, lags.assignment, lags.evicted, shards]

theorem size (lags : first.Lags second) : second.size = first.size := by
  have sizes : second.shards.map Shard.size = first.shards.map Shard.size := by
    apply List.ext_getElem
    · simp [lags.length]
    · intro index late early
      rw [List.length_map] at late early
      rw [List.getElem_map, List.getElem_map]
      exact (lags.shard index _ _ (List.getElem?_eq_getElem early)
        (List.getElem?_eq_getElem late)).size
  rw [Table.size, Table.size, sizes]

theorem withShard (lags : first.Lags second) (key : κ) {one other : Shard κ α}
    (step : one.Lags other) : (first.withShard key one).Lags (second.withShard key other) where
  name := lags.name
  capacity := lags.capacity
  assignment := lags.assignment
  evicted := lags.evicted
  nonempty := by simpa [Table.withShard] using lags.nonempty
  length := by simp [Table.withShard, lags.length]
  shard index early late start finish := by
    rw [Table.withShard, List.getElem?_set] at start
    rw [Table.withShard, List.getElem?_set, lags.index] at finish
    by_cases same : first.shardIndex key = index
    · subst index
      have inside := lags.ordered.index_lt key
      have again : first.shardIndex key < second.shards.length := lags.length ▸ inside
      rw [if_pos rfl, if_pos inside, Option.some.injEq] at start
      rw [if_pos rfl, if_pos again, Option.some.injEq] at finish
      exact start ▸ finish ▸ step
    · rw [if_neg same] at start finish
      exact lags.shard index early late start finish

theorem clear (lags : first.Lags second) : first.clear.Lags second.clear where
  name := lags.name
  capacity := lags.capacity
  assignment := lags.assignment
  evicted := lags.evicted
  nonempty := by simpa [Table.clear] using lags.nonempty
  length := by simp [Table.clear, lags.length]
  shard index one other start finish := by
    simp only [Table.clear, List.getElem?_map, Option.map_eq_some_iff] at start finish
    obtain ⟨early, inside, rfl⟩ := start
    obtain ⟨late, again, rfl⟩ := finish
    exact (lags.shard index early late inside again).clear

theorem idle (lags : first.Lags second) (absent : first.find? key = none) :
    first.Lags (second.lookup key).1 := by
  rw [lookup_absent ((lags.found key).trans absent)]
  have step := lags.withShard key (lags.shardOf key).count
  rwa [withShard_self lags.ordered] at step

theorem update (lags : first.Lags second) (key : κ) (value : α)
    (fresh : (second.update key value).1.Unwrapped) :
    (first.update key value).1.Lags (second.update key value).1 ∧
      (second.update key value).2 = (first.update key value).2 := by
  have shard := lags.shardOf key
  cases present : first.find? key with
  | some old =>
    have again := (lags.found key).trans present
    rw [update_present again] at fresh ⊢
    rw [update_present present]
    have counted : ((second.shardOf key).touch key).1.Unwrapped := fresh.of_withShard lags.other
    exact ⟨lags.withShard key ((shard.touch counted).setValue key _), rfl⟩
  | none =>
    have again := (lags.found key).trans present
    have counted : ((second.shardOf key).count.insertNew key value).1.Unwrapped := by
      rw [update_absent again] at fresh
      generalize (second.shardOf key).count.insertNew key value = result at fresh
      obtain ⟨after, answer⟩ := result
      apply fresh after
      cases answer <;> exact List.mem_set (lags.other.index_lt key) after
    obtain ⟨inserted, answer⟩ := shard.both.insertNew present value counted
    have exchanged := lags.withShard key inserted
    rw [update_absent again, update_absent present]
    generalize (first.shardOf key).count.insertNew key value = result at exchanged answer
    generalize (second.shardOf key).count.insertNew key value = other at exchanged answer
    obtain ⟨one, result⟩ := result
    obtain ⟨other, reply⟩ := other
    cases answer
    cases result with
    | error failure => exact ⟨exchanged, rfl⟩
    | ok dropped => exact ⟨{ exchanged with evicted := by rw [lags.evicted] }, rfl⟩

end Lags

def lagging : Correspondence κ α where
  alike first second := first.Lags second
  asked _ := True
  stored _ := True
  whole _ := True
  allowed _ second := second.Unwrapped
  allowed_of_follows _ following fresh := following.unwrapped fresh
  bounded lags := ⟨lags.ordered.bounded, lags.other.bounded⟩
  found lags key _ := lags.found key
  lookup := by
    intro first second lags key _ fresh
    rw [lookup_eq] at fresh
    rw [lookup_eq, lookup_eq]
    exact lags.withShard key ((lags.shardOf key).touch (fresh.of_withShard lags.other))
  modify := by
    intro first second lags key _ change fresh
    rw [modify_eq] at fresh
    rw [modify_eq, modify_eq]
    have counted : ((second.shardOf key).touch key).1.Unwrapped := fresh.of_withShard lags.other
    exact lags.withShard key (((lags.shardOf key).touch counted).setValue key change)
  delete := by
    intro first second lags key _ _
    rw [delete_eq, delete_eq]
    exact lags.withShard key ((lags.shardOf key).remove key)
  update lags key _ value fresh := lags.update key value fresh
  named lags _ _ _ _ _ := lags.name
  wholly := by
    intro first second lags operation unkeyed _ _
    cases operation with
    | clear => exact ⟨lags.clear, rfl⟩
    | size => exact ⟨lags, congrArg TableAnswer.count lags.size⟩
    | evictions =>
      have same : second.evictions = first.evictions := congrArg UInt64.ofNat lags.evicted
      exact ⟨lags, by simp only [perform, same]⟩
    | _ => cases unkeyed

end Table

end Confinement
