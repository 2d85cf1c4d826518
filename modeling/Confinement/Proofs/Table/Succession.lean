import Confinement.Proofs.Table.Linked
import Confinement.Proofs.Table.Order

/-! What no operation takes back: counters run on, capacities stay, and a shard that is in order
remains so until its counter starts over.
-/

set_option autoImplicit false

namespace Confinement

variable {κ α : Type}

abbrev Shard.Unwrapped (shard : Shard κ α) : Prop :=
  shard.uses < UInt64.size

def Table.Unwrapped (table : Table κ α) : Prop :=
  ∀ shard ∈ table.shards, shard.Unwrapped

instance (table : Table κ α) : Decidable table.Unwrapped :=
  inferInstanceAs (Decidable (∀ shard ∈ table.shards, shard.uses < UInt64.size))

variable [DecidableEq κ]

namespace Shard

structure Follows (before after : Shard κ α) : Prop where
  capacity : after.capacity = before.capacity
  uses : before.uses ≤ after.uses
  bounded : before.Bounded → after.Bounded
  linked : before.Linked → after.Linked
  ordered : after.Unwrapped → before.Ordered → after.Ordered

namespace Follows

theorem refl (shard : Shard κ α) : Follows shard shard :=
  ⟨rfl, Nat.le_refl _, id, id, fun _ => id⟩

theorem trans {before middle after : Shard κ α} (first : Follows before middle)
    (second : Follows middle after) : Follows before after where
  capacity := second.capacity.trans first.capacity
  uses := Nat.le_trans first.uses second.uses
  bounded := second.bounded ∘ first.bounded
  linked := second.linked ∘ first.linked
  ordered fresh ordered :=
    second.ordered fresh (first.ordered (Nat.lt_of_le_of_lt second.uses fresh) ordered)

end Follows

theorem follows_touch (shard : Shard κ α) (key : κ) : Follows shard (shard.touch key).1 where
  capacity := shard.capacity_touch key
  uses := by simp
  bounded bounded := bounded.touch key
  linked linked := linked.touch key
  ordered fresh ordered := ordered.touch (by simpa [Unwrapped] using fresh) key

theorem follows_count (shard : Shard κ α) : Follows shard shard.count where
  capacity := rfl
  uses := Nat.le_succ _
  bounded bounded := ⟨bounded.distinct, bounded.room⟩
  linked linked := linked.count
  ordered _ ordered := ordered.count

theorem follows_setValue (shard : Shard κ α) (key : κ) (change : α → α) :
    Follows shard (shard.setValue key change) where
  capacity := rfl
  uses := Nat.le_refl _
  bounded bounded := bounded.setValue key change
  linked linked := linked.setValue key change
  ordered _ ordered := ordered.setValue key change

theorem follows_remove (shard : Shard κ α) (key : κ) : Follows shard (shard.remove key).1 where
  capacity := shard.capacity_remove key
  uses := by simp
  bounded bounded := bounded.remove key
  linked linked := linked.remove key
  ordered _ ordered := ordered.remove key

theorem follows_insertNew {shard : Shard κ α} {key : κ} (absent : shard.find? key = none)
    (value : α) : Follows shard (shard.insertNew key value).1 where
  capacity := shard.capacity_insertNew key value
  uses := shard.uses_le_insertNew key value
  bounded bounded := bounded.insertNew key value
  linked linked := linked.insertNew absent value
  ordered fresh ordered := by
    by_cases none : shard.capacity = 0
    · rwa [insertNew_none none]
    · exact (ordered.insertNew none absent value fresh).1

theorem follows_clear (shard : Shard κ α) : Follows shard shard.clear where
  capacity := rfl
  uses := Nat.le_refl _
  bounded _ := shard.bounded_clear
  linked _ := shard.linked_clear
  ordered _ _ := shard.ordered_clear

end Shard

namespace Table

abbrev Ordered (table : Table κ α) : Prop :=
  table.Each Shard.Ordered

theorem Each.bounded {table : Table κ α} (ordered : table.Ordered) : table.Bounded :=
  ordered.imp fun _ shard => shard.toBounded

structure Follows (before after : Table κ α) : Prop where
  name : after.name = before.name
  assignment : after.assignment = before.assignment
  evicted : before.evicted ≤ after.evicted
  length : after.shards.length = before.shards.length
  shard : ∀ (index : Nat) (early late : Shard κ α), before.shards[index]? = some early →
    after.shards[index]? = some late → early.Follows late

namespace Follows

theorem refl (table : Table κ α) : Follows table table where
  name := rfl
  assignment := rfl
  evicted := Nat.le_refl _
  length := rfl
  shard index early late first second := by
    rw [first, Option.some.injEq] at second
    exact second ▸ .refl early

theorem trans {before middle after : Table κ α} (first : Follows before middle)
    (second : Follows middle after) : Follows before after where
  name := second.name.trans first.name
  assignment := second.assignment.trans first.assignment
  evicted := Nat.le_trans first.evicted second.evicted
  length := second.length.trans first.length
  shard index early late start finish := by
    have bound : index < middle.shards.length := by
      rw [first.length]
      exact (List.getElem?_eq_some_iff.mp start).1
    have between := List.getElem?_eq_getElem bound
    exact (first.shard index _ _ start between).trans (second.shard index _ _ between finish)

variable {before after : Table κ α}

theorem exists_early (follows : Follows before after) {late : Shard κ α}
    (member : late ∈ after.shards) : ∃ early ∈ before.shards, early.Follows late := by
  obtain ⟨index, bound, rfl⟩ := List.mem_iff_getElem.mp member
  have earlier : index < before.shards.length := follows.length ▸ bound
  exact ⟨_, List.getElem_mem earlier, follows.shard index _ _
    (List.getElem?_eq_getElem earlier) (List.getElem?_eq_getElem bound)⟩

theorem exists_late (follows : Follows before after) {early : Shard κ α}
    (member : early ∈ before.shards) : ∃ late ∈ after.shards, early.Follows late := by
  obtain ⟨index, bound, rfl⟩ := List.mem_iff_getElem.mp member
  have later : index < after.shards.length := follows.length ▸ bound
  exact ⟨_, List.getElem_mem later, follows.shard index _ _
    (List.getElem?_eq_getElem bound) (List.getElem?_eq_getElem later)⟩

theorem unwrapped (follows : Follows before after) (fresh : after.Unwrapped) :
    before.Unwrapped := by
  intro early member
  obtain ⟨late, later, step⟩ := follows.exists_late member
  exact Nat.lt_of_le_of_lt step.uses (fresh late later)

theorem nonempty (follows : Follows before after) (nonempty : before.shards ≠ []) :
    after.shards ≠ [] := by
  rw [← List.length_pos_iff] at nonempty ⊢
  exact follows.length ▸ nonempty

theorem bounded (follows : Follows before after) (bounded : before.Bounded) : after.Bounded where
  nonempty := follows.nonempty bounded.nonempty
  holds late member := by
    obtain ⟨early, earlier, step⟩ := follows.exists_early member
    exact step.bounded (bounded.holds early earlier)

theorem linked (follows : Follows before after) (linked : before.Each Shard.Linked) :
    after.Each Shard.Linked where
  nonempty := follows.nonempty linked.nonempty
  holds late member := by
    obtain ⟨early, earlier, step⟩ := follows.exists_early member
    exact step.linked (linked.holds early earlier)

theorem ordered (follows : Follows before after) (fresh : after.Unwrapped)
    (ordered : before.Ordered) : after.Ordered where
  nonempty := follows.nonempty ordered.nonempty
  holds late member := by
    obtain ⟨early, earlier, step⟩ := follows.exists_early member
    exact step.ordered (fresh late member) (ordered.holds early earlier)

theorem roomy (follows : Follows before after) (roomy : before.Roomy) : after.Roomy where
  nonempty := follows.nonempty roomy.nonempty
  holds late member := by
    obtain ⟨early, earlier, step⟩ := follows.exists_early member
    exact step.capacity ▸ roomy.holds early earlier

theorem shardIndex (follows : Follows before after) (key : κ) :
    after.shardIndex key = before.shardIndex key := by
  rw [Table.shardIndex, Table.shardIndex, follows.assignment, follows.length]

theorem capacity_shardOf (follows : Follows before after) (nonempty : before.shards ≠ []) (key : κ) :
    (after.shardOf key).capacity = (before.shardOf key).capacity := by
  have each : before.Each fun _ => True := ⟨nonempty, fun _ _ => trivial⟩
  have inside := each.index_lt key
  have bound : before.shardIndex key < after.shards.length := follows.length ▸ inside
  have step := follows.shard (before.shardIndex key) _ _ (List.getElem?_eq_getElem inside)
    (List.getElem?_eq_getElem bound)
  simpa [shardOf, follows.shardIndex, inside, bound] using step.capacity

end Follows

theorem follows_withShard (table : Table κ α) (key : κ) {shard : Shard κ α}
    (step : (table.shardOf key).Follows shard) : Follows table (table.withShard key shard) where
  name := rfl
  assignment := rfl
  evicted := Nat.le_refl _
  length := by simp [withShard]
  shard index early late start finish := by
    rw [withShard, List.getElem?_set] at finish
    by_cases same : table.shardIndex key = index
    · have bound := (List.getElem?_eq_some_iff.mp start).1
      have here : table.shardOf key = early := by
        rw [shardOf, List.getD_eq_getElem?_getD, same, start, Option.getD_some]
      rw [if_pos same, if_pos (same ▸ bound), Option.some.injEq] at finish
      exact finish ▸ here ▸ step
    · rw [if_neg same, start, Option.some.injEq] at finish
      exact finish ▸ .refl early

theorem follows_lookup (table : Table κ α) (key : κ) : Follows table (table.lookup key).1 := by
  rw [lookup_eq]
  exact follows_withShard table key (Shard.follows_touch _ key)

theorem follows_modify (table : Table κ α) (key : κ) (change : α → α) :
    Follows table (table.modify key change).1 := by
  rw [modify_eq]
  exact follows_withShard table key
    ((Shard.follows_touch _ key).trans (Shard.follows_setValue _ key change))

theorem follows_delete (table : Table κ α) (key : κ) : Follows table (table.delete key).1 := by
  rw [delete_eq]
  exact follows_withShard table key (Shard.follows_remove _ key)

theorem follows_update (table : Table κ α) (key : κ) (value : α) :
    Follows table (table.update key value).1 := by
  cases present : table.find? key with
  | some old =>
    rw [update_present present]
    exact follows_withShard table key
      ((Shard.follows_touch _ key).trans (Shard.follows_setValue _ key _))
  | none =>
    rw [update_absent present]
    have absent : (table.shardOf key).count.find? key = none := present
    have step := (Shard.follows_count (table.shardOf key)).trans
      (Shard.follows_insertNew absent value)
    cases answer : (table.shardOf key).count.insertNew key value with
    | mk shard result =>
      rw [answer] at step
      have exchanged := follows_withShard table key step
      cases result with
      | error failure => exact exchanged
      | ok dropped =>
        exact { exchanged with evicted := Nat.le_add_right _ _ }

theorem name_update (table : Table κ α) (key : κ) (value : α) :
    (table.update key value).1.name = table.name :=
  (table.follows_update key value).name

theorem follows_clear (table : Table κ α) : Follows table table.clear where
  name := rfl
  assignment := rfl
  evicted := Nat.le_refl _
  length := by simp [clear]
  shard index early late start finish := by
    simp only [clear, List.getElem?_map, start, Option.map_some, Option.some.injEq] at finish
    exact finish ▸ early.follows_clear

theorem follows_perform (table : Table κ α) (operation : TableOperation κ α) :
    Follows table (table.perform operation).1 := by
  cases operation with
  | update key value =>
    have step := table.follows_update key value
    rw [perform]
    split <;> simpa [*] using step
  | lookup key => exact table.follows_lookup key
  | modify key change => exact table.follows_modify key change
  | delete key => exact table.follows_delete key
  | contains key => exact .refl table
  | clear => exact table.follows_clear
  | size => exact .refl table
  | evictions => exact .refl table

theorem evicted_perform (table : Table κ α) {operation : TableOperation κ α}
    (keeps : ∀ key value, operation ≠ .update key value) :
    (table.perform operation).1.evicted = table.evicted := by
  cases operation with
  | update key value => exact absurd rfl (keeps key value)
  | lookup key => exact congrArg (fun result => result.1.evicted) (table.lookup_eq key)
  | modify key change => exact congrArg (fun result => result.1.evicted) (table.modify_eq key change)
  | delete key => exact congrArg (fun result => result.1.evicted) (table.delete_eq key)
  | contains | clear | size | evictions => rfl

theorem follows_run (operations : List (TableOperation κ α)) (table : Table κ α) :
    Follows table (table.run operations).1 := by
  induction operations generalizing table with
  | nil => exact .refl table
  | cons operation rest ih => exact (table.follows_perform operation).trans (ih _)

theorem ordered_run (name : String) (capacity shards : Nat) (assignment : κ → UInt64)
    (operations : List (TableOperation κ α))
    (fresh : ((new name capacity shards assignment).run operations).1.Unwrapped) :
    ((new name capacity shards assignment).run operations).1.Ordered :=
  (follows_run operations _).ordered fresh (each_new name capacity shards assignment Shard.ordered_empty)

theorem run_append (first second : List (TableOperation κ α)) (table : Table κ α) :
    (table.run (first ++ second)).1 = ((table.run first).1.run second).1 := by
  induction first generalizing table with
  | nil => rfl
  | cons operation rest ih => exact ih (table.perform operation).1

/-! ## Uses that add no record -/

variable {β : Type} {part : α → β} {lost other : κ → Prop}

/-- What such uses leave of a table: part of each record as it was, unless the record is lost. -/
structure Spared (part : α → β) (lost : κ → Prop) (before after : Table κ α) : Prop where
  follows : before.Follows after
  evicted : after.evicted = before.evicted
  spared : before.Bounded → ∀ key, lost key ∧ after.find? key = none ∨
    (after.find? key).map part = (before.find? key).map part

abbrev Retained (part : α → β) (before after : Table κ α) : Prop :=
  Spared part (fun _ => False) before after

theorem Retained.found {before after : Table κ α} (retained : Retained part before after)
    (bounded : before.Bounded) (key : κ) :
    (after.find? key).map part = (before.find? key).map part :=
  (retained.spared bounded key).resolve_left fun none => none.1

namespace Spared

theorem refl (table : Table κ α) : Spared part lost table table :=
  ⟨.refl table, rfl, fun _ _ => .inr rfl⟩

theorem trans {before middle after : Table κ α} (first : Spared part lost before middle)
    (second : Spared part lost middle after) : Spared part lost before after where
  follows := first.follows.trans second.follows
  evicted := second.evicted.trans first.evicted
  spared bounded key := by
    rcases second.spared (first.follows.bounded bounded) key with gone | same
    · exact .inl gone
    · rcases first.spared bounded key with ⟨lost, gone⟩ | before
      · rw [gone, Option.map_none, Option.map_eq_none_iff] at same
        exact .inl ⟨lost, same⟩
      · exact .inr (same.trans before)

theorem imp {before after : Table κ α} (spared : Spared part lost before after)
    (weaken : ∀ key, lost key → other key) : Spared part other before after where
  follows := spared.follows
  evicted := spared.evicted
  spared bounded key := (spared.spared bounded key).imp_left (And.imp_left (weaken key))

theorem map {γ : Type} {before after : Table κ α} (spared : Spared part lost before after)
    (smaller : β → γ) : Spared (smaller ∘ part) lost before after where
  follows := spared.follows
  evicted := spared.evicted
  spared bounded key := by
    refine (spared.spared bounded key).imp_right fun same => ?_
    rw [← Option.map_map, same, Option.map_map]

theorem absent {before after : Table κ α} (spared : Spared part lost before after)
    (bounded : before.Bounded) {key : κ} (missing : before.find? key = none) :
    after.find? key = none := by
  rcases spared.spared bounded key with ⟨_, gone⟩ | same
  · exact gone
  · rwa [missing, Option.map_none, Option.map_eq_none_iff] at same

end Spared

theorem spared_lookup (part : α → β) (lost : κ → Prop) (table : Table κ α) (key : κ) :
    Spared part lost table (table.lookup key).1 where
  follows := table.follows_lookup key
  evicted := by rw [lookup_eq]; rfl
  spared bounded other := by rw [bounded.find?_lookup]; exact .inr rfl

theorem spared_modify (lost : κ → Prop) (table : Table κ α) (key : κ) {change : α → α}
    (same : ∀ record, part (change record) = part record) :
    Spared part lost table (table.modify key change).1 where
  follows := table.follows_modify key change
  evicted := by rw [modify_eq]; rfl
  spared bounded other := by
    rw [bounded.find?_modify]
    by_cases changed : other = key
    · rw [if_pos changed, Option.map_map]
      exact .inr (congrArg (Option.map · _) (funext same))
    · rw [if_neg changed]
      exact .inr rfl

theorem spared_delete (part : α → β) (table : Table κ α) (key : κ) :
    Spared part (· = key) table (table.delete key).1 where
  follows := table.follows_delete key
  evicted := by rw [delete_eq]; rfl
  spared bounded other := by
    rw [bounded.find?_delete]
    by_cases gone : other = key
    · rw [if_pos gone]
      exact .inl ⟨gone, rfl⟩
    · rw [if_neg gone]
      exact .inr rfl

end Table

end Confinement
