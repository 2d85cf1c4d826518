import Confinement.Proofs.Table.Correspondence
import Confinement.Proofs.Table.Refinement

/-! Tables that hold the same records under some of their keys, whatever they hold under the others.

What a use of a key answers, and what it makes of the record, is a matter of this record alone, as long as
no record gives way to another: then it does not matter which of them was used least recently.
-/

set_option autoImplicit false

namespace Confinement.Table

variable {κ α : Type} [DecidableEq κ] {keys : κ → Prop} {first second third later others : Table κ α}
  {key : κ}

/-! ## Updates that nothing gives way to -/

/-- An update that nothing gives way to is refused if the shard has no room at all, and else it is all that
it seems. -/
theorem Each.update_kept (linked : first.Each Shard.Linked) {value : α}
    (kept : (first.update key value).1.evicted = first.evicted) :
    (first.update key value).2 =
        (if (first.shardOf key).capacity = 0 then .error ⟨0⟩ else .ok (first.find? key)) ∧
      ∀ other, (first.update key value).1.find? other =
        if other = key ∧ (first.shardOf key).capacity ≠ 0 then some value else first.find? other := by
  have bounded : first.Bounded := bounded_of_linked linked
  have updated := updated_update bounded key value
  by_cases none : (first.shardOf key).capacity = 0
  · have absent : first.find? key = .none := by
      have room := (bounded.shardOf key).room
      rw [none, Nat.le_zero, List.length_eq_zero_iff] at room
      simp [find?, Shard.find?, room, Association.find?]
    rw [update_none absent none] at updated ⊢
    cases updated with
    | refused _ _ found _ => simpa [none] using found
  · have taken := linked.update_taken none value
    generalize (first.update key value).2 = answer at updated taken ⊢
    obtain ⟨previous, rfl⟩ := taken
    cases updated with
    | replaced present found _ => simpa [none, present] using found
    | inserted absent found _ => simpa [none, absent] using found
    | evicting _ _ _ _ evicted => omega

/-! ## The same records under some keys -/

structure Shares (keys : κ → Prop) (first second : Table κ α) : Prop where
  name : second.name = first.name
  capacity : ∀ key, (second.shardOf key).capacity = (first.shardOf key).capacity
  linked : first.Each Shard.Linked
  other : second.Each Shard.Linked
  found : ∀ key, keys key → second.find? key = first.find? key

namespace Shares

theorem symm (shares : first.Shares keys second) : second.Shares keys first where
  name := shares.name.symm
  capacity key := (shares.capacity key).symm
  linked := shares.other
  other := shares.linked
  found key member := (shares.found key member).symm

theorem trans (shares : first.Shares keys second) (again : second.Shares keys third) :
    first.Shares keys third where
  name := again.name.trans shares.name
  capacity key := (again.capacity key).trans (shares.capacity key)
  linked := shares.linked
  other := again.other
  found key member := (again.found key member).trans (shares.found key member)

theorem of_found (shares : first.Shares keys second) {all : κ → Prop}
    (found : ∀ key, all key → second.find? key = first.find? key) : first.Shares all second :=
  { shares with found }

theorem of_follows (follows : first.Follows later) (linked : first.Each Shard.Linked)
    (found : ∀ key, keys key → later.find? key = first.find? key) : first.Shares keys later :=
  ⟨follows.name, follows.capacity_shardOf linked.nonempty, linked, follows.linked linked, found⟩

theorem step (shares : first.Shares keys second) (follows : first.Follows later)
    (following : second.Follows others)
    (found : ∀ key, keys key → others.find? key = later.find? key) : later.Shares keys others where
  name := following.name.trans (shares.name.trans follows.name.symm)
  capacity key := by
    rw [following.capacity_shardOf shares.other.nonempty, shares.capacity,
      follows.capacity_shardOf shares.linked.nonempty]
  linked := follows.linked shares.linked
  other := following.linked shares.other
  found := found

theorem update (shares : first.Shares keys second) (member : keys key) (value : α)
    (kept : (first.update key value).1.evicted = first.evicted)
    (again : (second.update key value).1.evicted = second.evicted) :
    (first.update key value).1.Shares keys (second.update key value).1 ∧
      (second.update key value).2 = (first.update key value).2 := by
  obtain ⟨answer, left⟩ := shares.linked.update_kept kept
  obtain ⟨reply, right⟩ := shares.other.update_kept again
  refine ⟨shares.step (first.follows_update key value) (second.follows_update key value)
    fun other inside => ?_, ?_⟩
  · rw [left, right, shares.capacity, shares.found other inside]
  · rw [answer, reply, shares.capacity, shares.found key member]

end Shares

def sharing (keys : κ → Prop) (early late : Nat) : Correspondence κ α where
  alike first second := first.Shares keys second ∧ early ≤ first.evicted ∧ late ≤ second.evicted
  asked := keys
  stored := keys
  whole _ := False
  allowed first second := first.evicted ≤ early ∧ second.evicted ≤ late
  allowed_of_follows := by
    rintro first second later others follows following ⟨few, less⟩
    exact ⟨Nat.le_trans follows.evicted few, Nat.le_trans following.evicted less⟩
  bounded := by
    rintro first second ⟨shares, _⟩
    exact ⟨bounded_of_linked shares.linked, bounded_of_linked shares.other⟩
  found := by
    rintro first second ⟨shares, _⟩ key member
    exact shares.found key member
  lookup := by
    rintro first second ⟨shares, counted⟩ key member _
    refine ⟨shares.step (first.follows_lookup key) (second.follows_lookup key)
      fun other inside => ?_, ?_⟩
    · rw [shares.linked.find?_lookup, shares.other.find?_lookup, shares.found other inside]
    · rwa [lookup_eq, lookup_eq]
  modify := by
    rintro first second ⟨shares, counted⟩ key member change _
    refine ⟨shares.step (first.follows_modify key change) (second.follows_modify key change)
      fun other inside => ?_, ?_⟩
    · rw [shares.linked.find?_modify, shares.other.find?_modify, shares.found other inside]
    · rwa [modify_eq, modify_eq]
  delete := by
    rintro first second ⟨shares, counted⟩ key member _
    refine ⟨shares.step (first.follows_delete key) (second.follows_delete key)
      fun other inside => ?_, ?_⟩
    · rw [shares.linked.find?_delete, shares.other.find?_delete, shares.found other inside]
    · rwa [delete_eq, delete_eq]
  update := by
    rintro first second ⟨shares, counted⟩ key member value ⟨few, less⟩
    have follows := first.follows_update key value
    have following := second.follows_update key value
    obtain ⟨updated, answer⟩ := shares.update member value
      (Nat.le_antisymm (Nat.le_trans few counted.1) follows.evicted)
      (Nat.le_antisymm (Nat.le_trans less counted.2) following.evicted)
    exact ⟨⟨updated, Nat.le_trans counted.1 follows.evicted,
      Nat.le_trans counted.2 following.evicted⟩, answer⟩
  named := by
    rintro first second ⟨shares, _⟩ _ _ _ _ _
    exact shares.name
  wholly _ _ _ uses _ := uses.elim

end Confinement.Table
