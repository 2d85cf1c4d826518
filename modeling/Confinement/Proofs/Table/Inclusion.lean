import Confinement.Proofs.Table.Refinement
import Confinement.Proofs.Table.Single

/-! Why a larger table never forgets what a smaller one remembers.

A lookup may find a record in the larger table alone and bring it in front of all others, and a removal
makes room in one table before it does in the other. So the records of the smaller table are not the
first ones of the larger table, but they stand among them in the same order, and no more of them are
missing than the larger table has room for besides.
-/

set_option autoImplicit false

namespace Confinement

open Association (keys)

variable {κ α : Type}

theorem sublist_dropLast {first second : List α} (part : first.Sublist second) :
    first.dropLast.Sublist second.dropLast := by
  rw [← List.reverse_sublist, ← List.tail_reverse, ← List.tail_reverse]
  exact part.reverse.tail

/-! ## Lists of records -/

namespace Recency

structure Within (small large : Recency κ α) : Prop where
  part : small.records.Sublist large.records
  distinct : (keys large.records).Nodup
  narrower : small.capacity ≤ large.capacity
  missing : large.records.length + small.capacity ≤ small.records.length + large.capacity

theorem within_empty {capacity larger : Nat} (narrower : capacity ≤ larger) :
    (⟨capacity, []⟩ : Recency κ α).Within ⟨larger, []⟩ :=
  ⟨.slnil, List.nodup_nil, narrower, by simpa using narrower⟩

variable {small large : Recency κ α} {key : κ} {value : α}

theorem Within.distinct_part (within : small.Within large) : (keys small.records).Nodup :=
  (Association.keys_sublist within.part).nodup within.distinct

theorem Within.full (within : small.Within large)
    (full : large.capacity ≤ large.records.length) : small.capacity ≤ small.records.length := by
  have missing := within.missing
  omega

variable [DecidableEq κ]

theorem touch_absent {recency : Recency κ α} (absent : recency.find? key = none)
    (change : α → α) : recency.touch key change = recency := by
  rw [touch, absent]

theorem touch_present {recency : Recency κ α} (present : recency.find? key = some value)
    (change : α → α) :
    recency.touch key change =
      { recency with records := Association.put key (change value) recency.records } := by
  rw [touch, present]

theorem length_put {recency : Recency κ α} (distinct : (keys recency.records).Nodup)
    (present : recency.find? key = some value) (other : α) :
    (Association.put key other recency.records).length = recency.records.length :=
  Association.length_erase distinct (Association.mem_keys_of_mem (Association.mem_of_find? present))

namespace Within

theorem find? (within : small.Within large) (found : small.find? key = some value) :
    large.find? key = some value :=
  Association.find?_of_sublist within.distinct within.part found

theorem absent (within : small.Within large) (absent : large.find? key = none) :
    small.find? key = none := by
  cases found : small.find? key with
  | none => rfl
  | some value =>
    rw [within.find? found] at absent
    cases absent

theorem touch (within : small.Within large) (key : κ) (change : α → α) :
    (small.touch key change).Within (large.touch key change) := by
  cases known : large.find? key with
  | none => rwa [touch_absent known, touch_absent (within.absent known)]
  | some value =>
    have kept := length_put within.distinct known (change value)
    have erased : (Association.erase key small.records).Sublist
        (Association.erase key large.records) := within.part.filter _
    rw [touch_present known]
    cases found : small.find? key with
    | none =>
      -- The larger list alone brings a record to its front.
      rw [Association.erase_of_absent ((Association.find?_eq_none_iff _ _).mp found)] at erased
      rw [touch_absent found]
      exact ⟨erased.cons _, Association.nodup_put within.distinct, within.narrower,
        kept.symm ▸ within.missing⟩
    | some old =>
      have same : value = old := Option.some.inj (known.symm.trans (within.find? found))
      subst same
      have again := length_put within.distinct_part found (change value)
      rw [touch_present found]
      exact ⟨erased.cons_cons _, Association.nodup_put within.distinct, within.narrower,
        by rw [kept, again]; exact within.missing⟩

theorem length_erase (within : small.Within large) (key : κ) :
    (Association.erase key large.records).length + small.capacity ≤
      (Association.erase key small.records).length + large.capacity := by
  have missing := within.missing
  have shorter := (Association.erase_sublist key large.records).length_le
  cases found : small.find? key with
  | none =>
    rw [Association.erase_of_absent ((Association.find?_eq_none_iff _ _).mp found)]
    omega
  | some value =>
    have few := length_put within.distinct_part found value
    have many := length_put within.distinct (within.find? found) value
    simp only [Association.put, List.length_cons] at few many
    omega

theorem erase (within : small.Within large) (key : κ) : (small.erase key).Within (large.erase key) :=
  ⟨within.part.filter _, Association.nodup_erase within.distinct, within.narrower,
    within.length_erase key⟩

theorem insertNew (within : small.Within large) (some : small.capacity ≠ 0)
    (absent : large.find? key = none) (value : α) :
    (small.insertNew key value).Within (large.insertNew key value) := by
  have missing := within.missing
  have fresh : key ∉ keys large.records := (Association.find?_eq_none_iff _ _).mp absent
  have narrower := within.narrower
  have positive := Nat.pos_of_ne_zero some
  unfold Recency.insertNew
  by_cases room : large.records.length < large.capacity
  · rw [if_pos room]
    refine ⟨?_, List.nodup_cons.mpr ⟨fresh, within.distinct⟩, narrower, ?_⟩
    · split
      · exact within.part.cons_cons _
      · exact ((List.dropLast_sublist _).trans within.part).cons_cons _
    · split <;> simp only [List.length_cons, List.length_dropLast] <;> omega
  · have full := within.full (Nat.not_lt.mp room)
    rw [if_neg room, if_neg (Nat.not_lt.mpr full)]
    have kept := Association.keys_sublist (List.dropLast_sublist large.records)
    refine ⟨(sublist_dropLast within.part).cons_cons _,
      List.nodup_cons.mpr ⟨fun member => fresh (kept.subset member), kept.nodup within.distinct⟩,
      narrower, ?_⟩
    simp only [List.length_cons, List.length_dropLast]
    omega

/-- A record that is new to the smaller list alone comes in front of it, as it does in the other. -/
theorem insertNew_touch (within : small.Within large)
    (absent : small.find? key = none) {old : α} (present : large.find? key = some old) (value : α) :
    (small.insertNew key value).Within (large.touch key fun _ => value) := by
  have missing := within.missing
  have kept := length_put within.distinct present value
  have erased : (Association.erase key small.records).Sublist
      (Association.erase key large.records) := within.part.filter _
  rw [Association.erase_of_absent ((Association.find?_eq_none_iff _ _).mp absent)] at erased
  rw [touch_present present, Recency.insertNew]
  refine ⟨?_, Association.nodup_put within.distinct, within.narrower, ?_⟩
  · split
    · exact erased.cons_cons _
    · exact ((List.dropLast_sublist _).trans erased).cons_cons _
  · rw [kept]
    split <;> simp only [List.length_cons, List.length_dropLast] <;> omega

end Within

end Recency

/-! ## Tables without ticks -/

namespace RecencyTable

inductive Within : RecencyTable κ α → RecencyTable κ α → Prop where
  | intro {assignment reassignment : κ → UInt64} {small large : Recency κ α} {lost fewer : Nat}
      (within : small.Within large) (some : small.capacity ≠ 0) (spared : fewer ≤ lost) :
      Within ⟨assignment, [small], lost⟩ ⟨reassignment, [large], fewer⟩

@[simp] theorem shardOf_single (assignment : κ → UInt64) (shard : Recency κ α) (lost : Nat)
    (key : κ) : (⟨assignment, [shard], lost⟩ : RecencyTable κ α).shardOf key = shard := by
  simp [shardOf, shardIndex, Nat.mod_one]

@[simp] theorem withShard_single (assignment : κ → UInt64) (shard other : Recency κ α) (lost : Nat)
    (key : κ) :
    (⟨assignment, [shard], lost⟩ : RecencyTable κ α).withShard key other =
      ⟨assignment, [other], lost⟩ := by
  simp [withShard, shardIndex, Nat.mod_one]

theorem within_new {capacity larger : Nat} (some : capacity ≠ 0) (narrower : capacity ≤ larger)
    (assignment reassignment : κ → UInt64) :
    (new capacity 1 assignment : RecencyTable κ α).Within (new larger 1 reassignment) := by
  have one : ∀ capacity, Table.shardCapacities capacity 1 = [capacity] := by
    intro capacity
    simp [Table.shardCapacities, Nat.mod_one]
  rw [new, new, one, one]
  exact .intro (Recency.within_empty narrower) some (Nat.le_refl 0)

variable [DecidableEq κ] {small large : RecencyTable κ α}

@[simp] theorem capacity_touch (recency : Recency κ α) (key : κ) (change : α → α) :
    (recency.touch key change).capacity = recency.capacity := by
  rw [Recency.touch]
  cases recency.find? key <;> rfl

theorem Within.update (within : small.Within large) (key : κ) (value : α) :
    (small.perform (.update key value)).1.Within (large.perform (.update key value)).1 := by
  obtain @⟨assignment, reassignment, small, large, lost, fewer, within, some, spared⟩ := within
  have roomy : large.capacity ≠ 0 := by
    have narrower := within.narrower
    omega
  cases known : large.find? key with
  | some old =>
    cases found : small.find? key with
    | some other =>
      simp only [perform, shardOf_single, known, found, withShard_single]
      exact .intro (within.touch key _) (by simpa using some) spared
    | none =>
      simp only [perform, shardOf_single, known, found, withShard_single, if_neg some]
      exact .intro (within.insertNew_touch found known value) some (by omega)
  | none =>
    have full := within.full
    simp only [perform, shardOf_single, known, within.absent known, withShard_single, if_neg some,
      if_neg roomy]
    refine .intro (within.insertNew some known value) some ?_
    split <;> split <;> omega

theorem Within.perform (within : small.Within large) (operation : TableOperation κ α) :
    (small.perform operation).1.Within (large.perform operation).1 := by
  cases operation with
  | update key value => exact within.update key value
  | contains | size | evictions => exact within
  | lookup key =>
    obtain ⟨within, some, spared⟩ := within
    simp only [RecencyTable.perform, shardOf_single, withShard_single]
    exact .intro (within.touch key id) (by simpa using some) spared
  | modify key change =>
    obtain ⟨within, some, spared⟩ := within
    simp only [RecencyTable.perform, shardOf_single, withShard_single]
    exact .intro (within.touch key change) (by simpa using some) spared
  | delete key =>
    obtain ⟨within, some, spared⟩ := within
    simp only [RecencyTable.perform, shardOf_single, withShard_single]
    exact .intro (within.erase key) some spared
  | clear =>
    obtain ⟨within, some, spared⟩ := within
    exact .intro (Recency.within_empty within.narrower) some spared

theorem Within.run (within : small.Within large) (operations : List (TableOperation κ α)) :
    (small.run operations).1.Within (large.run operations).1 := by
  induction operations generalizing small large with
  | nil => exact within
  | cons operation rest ih => exact ih (within.perform operation)

end RecencyTable

/-! ## Tables with ticks -/

namespace Table

variable {table small large : Table κ α}

inductive Tallied (table : Table κ α) : Prop where
  | intro {shard : Shard κ α} (shards : table.shards = [shard]) (few : table.evicted ≤ shard.uses) :
      Tallied table

theorem shardOf_of_single {shard : Shard κ α} (shards : table.shards = [shard]) (key : κ) :
    table.shardOf key = shard := by
  have index : table.shardIndex key = 0 := by simp [shardIndex, shards, Nat.mod_one]
  rw [shardOf, index, shards]
  rfl

theorem tallied_new (name : String) (capacity : Nat) (assignment : κ → UInt64) :
    (new name capacity 1 assignment : Table κ α).Tallied := by
  have shards : (new name capacity 1 assignment : Table κ α).shards = [.empty capacity] := by
    simp [new, shardCapacities, Nat.mod_one]
  exact .intro shards (Nat.zero_le _)

/-- The counter of evictions has not started over if that of the uses has not. -/
theorem Tallied.toNat_evictions (tallied : table.Tallied) (fresh : table.Unwrapped) :
    table.evictions.toNat = table.evicted := by
  obtain ⟨shards, few⟩ := tallied
  exact UInt64.toNat_ofNat_of_lt' (Nat.lt_of_le_of_lt few (fresh _ (by simp [shards])))

variable [DecidableEq κ]

theorem Each.uses_update {required : Shard κ α → Prop} (each : table.Each required) (key : κ)
    (value : α) :
    (table.update key value).1.evicted ≤ table.evicted + 1 ∧
      (table.shardOf key).uses + 1 ≤ ((table.update key value).1.shardOf key).uses := by
  cases present : table.find? key with
  | some old =>
    rw [update_present present, each.shardOf_withShard, if_pos rfl]
    exact ⟨Nat.le_succ _, by simp⟩
  | none =>
    have counted := (table.shardOf key).count.uses_le_insertNew key value
    have exchanged := each.shardOf_withShard key key
    rw [update_absent present]
    cases answer : (table.shardOf key).count.insertNew key value with
    | mk shard result =>
      specialize exchanged shard
      rw [if_pos rfl] at exchanged
      rw [answer] at counted
      replace counted := le_of_le_of_eq counted (congrArg Shard.uses exchanged).symm
      cases result with
      | error failure => exact ⟨Nat.le_succ _, counted⟩
      | ok dropped =>
        refine ⟨?_, counted⟩
        cases dropped <;> simp

theorem Tallied.perform (tallied : table.Tallied) (operation : TableOperation κ α) :
    (table.perform operation).1.Tallied := by
  obtain @⟨shard, shards, few⟩ := tallied
  have follows := table.follows_perform operation
  have one : (table.perform operation).1.shards.length = 1 := by rw [follows.length, shards]; rfl
  obtain ⟨later, changed⟩ := List.length_eq_one_iff.mp one
  refine ⟨changed, ?_⟩
  by_cases updates : ∃ key value, operation = .update key value
  · obtain ⟨key, value, rfl⟩ := updates
    rw [perform_update] at changed ⊢
    have some : table.Each fun _ => True := ⟨by simp [shards], fun _ _ => trivial⟩
    have counted := some.uses_update key value
    rw [shardOf_of_single shards, shardOf_of_single changed] at counted
    exact Nat.le_trans counted.1 (Nat.le_trans (Nat.succ_le_succ few) counted.2)
  · rw [table.evicted_perform fun key value same => updates ⟨key, value, same⟩]
    have step := follows.shard 0 shard later (by simp [shards]) (by simp [changed])
    exact Nat.le_trans few step.uses

theorem Tallied.run (tallied : table.Tallied) (operations : List (TableOperation κ α)) :
    (table.run operations).1.Tallied := by
  induction operations generalizing table with
  | nil => exact tallied
  | cons operation rest ih => exact ih (tallied.perform operation)

def byUse (table : Table κ α) : List (κ × α) :=
  table.recency.shards.flatMap Recency.records

/-- The second table holds all that the first one does, in the same order of use, and has dropped no more
records. -/
structure Remembered (small large : Table κ α) : Prop where
  found : ∀ key value, small.find? key = some value → large.find? key = some value
  order : small.byUse.Sublist large.byUse
  evictions : large.evictions ≤ small.evictions

theorem remembered_of_within (ordered : small.Ordered) (again : large.Ordered)
    (within : small.recency.Within large.recency) (counted : small.evictions.toNat = small.evicted)
    (recounted : large.evictions.toNat = large.evicted) : small.Remembered large := by
  have found := ordered.find?_recency
  have known := again.find?_recency
  have lost : small.recency.evictions = small.evicted := rfl
  have fewer : large.recency.evictions = large.evicted := rfl
  have records : small.byUse = small.recency.shards.flatMap Recency.records := rfl
  have others : large.byUse = large.recency.shards.flatMap Recency.records := rfl
  generalize small.recency = first at *
  generalize large.recency = second at *
  obtain ⟨within, _, spared⟩ := within
  simp only [RecencyTable.shardOf_single] at found known
  constructor
  case found =>
    intro key value present
    rw [← found] at present
    rw [← known]
    exact within.find? present
  case order =>
    rw [records, others]
    simpa using within.part
  case evictions =>
    rw [UInt64.le_iff_toNat_le, counted, recounted, ← lost, ← fewer]
    exact spared

/-- As long as no counter has started over, a table of one shard remembers at any time all that a smaller
one does after the same operations. -/
theorem remembered_of_larger {capacity larger : Nat} (some : 1 ≤ capacity)
    (narrower : capacity ≤ larger) (name other : String) (assignment reassignment : κ → UInt64)
    (operations : List (TableOperation κ α))
    (fresh : ((new name capacity 1 assignment).run operations).1.Unwrapped)
    (again : ((new other larger 1 reassignment).run operations).1.Unwrapped)
    (early : List (TableOperation κ α)) (earlier : early <+: operations) :
    ((new name capacity 1 assignment).run early).1.Remembered
      ((new other larger 1 reassignment).run early).1 := by
  obtain ⟨rest, rfl⟩ := earlier
  rw [run_append] at fresh again
  replace fresh := (follows_run rest _).unwrapped fresh
  replace again := (follows_run rest _).unwrapped again
  have within := (RecencyTable.within_new (α := α) (Nat.one_le_iff_ne_zero.mp some) narrower assignment
    reassignment).run early
  have small : (new name capacity 1 assignment : Table κ α).Ordered :=
    each_new name capacity 1 assignment Shard.ordered_empty
  have large : (new other larger 1 reassignment : Table κ α).Ordered :=
    each_new other larger 1 reassignment Shard.ordered_empty
  rw [← recency_new name, ← recency_new other, ← (recency_run early small fresh).1,
    ← (recency_run early large again).1] at within
  exact remembered_of_within (ordered_run name capacity 1 assignment early fresh)
    (ordered_run other larger 1 reassignment early again) within
    (((tallied_new name capacity assignment).run early).toNat_evictions fresh)
    (((tallied_new other larger reassignment).run early).toNat_evictions again)

/-- The larger table alone still finds the first record, and drops it later, where the smaller one drops
another. -/
theorem remembered_of_larger_lookup :
    let operations : List (TableOperation Nat Nat) :=
      [.update 1 10, .update 2 20, .update 3 30, .lookup 1, .delete 2, .update 4 40, .modify 3 (· + 1),
        .update 5 50]
    let small := ((new "small" 2 1 fun _ => 0).run operations).1
    let large := ((new "large" 3 1 fun _ => 0).run operations).1
    small.byUse = [(5, 50), (3, 31)] ∧ large.byUse = [(5, 50), (3, 31), (4, 40)] ∧
      small.Remembered large :=
  ⟨by decide +kernel, by decide +kernel,
    remembered_of_larger (by decide) (by decide) "small" "large" (fun _ => 0) (fun _ => 0)
      [.update 1 10, .update 2 20, .update 3 30, .lookup 1, .delete 2, .update 4 40, .modify 3 (· + 1),
        .update 5 50]
      (by decide +kernel) (by decide +kernel) _ (List.prefix_refl _)⟩

end Table

end Confinement
