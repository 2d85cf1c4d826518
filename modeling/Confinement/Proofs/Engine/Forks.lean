import Confinement.Proofs.Engine.Reachable
import Confinement.Proofs.Table.Spacious
import Confinement.Proofs.Table.Turnover

/-! What a fork does to the records of tasks.

The parent is looked up before the child takes its place, and so is used more recently than any other task by
then. It gives way to its child only where the two of them have a shard of one place to themselves.
-/

set_option autoImplicit false

namespace Confinement

open Association (keys)

namespace Tracker

/-- A tracker with room for tasks, put to any use, alone or in an engine. -/
inductive Reachable : Tracker → Prop where
  | new (name : String) {capacity : Nat} (some : 1 ≤ capacity) (shards : Nat)
      (assignment : UInt32 → UInt64) (profiles : ProfileTable) :
      Reachable ⟨.new name capacity shards assignment, profiles⟩
  | create {tracker : Tracker} (reachable : tracker.Reachable) (parent child group : UInt32) :
      Reachable (tracker.create parent child group).value.1
  | load {tracker : Tracker} (reachable : tracker.Reachable) (tid : UInt32) (executable : Executable) :
      Reachable (tracker.load tid executable).value.1
  | exit {tracker : Tracker} (reachable : tracker.Reachable) (tid : UInt32) :
      Reachable (tracker.exit tid).value.1
  | shared {tracker : Tracker} (reachable : tracker.Reachable)
      (operation : TableOperation UInt32 ProcessState) (profiles : ProfileTable) :
      Reachable ⟨(tracker.processes.perform operation).1, profiles⟩
  | engine {engine : Engine} (reachable : engine.Reachable) (some : 1 ≤ engine.config.maxProcesses) :
      Reachable engine.tracker

/-- What a fork comes to, with the records that it leaves. -/
structure Forks (tracker : Tracker) (parent child group : UInt32) (after : ProcessTable) : Prop where
  answer : (tracker.create parent child group).value = ({ tracker with processes := after },
    .ok ⟨child, group, child, tracker.profileOf parent, false⟩)
  stored : after.find? child = some ⟨child, group, child, tracker.profileOf parent, false⟩
  kept : ∀ tid, tid ≠ child → after.find? tid ≠ none → after.find? tid = tracker.processes.find? tid
  lost_iff : ∀ tid, tid ≠ child → tracker.processes.find? tid ≠ none → (after.find? tid = none ↔
    tracker.processes.find? child = none ∧
      tracker.processes.shardIndex tid = tracker.processes.shardIndex child ∧
      (tracker.processes.shardOf child).size = (tracker.processes.shardOf child).capacity ∧
      (keys ((tracker.processes.lookup parent).1.orderOf child).records).getLast? = some tid)
  one : ∀ first second, first ≠ child → second ≠ child → tracker.processes.find? first ≠ none →
    tracker.processes.find? second ≠ none → after.find? first = none → after.find? second = none →
    first = second
  alone : parent ≠ child → tracker.processes.find? parent ≠ none → after.find? parent = none →
    (tracker.processes.shardOf child).capacity = 1 ∧
      tracker.processes.shardIndex parent = tracker.processes.shardIndex child ∧
      keys (tracker.processes.orderOf child).records = [parent]
  order : ∀ tid, ((after.orderOf tid).records.filter fun pair =>
    pair.1 ≠ parent ∧ pair.1 ≠ child).Sublist (tracker.processes.orderOf tid).records
  served : ∀ engine : Engine, engine.tracker = tracker →
    (engine.perform (.event (.processCreate parent child group))).value =
      ({ engine with tracker := { tracker with processes := after } },
        .outcome (.tracked ⟨child, group, child, tracker.profileOf parent, false⟩))

variable {tracker : Tracker} {parent child group : UInt32}

theorem Reachable.follows (reachable : tracker.Reachable) : ∃ name capacity shards assignment,
    1 ≤ capacity ∧ Table.Follows (.new name capacity shards assignment) tracker.processes := by
  induction reachable with
  | new name some shards assignment profiles => exact ⟨_, _, _, _, some, .refl _⟩
  | create reachable parent child group ih =>
    obtain ⟨name, capacity, shards, assignment, some, follows⟩ := ih
    exact ⟨_, _, _, _, some, follows.trans (follows_create _ parent child group)⟩
  | load reachable tid executable ih =>
    obtain ⟨name, capacity, shards, assignment, some, follows⟩ := ih
    have bounded := follows.bounded (Table.each_new _ _ _ _ Shard.bounded_empty)
    exact ⟨_, _, _, _, some, follows.trans (retained_load bounded tid executable).follows⟩
  | exit reachable tid ih =>
    obtain ⟨name, capacity, shards, assignment, some, follows⟩ := ih
    exact ⟨_, _, _, _, some, follows.trans (Table.follows_delete _ tid)⟩
  | shared reachable operation profiles ih =>
    obtain ⟨name, capacity, shards, assignment, some, follows⟩ := ih
    exact ⟨_, _, _, _, some, follows.trans (Table.follows_perform _ operation)⟩
  | engine reachable some =>
    obtain ⟨assignments, follows, _⟩ := reachable.origins
    exact ⟨_, _, _, _, some, follows⟩

theorem value_create_taken (linked : tracker.processes.Each Shard.Linked) (roomy : tracker.processes.Roomy)
    (parent child group : UInt32) :
    (tracker.create parent child group).value =
      ({ tracker with processes := (tracker.create parent child group).value.1.processes },
        .ok ⟨child, group, child, tracker.profileOf parent, false⟩) := by
  have looked := tracker.processes.follows_lookup parent
  obtain ⟨previous, taken⟩ := (looked.linked linked).update_ok (looked.roomy roomy) child
    (tracker.newborn parent child group)
  refine Prod.ext ?_ (create_taken taken)
  rw [processes_create, value_create]

/-- Only a task that is new to a full shard costs another one, which is the one that was used least recently
once the parent was looked up. -/
theorem lost_create_iff (ordered : tracker.processes.Ordered) (roomy : tracker.processes.Roomy)
    (fresh : (tracker.create parent child group).value.1.processes.Unwrapped) {tid : UInt32}
    (different : tid ≠ child) (found : tracker.processes.find? tid ≠ none) :
    (tracker.create parent child group).value.1.processes.find? tid = none ↔
      tracker.processes.find? child = none ∧
        tracker.processes.shardIndex tid = tracker.processes.shardIndex child ∧
        (tracker.processes.shardOf child).size = (tracker.processes.shardOf child).capacity ∧
        (keys ((tracker.processes.lookup parent).1.orderOf child).records).getLast? = some tid := by
  have looked := tracker.processes.follows_lookup parent
  rw [processes_create] at fresh ⊢
  have middle := (Table.follows_update _ child _).unwrapped fresh
  have room := (looked.roomy roomy).shardOf child
  have full : (tracker.processes.shardOf child).capacity ≤ (tracker.processes.shardOf child).size ↔
      (tracker.processes.shardOf child).size = (tracker.processes.shardOf child).capacity :=
    ⟨Nat.le_antisymm (ordered.shardOf child).room, fun same => Nat.le_of_eq same.symm⟩
  rw [← ordered.find?_lookup parent] at found
  rw [(looked.ordered middle ordered).lost_update_iff room fresh different found, ordered.find?_lookup,
    looked.shardIndex, looked.shardIndex, looked.capacity_shardOf ordered.nonempty,
    ordered.size_shardOf_lookup, full]

theorem kept_of_found (bounded : tracker.processes.Bounded) {tid : UInt32} (different : tid ≠ child)
    (found : (tracker.create parent child group).value.1.processes.find? tid ≠ none) :
    (tracker.create parent child group).value.1.processes.find? tid = tracker.processes.find? tid := by
  have updated := updated_create bounded parent child group
  obtain ⟨record, present⟩ := Option.ne_none_iff_exists'.mp found
  rcases updated.origin present with ⟨same, _⟩ | ⟨_, before⟩
  · exact absurd same different
  · rw [present, ← before, bounded.find?_lookup]

/-- A parent that gives way to its child had a shard of one place to itself. -/
theorem alone_of_lost (ordered : tracker.processes.Ordered) (roomy : tracker.processes.Roomy)
    (fresh : (tracker.create parent child group).value.1.processes.Unwrapped) (different : parent ≠ child)
    (found : tracker.processes.find? parent ≠ none)
    (gone : (tracker.create parent child group).value.1.processes.find? parent = none) :
    (tracker.processes.shardOf child).capacity = 1 ∧
      tracker.processes.shardIndex parent = tracker.processes.shardIndex child ∧
      keys (tracker.processes.orderOf child).records = [parent] := by
  obtain ⟨_, same, full, last⟩ := (lost_create_iff ordered roomy fresh different found).mp gone
  rw [processes_create] at fresh
  have middle := (Table.follows_update _ child _).unwrapped fresh
  have sound := ordered.sound_orderOf child
  have shared := Table.orderOf_congr same
  rw [← ordered.find?_orderOf parent, shared] at found
  obtain ⟨record, present⟩ := Option.ne_none_iff_exists'.mp found
  rw [ordered.orderOf_lookup parent middle, if_pos same.symm, shared] at last
  have single := sound.single_of_last present last
  have size : (tracker.processes.orderOf child).records.length = (tracker.processes.shardOf child).size :=
    (ordered.shardOf child).length_records
  have one := congrArg List.length single
  rw [keys, List.length_map, size, full] at one
  exact ⟨one, same, single⟩

theorem order_create (ordered : tracker.processes.Ordered) (roomy : tracker.processes.Roomy)
    (fresh : (tracker.create parent child group).value.1.processes.Unwrapped) (tid : UInt32) :
    (((tracker.create parent child group).value.1.processes.orderOf tid).records.filter fun pair =>
      pair.1 ≠ parent ∧ pair.1 ≠ child).Sublist (tracker.processes.orderOf tid).records := by
  have looked := tracker.processes.follows_lookup parent
  rw [processes_create] at fresh ⊢
  have middle := (Table.follows_update _ child _).unwrapped fresh
  have updated := (looked.ordered middle ordered).sublist_update ((looked.roomy roomy).shardOf child)
    fresh tid
  have used := ordered.sublist_lookup middle tid
  simp only [Bool.decide_and]
  rw [← List.filter_filter]
  exact (updated.filter _).trans used

/-- A fork never fails, costs one other task at most, and leaves the rest of the records as they were and in
their order. -/
theorem forks_of_reachable (reachable : tracker.Reachable) (parent child group : UInt32)
    (fresh : (tracker.create parent child group).value.1.processes.Unwrapped) :
    tracker.Forks parent child group (tracker.create parent child group).value.1.processes := by
  obtain ⟨name, capacity, shards, assignment, some, follows⟩ := reachable.follows
  have before := (tracker.follows_create parent child group).unwrapped fresh
  have ordered := follows.ordered before (Table.each_new _ _ _ _ Shard.ordered_empty)
  have linked := follows.linked (Table.each_new _ _ _ _ Shard.linked_empty)
  have roomy := follows.roomy (Table.roomy_new name some shards assignment)
  have answer := value_create_taken linked roomy parent child group
  constructor
  case answer => exact answer
  case stored => exact (find?_created ordered.bounded (congrArg Prod.snd answer)).1
  case kept => exact fun tid different found => kept_of_found ordered.bounded different found
  case lost_iff => exact fun tid different found => lost_create_iff ordered roomy fresh different found
  case one =>
    intro first second other another found present gone lost
    have last := ((lost_create_iff ordered roomy fresh other found).mp gone).2.2.2
    rw [((lost_create_iff ordered roomy fresh another present).mp lost).2.2.2, Option.some.injEq] at last
    exact last.symm
  case alone => exact alone_of_lost ordered roomy fresh
  case order => exact order_create ordered roomy fresh
  case served =>
    rintro engine rfl
    simp only [Engine.perform, Engine.handle, Logged.value_bind, Logged.value_pure]
    rw [answer]
    rfl

/-- With two places in two shards, a task gives way to its child, though the other place is free. -/
theorem forks_of_reachable_alone :
    let start : Tracker := ⟨.new "process" 2 2 UInt32.toUInt64, .new "profile" 2 2 ProfileKey.raw⟩
    let tracker := (start.create 0 1 1).value.1
    let after := (tracker.create 1 3 3).value.1.processes
    tracker.Forks 1 3 3 after ∧ tracker.processes.find? 1 ≠ none ∧ after.find? 1 = none ∧ after.size = 1 :=
  ⟨forks_of_reachable (.create (.new "process" (by decide) 2 _ _) 0 1 1) 1 3 3 (by decide +kernel),
    by decide +kernel, by decide +kernel, by decide +kernel⟩

end Tracker

end Confinement
