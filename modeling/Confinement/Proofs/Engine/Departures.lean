import Confinement.Proofs.Engine.Correspondence
import Confinement.Proofs.Engine.Reachable
import Confinement.Proofs.Table.Eviction

/-! Why it makes no difference whether a record gives way or was removed before.

The record that a creation costs, or the load of a profile, is the one that its own exit or its removal takes
away, and all that tells the two courses apart is the count of evictions, which only a routine could read.
Only a parent cannot leave before its child is created, for then the child would not have its profile.
-/

set_option autoImplicit false

namespace Confinement

/-! ## Counts of evictions -/

namespace Table

variable {κ α : Type}

variable [DecidableEq κ]

theorem lookup_recount (table : Table κ α) (more : Nat) (key : κ) :
    (table.recount more).lookup key = ((table.lookup key).1.recount more, table.find? key) := by
  rw [lookup_eq, lookup_eq]
  rfl

theorem modify_recount (table : Table κ α) (more : Nat) (key : κ) (change : α → α) :
    (table.recount more).modify key change =
      ((table.modify key change).1.recount more, table.find? key) := by
  rw [modify_eq, modify_eq]
  rfl

theorem delete_recount (table : Table κ α) (more : Nat) (key : κ) :
    (table.recount more).delete key = ((table.delete key).1.recount more, table.find? key) := by
  rw [delete_eq, delete_eq]
  rfl

theorem update_recount (table : Table κ α) (more : Nat) (key : κ) (value : α) :
    (table.recount more).update key value =
      ((table.update key value).1.recount more, (table.update key value).2) := by
  cases present : table.find? key with
  | some old =>
    have again : (table.recount more).find? key = some old := present
    rw [update_present present, update_present again]
    rfl
  | none =>
    have again : (table.recount more).find? key = none := present
    have same : (table.recount more).shardOf key = table.shardOf key := rfl
    rw [update_absent present, update_absent again, same]
    cases (table.shardOf key).count.insertNew key value with
    | mk shard result =>
      cases result with
      | error failure => rfl
      | ok dropped => simp [recount, withShard, shardIndex, Nat.add_right_comm]

def recounted (more : Nat) : Correspondence κ α where
  alike first second := second = first.recount more ∧ first.Bounded
  asked _ := True
  stored _ := True
  -- The counter of evictions is where they differ.
  whole operation := more ≠ 0 → operation ≠ .evictions
  allowed _ _ := True
  allowed_of_follows _ _ := id
  bounded := by
    rintro first _ ⟨rfl, bounded⟩
    exact ⟨bounded, bounded.nonempty, bounded.holds⟩
  found := by
    rintro first _ ⟨rfl, _⟩ key _
    rfl
  lookup := by
    rintro first _ ⟨rfl, bounded⟩ key _ _
    rw [lookup_recount]
    exact ⟨rfl, (first.follows_lookup key).bounded bounded⟩
  modify := by
    rintro first _ ⟨rfl, bounded⟩ key _ change _
    rw [modify_recount]
    exact ⟨rfl, (first.follows_modify key change).bounded bounded⟩
  delete := by
    rintro first _ ⟨rfl, bounded⟩ key _ _
    rw [delete_recount]
    exact ⟨rfl, (first.follows_delete key).bounded bounded⟩
  update := by
    rintro first _ ⟨rfl, bounded⟩ key _ value _
    rw [update_recount]
    exact ⟨⟨rfl, (first.follows_update key value).bounded bounded⟩, rfl⟩
  named := by
    rintro first _ ⟨rfl, _⟩ _ _ _ _ _
    rfl
  wholly := by
    rintro first _ ⟨rfl, bounded⟩ operation unkeyed uses _
    cases operation with
    | clear => exact ⟨⟨rfl, first.follows_clear.bounded bounded⟩, rfl⟩
    | size => exact ⟨⟨rfl, bounded⟩, rfl⟩
    | evictions =>
      obtain rfl : more = 0 := by_contra fun counted => uses counted rfl
      exact ⟨⟨rfl, bounded⟩, rfl⟩
    | _ => cases unkeyed

end Table

namespace Engine

variable {engine : Engine}

def recount (engine : Engine) (tasks policies : Nat) : Engine :=
  { engine with tracker := ⟨engine.processes.recount tasks, engine.profiles.recount policies⟩ }

/-! ## Engines that differ in the counts of evictions -/

/-- Where no evictions are counted, all that waits in the slots is the same. -/
theorem eq_of_alike {first second : OpenSlot} (alike : first.Alike (Table.recounted 0) second) :
    second = first := by
  cases alike with
  | perThread related => exact congrArg OpenSlot.perThread related.1
  | shared => rfl

def recounting (tasks policies : Nat) : Correspondence :=
  ⟨Table.recounted tasks, Table.recounted policies, Table.recounted 0⟩

variable {tasks policies : Nat}

theorem alike_recount (linked : engine.Linked) (tasks policies : Nat) :
    (recounting tasks policies).Alike engine (engine.recount tasks policies) where
  tracker := ⟨⟨rfl, linked.sound.tasks⟩, rfl, linked.sound.profiles⟩
  slot := by
    change engine.slot.Alike _ engine.slot
    cases place : engine.slot with
    | perThread table =>
      exact .perThread ⟨rfl, Table.bounded_of_linked (linked.captures table place)⟩
    | shared flags => exact .shared
  dispatch := rfl
  reporter := rfl
  scriptRuns := rfl

/-- A routine that reads the counter can tell. -/
example :
    let engine := pair.after (confinedRun (.custom "wary" fun _ _ => .ask (.table .evictions) fun answer =>
      if answer = .table (.count 0) then .done else .ofRequests [.deny]))
    let creation := Operation.event (.processCreate 7 9 9)
    let left := engine.next (.event (.processExit 8))
    ((engine.next creation).exitOpen ⟨7, 7⟩).value.2 = .dispatched 0 (.denied .audit) ∧
      ((left.next creation).exitOpen ⟨7, 7⟩).value.2 = .dispatched 0 .allowed := by
  decide +kernel

/-- A child takes over the profile of a parent that gives way to it, and not that of one that has left. -/
example :
    let start := initial ⟨1, 1, 1, .audit, .perThread, 1⟩ .recording .direct
    let engine := start.after [.addProfile (Executable.profileKey ⟨0, 5⟩) 0,
      .event (.processCreate 0 7 7), .event (.programLoad 7 ⟨0, 5⟩)]
    let creation := Operation.event (.processCreate 7 8 8)
    (engine.next creation).processes.find? 7 = none ∧
      ((engine.next creation).processes.find? 8).map ProcessState.isConfined = some true ∧
      (((engine.next (.event (.processExit 7))).next creation).processes.find? 8).map
        ProcessState.isConfined = some false := by
  decide +kernel

end Engine

end Confinement
