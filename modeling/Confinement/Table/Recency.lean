import Confinement.Table.Operation

/-! Tables as lists in the order of use: the shortest account of what a table does.

There are no ticks here. A shard is the list of its records, the most recently used first, and an
update that finds no room drops the last one. Beside the operations stands the view that shows a
table with ticks as such lists.
-/

set_option autoImplicit false

namespace Confinement

/-- The records of a shard, the most recently used first. -/
@[ext] structure Recency (κ α : Type) where
  capacity : Nat
  records : List (κ × α)
  deriving DecidableEq, Repr

namespace Recency

variable {κ α : Type} [DecidableEq κ]

def find? (recency : Recency κ α) (key : κ) : Option α :=
  Association.find? key recency.records

/-- Brings the record of a key to the front, with another value. -/
def touch (recency : Recency κ α) (key : κ) (change : α → α) : Recency κ α :=
  match recency.find? key with
  | some value =>
    { recency with records := Association.put key (change value) recency.records }
  | none => recency

def insertNew (recency : Recency κ α) (key : κ) (value : α) : Recency κ α :=
  -- A full list loses its last record.
  let kept :=
    if recency.records.length < recency.capacity then recency.records
    else recency.records.dropLast
  { recency with records := (key, value) :: kept }

def erase (recency : Recency κ α) (key : κ) : Recency κ α :=
  { recency with records := Association.erase key recency.records }

end Recency

/-- A table without ticks. -/
structure RecencyTable (κ α : Type) where
  assignment : κ → UInt64
  shards : List (Recency κ α)
  evictions : Nat

namespace RecencyTable

variable {κ α : Type} [DecidableEq κ]

def new (capacity shards : Nat) (assignment : κ → UInt64) : RecencyTable κ α where
  assignment
  shards := (Table.shardCapacities capacity shards).map fun capacity => ⟨capacity, []⟩
  evictions := 0

def shardIndex (table : RecencyTable κ α) (key : κ) : Nat :=
  (table.assignment key).toNat % table.shards.length

def shardOf (table : RecencyTable κ α) (key : κ) : Recency κ α :=
  table.shards.getD (table.shardIndex key) ⟨0, []⟩

def withShard (table : RecencyTable κ α) (key : κ) (shard : Recency κ α) : RecencyTable κ α :=
  { table with shards := table.shards.set (table.shardIndex key) shard }

def perform (table : RecencyTable κ α) (operation : TableOperation κ α) :
    RecencyTable κ α × TableAnswer α :=
  match operation with
  | .update key value =>
    let shard := table.shardOf key
    match shard.find? key with
    | some old => (table.withShard key (shard.touch key fun _ => value), .updated (some old))
    | none =>
      if shard.capacity = 0 then (table, .exhausted ⟨0⟩)
      else
        let lost := if shard.records.length < shard.capacity then 0 else 1
        ({ table.withShard key (shard.insertNew key value) with
            evictions := table.evictions + lost }, .updated none)
  | .lookup key =>
    let shard := table.shardOf key
    (table.withShard key (shard.touch key id), .record (shard.find? key))
  | .modify key change =>
    let shard := table.shardOf key
    (table.withShard key (shard.touch key change), .record (shard.find? key))
  | .delete key =>
    let shard := table.shardOf key
    (table.withShard key (shard.erase key), .record (shard.find? key))
  | .contains key => (table, .present ((table.shardOf key).find? key).isSome)
  | .clear =>
    ({ table with shards := table.shards.map fun shard => { shard with records := [] } }, .cleared)
  | .size => (table, .count ((table.shards.map fun shard => shard.records.length).foldl (· + ·) 0))
  | .evictions => (table, .count (table.evictions % UInt64.size))

def run : List (TableOperation κ α) → RecencyTable κ α →
    RecencyTable κ α × List (TableAnswer α)
  | [], table => (table, [])
  | operation :: rest, table =>
    let (table, answer) := table.perform operation
    let (table, answers) := run rest table
    (table, answer :: answers)

end RecencyTable

def Shard.recency {κ α : Type} [DecidableEq κ] (shard : Shard κ α) : Recency κ α where
  capacity := shard.capacity
  records := shard.order.reverse.filterMap fun stamp =>
    (shard.find? stamp.2).map fun value => (stamp.2, value)

def Table.recency {κ α : Type} [DecidableEq κ] (table : Table κ α) : RecencyTable κ α where
  assignment := table.assignment
  shards := table.shards.map Shard.recency
  evictions := table.evicted

end Confinement
