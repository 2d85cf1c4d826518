import Confinement.Log
import Confinement.Table.Shard

/-! Bounded tables that drop the least recently used record.

A table is split into shards, each with its part of the capacity and its own order of use. An
assignment, fixed for the life of the table, spreads the keys over the shards.
-/

set_option autoImplicit false

namespace Confinement

/-- A bounded map from keys to records. -/
structure Table (κ α : Type) where
  name : String
  capacity : Nat
  /-- The number whose remainder picks the shard of a key. -/
  assignment : κ → UInt64
  shards : List (Shard κ α)
  evicted : Nat

namespace Table

variable {κ α : Type}

/-- How many shards a table of this capacity gets: at least one, and no more than records. -/
def shardCount (capacity shards : Nat) : Nat :=
  min (max shards 1) (max capacity 1)

/-- The capacity of each shard. -/
def shardCapacities (capacity shards : Nat) : List Nat :=
  -- The remainder goes to the first ones, one record each.
  let count := shardCount capacity shards
  (List.range count).map fun i => capacity / count + if i < capacity % count then 1 else 0

def new (name : String) (capacity shards : Nat) (assignment : κ → UInt64) : Table κ α where
  name
  capacity
  assignment
  shards := (shardCapacities capacity shards).map Shard.empty
  evicted := 0

/-- The counter of evictions, a word of 64 bits. -/
def evictions (table : Table κ α) : UInt64 :=
  .ofNat table.evicted

def shardIndex (table : Table κ α) (key : κ) : Nat :=
  (table.assignment key).toNat % table.shards.length

def shardOf (table : Table κ α) (key : κ) : Shard κ α :=
  table.shards.getD (table.shardIndex key) (Shard.empty 0)

/-- The table with another shard in the place of the one that holds the key. -/
def withShard (table : Table κ α) (key : κ) (shard : Shard κ α) : Table κ α :=
  { table with shards := table.shards.set (table.shardIndex key) shard }

def size (table : Table κ α) : Nat :=
  (table.shards.map Shard.size).foldl (· + ·) 0

def isEmpty (table : Table κ α) : Bool :=
  table.size == 0

def clear (table : Table κ α) : Table κ α :=
  { table with shards := table.shards.map Shard.clear }

variable [DecidableEq κ]

def find? (table : Table κ α) (key : κ) : Option α :=
  -- Looking is no use of it.
  (table.shardOf key).find? key

def contains (table : Table κ α) (key : κ) : Bool :=
  -- Asking is no use of it.
  (table.find? key).isSome

/-- Reads the record of a key, which becomes the most recently used of its shard. -/
def lookup (table : Table κ α) (key : κ) : Table κ α × Option α :=
  let (shard, present) := (table.shardOf key).touch key
  (table.withShard key shard, if present then shard.find? key else none)

def update (table : Table κ α) (key : κ) (value : α) :
    Table κ α × Except Exhausted (Option α) :=
  -- A new key may push out the least recently used record of its shard.
  let (shard, present) := (table.shardOf key).touch key
  if present then
    (table.withShard key (shard.setValue key fun _ => value), .ok (shard.find? key))
  else
    match shard.insertNew key value with
    | (shard, .ok evicted) =>
      let table := table.withShard key shard
      ({ table with evicted := if evicted then table.evicted + 1 else table.evicted }, .ok none)
    | (shard, .error failure) => (table.withShard key shard, .error failure)

/-- Changes the record of a key in place, as a use of it, and returns the record as it was. -/
def modify (table : Table κ α) (key : κ) (change : α → α) : Table κ α × Option α :=
  let (shard, present) := (table.shardOf key).touch key
  if present then (table.withShard key (shard.setValue key change), shard.find? key)
  else (table.withShard key shard, none)

def delete (table : Table κ α) (key : κ) : Table κ α × Option α :=
  let (shard, removed) := (table.shardOf key).remove key
  (table.withShard key shard, removed)

def evictionLine (table : Table κ α) : Line :=
  ⟨.trace, table.name ++ " table evicted its least recently used record"⟩

/-- Updates the table and writes a line if another record was pushed out. -/
def put (table : Table κ α) (key : κ) (value : α) :
    Logged (Table κ α × Except Exhausted (Option α)) := do
  let (after, answer) := table.update key value
  Logged.writeIf (after.evicted != table.evicted) table.evictionLine
  pure (after, answer)

end Table

end Confinement
