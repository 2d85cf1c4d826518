import Confinement.Table.Association

/-! One shard of a table: records by key, and beside them the keys in the order of their last use.

A counter ticks at every use. Each record keeps the tick of its last use, and `order` holds the same
ticks with their keys, oldest first, so that the record to drop is found at its head. A tick is a
word of 64 bits, so it starts over after as many uses.
-/

set_option autoImplicit false

namespace Confinement

structure Entry (α : Type) where
  value : α
  lastUsed : UInt64
  deriving DecidableEq, Repr

/-- A bounded part of a table. -/
structure Shard (κ α : Type) where
  entries : List (κ × Entry α)
  order : List (UInt64 × κ)
  uses : Nat
  capacity : Nat
  deriving DecidableEq, Repr

/-- No record can be taken in, even after dropping others. -/
structure Exhausted where
  capacity : Nat
  deriving DecidableEq, Repr

def Exhausted.message (failure : Exhausted) : String :=
  s!"table capacity exhausted (capacity {failure.capacity})"

namespace Shard

variable {κ α : Type} [DecidableEq κ]

/-- The tick of the last use, which is all that a word keeps of the number of uses. -/
def tick (shard : Shard κ α) : UInt64 :=
  .ofNat shard.uses

def count (shard : Shard κ α) : Shard κ α :=
  { shard with uses := shard.uses + 1 }

def empty (capacity : Nat) : Shard κ α :=
  ⟨[], [], 0, capacity⟩

def size (shard : Shard κ α) : Nat :=
  shard.entries.length

def find? (shard : Shard κ α) (key : κ) : Option α :=
  (Association.find? key shard.entries).map Entry.value

/-- Puts a tick in its place of the order, over an equal one. -/
def insertTick (tick : UInt64) (key : κ) : List (UInt64 × κ) → List (UInt64 × κ)
  | [] => [(tick, key)]
  | (t, k) :: rest =>
    if tick < t then (tick, key) :: (t, k) :: rest
    else if tick = t then (tick, key) :: rest
    else (t, k) :: insertTick tick key rest

def touch (shard : Shard κ α) (key : κ) : Shard κ α × Bool :=
  -- The answer tells whether there is one. The counter ticks either way.
  let tick := shard.count.tick
  match Association.find? key shard.entries with
  | some entry =>
    ({ shard.count with
        entries := Association.adjust key (fun e => { e with lastUsed := tick }) shard.entries
        order := insertTick tick key (Association.erase entry.lastUsed shard.order) }, true)
  | none => (shard.count, false)

/-- What is left after dropping records, whether any was dropped, and whether that was enough. -/
structure Room (κ α : Type) where
  order : List (UInt64 × κ)
  entries : List (κ × Entry α)
  dropped : Bool
  enough : Bool

/-- Drops the oldest record until there are fewer than `capacity`, or the order is used up. -/
def makeRoom (capacity : Nat) :
    List (UInt64 × κ) → List (κ × Entry α) → Bool → Room κ α
  | [], entries, dropped => ⟨[], entries, dropped, entries.length < capacity⟩
  | (tick, key) :: order, entries, dropped =>
    if entries.length < capacity then ⟨(tick, key) :: order, entries, dropped, true⟩
    else makeRoom capacity order (Association.erase key entries) true

def room (shard : Shard κ α) : Room κ α :=
  makeRoom shard.capacity shard.order shard.entries false

/-- Takes in the record of a key that has none, dropping old records if the shard is full. -/
def insertNew (shard : Shard κ α) (key : κ) (value : α) : Shard κ α × Except Exhausted Bool :=
  -- The answer tells whether one was dropped.
  if shard.capacity = 0 then (shard, .error ⟨0⟩)
  else
    if shard.room.enough then
      let tick := shard.count.tick
      ({ shard.count with
          entries := Association.put key ⟨value, tick⟩ shard.room.entries
          order := insertTick tick key shard.room.order }, .ok shard.room.dropped)
    else
      ({ shard with entries := shard.room.entries, order := shard.room.order },
        .error ⟨shard.capacity⟩)

def remove (shard : Shard κ α) (key : κ) : Shard κ α × Option α :=
  match Association.find? key shard.entries with
  | some entry =>
    ({ shard with
        entries := Association.erase key shard.entries
        order := Association.erase entry.lastUsed shard.order }, some entry.value)
  | none => (shard, none)

def setValue (shard : Shard κ α) (key : κ) (change : α → α) : Shard κ α :=
  { shard with
    entries := Association.adjust key (fun e => { e with value := change e.value }) shard.entries }

def clear (shard : Shard κ α) : Shard κ α :=
  -- The counter runs on.
  { shard with entries := [], order := [] }

end Shard

end Confinement
