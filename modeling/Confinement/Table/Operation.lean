import Confinement.Table.Basic

/-! What may be done to a table, and what it answers. -/

set_option autoImplicit false

namespace Confinement

inductive TableOperation (κ α : Type) where
  | update (key : κ) (value : α)
  | lookup (key : κ)
  | modify (key : κ) (change : α → α)
  | delete (key : κ)
  | contains (key : κ)
  | clear
  | size
  | evictions

inductive TableAnswer (α : Type) where
  | updated (previous : Option α)
  | exhausted (failure : Exhausted)
  | record (value : Option α)
  | present (present : Bool)
  | cleared
  | count (count : Nat)
  deriving DecidableEq, Repr

namespace Table

variable {κ α : Type} [DecidableEq κ]

def perform (table : Table κ α) (operation : TableOperation κ α) : Table κ α × TableAnswer α :=
  match operation with
  | .update key value =>
    match table.update key value with
    | (table, .ok previous) => (table, .updated previous)
    | (table, .error failure) => (table, .exhausted failure)
  | .lookup key => (table.lookup key).map id .record
  | .modify key change => (table.modify key change).map id .record
  | .delete key => (table.delete key).map id .record
  | .contains key => (table, .present (table.contains key))
  | .clear => (table.clear, .cleared)
  | .size => (table, .count table.size)
  | .evictions => (table, .count table.evictions.toNat)

def run : List (TableOperation κ α) → Table κ α → Table κ α × List (TableAnswer α)
  | [], table => (table, [])
  | operation :: rest, table =>
    let (table, answer) := table.perform operation
    let (table, answers) := run rest table
    (table, answer :: answers)

end Table

end Confinement
