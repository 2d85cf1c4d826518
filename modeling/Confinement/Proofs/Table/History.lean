import Confinement.Proofs.Last
import Confinement.Proofs.Table.Succession

/-! Runs of a table as histories.

A moment is one operation of a run together with the table that it finds, which fixes its answer and what
it leaves.
-/

set_option autoImplicit false

namespace Confinement

variable {κ α : Type}

structure TableMoment (κ α : Type) where
  table : Table κ α
  operation : TableOperation κ α

variable [DecidableEq κ]

namespace TableMoment

def after (moment : TableMoment κ α) : Table κ α :=
  (moment.table.perform moment.operation).1

def answer (moment : TableMoment κ α) : TableAnswer α :=
  (moment.table.perform moment.operation).2

end TableMoment

namespace Table

def moments (table : Table κ α) : List (TableOperation κ α) → List (TableMoment κ α)
  | [] => []
  | operation :: rest => ⟨table, operation⟩ :: moments (table.perform operation).1 rest

@[simp] theorem moments_nil (table : Table κ α) : table.moments [] = [] := rfl

theorem moments_cons (table : Table κ α) (operation : TableOperation κ α)
    (rest : List (TableOperation κ α)) :
    table.moments (operation :: rest) =
      ⟨table, operation⟩ :: (table.perform operation).1.moments rest := rfl

theorem map_answer_moments (table : Table κ α) (operations : List (TableOperation κ α)) :
    (table.moments operations).map TableMoment.answer = (table.run operations).2 := by
  induction operations generalizing table with
  | nil => rfl
  | cons operation rest ih => exact congrArg (_ :: ·) (ih (table.perform operation).1)

theorem moments_append (table : Table κ α) (first second : List (TableOperation κ α)) :
    table.moments (first ++ second) =
      table.moments first ++ (table.run first).1.moments second := by
  induction first generalizing table with
  | nil => rfl
  | cons operation rest ih => exact congrArg (_ :: ·) (ih (table.perform operation).1)

theorem run_concat (table : Table κ α) (operations : List (TableOperation κ α))
    (operation : TableOperation κ α) :
    (table.run (operations ++ [operation])).1 = ((table.run operations).1.perform operation).1 :=
  run_append operations [operation] table

theorem moments_concat (table : Table κ α) (operations : List (TableOperation κ α))
    (operation : TableOperation κ α) :
    table.moments (operations ++ [operation]) =
      table.moments operations ++ [⟨(table.run operations).1, operation⟩] :=
  table.moments_append operations [operation]

end Table

end Confinement
