import Confinement.Proofs.Table.Succession

/-! Two tables in use side by side.

A correspondence says how two tables may be alike so that the same uses of both keep them so and are
answered alike. It may be restricted to some keys, and hold only as long as the tables have not come to
something, such as the end of their counters.
-/

set_option autoImplicit false

namespace Confinement

def TableOperation.IsWhole {κ α : Type} : TableOperation κ α → Prop
  | clear | size | evictions => True
  | _ => False

namespace Table

/-- A way to be alike that two tables keep if they are put to the same uses. -/
structure Correspondence (κ α : Type) [DecidableEq κ] where
  alike : Table κ α → Table κ α → Prop
  asked : κ → Prop
  stored : κ → Prop
  whole : TableOperation κ α → Prop
  /-- What the tables have not come to, and never had if they have not yet. -/
  allowed : Table κ α → Table κ α → Prop
  allowed_of_follows {first second later others : Table κ α} (follows : first.Follows later)
    (following : second.Follows others) (still : allowed later others) : allowed first second
  bounded {first second : Table κ α} (related : alike first second) :
    first.Bounded ∧ second.Bounded
  found {first second : Table κ α} (related : alike first second) {key : κ} (asks : asked key) :
    second.find? key = first.find? key
  lookup {first second : Table κ α} (related : alike first second) {key : κ} (asks : asked key)
    (still : allowed (first.lookup key).1 (second.lookup key).1) :
    alike (first.lookup key).1 (second.lookup key).1
  modify {first second : Table κ α} (related : alike first second) {key : κ} (asks : asked key)
    (change : α → α)
    (still : allowed (first.modify key change).1 (second.modify key change).1) :
    alike (first.modify key change).1 (second.modify key change).1
  delete {first second : Table κ α} (related : alike first second) {key : κ} (asks : asked key)
    (still : allowed (first.delete key).1 (second.delete key).1) :
    alike (first.delete key).1 (second.delete key).1
  update {first second : Table κ α} (related : alike first second) {key : κ} (stores : stored key)
    (value : α) (still : allowed (first.update key value).1 (second.update key value).1) :
    alike (first.update key value).1 (second.update key value).1 ∧
      (second.update key value).2 = (first.update key value).2
  named {first second : Table κ α} (related : alike first second) {key : κ} (stores : stored key)
    {value : α} {failure : Exhausted} (refused : (first.update key value).2 = .error failure) :
    second.name = first.name
  wholly {first second : Table κ α} (related : alike first second) {operation : TableOperation κ α}
    (unkeyed : operation.IsWhole) (uses : whole operation)
    (still : allowed (first.perform operation).1 (second.perform operation).1) :
    alike (first.perform operation).1 (second.perform operation).1 ∧
      (second.perform operation).2 = (first.perform operation).2

namespace Correspondence

variable {κ α : Type} [DecidableEq κ]

def Permits (kind : Correspondence κ α) : TableOperation κ α → Prop
  | .update key _ => kind.stored key
  | .lookup key | .modify key _ | .delete key | .contains key => kind.asked key
  | operation => kind.whole operation

theorem perform (kind : Correspondence κ α) {first second : Table κ α}
    (related : kind.alike first second) {operation : TableOperation κ α}
    (permits : kind.Permits operation)
    (still : kind.allowed (first.perform operation).1 (second.perform operation).1) :
    kind.alike (first.perform operation).1 (second.perform operation).1 ∧
      (second.perform operation).2 = (first.perform operation).2 := by
  cases operation with
  | update key value =>
    have step {table : Table κ α} : table.perform (.update key value) =
        ((table.update key value).1,
          match (table.update key value).2 with
          | .ok previous => .updated previous
          | .error failure => .exhausted failure) := by
      rw [Table.perform]
      generalize table.update key value = result
      obtain ⟨later, answer⟩ := result
      cases answer <;> rfl
    rw [step, step] at still ⊢
    obtain ⟨updated, answer⟩ := kind.update related permits value still
    exact ⟨updated, by rw [answer]⟩
  | lookup key =>
    have answer : (second.lookup key).2 = (first.lookup key).2 := by
      rw [answer_lookup, answer_lookup, kind.found related permits]
    exact ⟨kind.lookup related permits still, congrArg TableAnswer.record answer⟩
  | modify key change =>
    have answer : (second.modify key change).2 = (first.modify key change).2 := by
      rw [answer_modify, answer_modify, kind.found related permits]
    exact ⟨kind.modify related permits change still, congrArg TableAnswer.record answer⟩
  | delete key =>
    have answer : (second.delete key).2 = (first.delete key).2 := by
      rw [answer_delete, answer_delete, kind.found related permits]
    exact ⟨kind.delete related permits still, congrArg TableAnswer.record answer⟩
  | contains key =>
    have answer : second.contains key = first.contains key := by
      rw [contains, contains, kind.found related permits]
    exact ⟨related, congrArg TableAnswer.present answer⟩
  | clear | size | evictions => exact kind.wholly related trivial permits still

end Correspondence

end Table

end Confinement
