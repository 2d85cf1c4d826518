import Confinement.Proofs.Reporter
import Confinement.Proofs.Routine

/-! Which requests a policy taints, and which it denies.

The first set that covers a request decides on it, and of the sets that let a call pass on conditions an
empty one covers nothing, not even a call that asks for nothing.
-/

set_option autoImplicit false

namespace Confinement

namespace AccessPolicy

/-- The request is not allowed, and it passes with a taint. -/
structure Taints (policy : AccessPolicy) (requested : Access) : Prop where
  outside : policy.allow.contains requested = false
  nonempty : policy.taint ≠ .none
  covered : policy.taint.contains requested = true

/-- The request is not allowed, and passes neither with a taint nor with a line in the log. -/
structure Denies (policy : AccessPolicy) (requested : Access) : Prop where
  outside : policy.allow.contains requested = false
  untainted : policy.taint = .none ∨ policy.taint.contains requested = false
  unaudited : policy.audit = .none ∨ policy.audit.contains requested = false

variable {policy : AccessPolicy} {requested : Access}

theorem rule_eq_taint_iff : policy.rule requested = .taint ↔ policy.Taints requested := by
  constructor
  · intro same
    unfold rule at same
    split at same
    case isTrue => cases same
    case isFalse outside =>
      split at same
      case isTrue inside =>
        rw [Bool.and_eq_true, Bool.not_eq_true', Access.isEmpty, beq_eq_false_iff_ne] at inside
        exact ⟨Bool.not_eq_true _ ▸ outside, inside.1, inside.2⟩
      case isFalse => split at same <;> cases same
  · rintro ⟨outside, nonempty, covered⟩
    simp [rule, outside, covered, Access.isEmpty, nonempty]

theorem rule_eq_deny_iff : policy.rule requested = .deny ↔ policy.Denies requested := by
  have covers : ∀ set : Access, (!set.isEmpty && set.contains requested) = false ↔
      set = .none ∨ set.contains requested = false := by
    intro set
    rw [Bool.and_eq_false_iff, Bool.not_eq_false', Access.isEmpty, beq_iff_eq]
  constructor
  · intro same
    unfold rule at same
    split at same
    case isTrue => cases same
    case isFalse outside =>
      split at same
      case isTrue => cases same
      case isFalse untainted =>
        split at same
        case isTrue => cases same
        case isFalse unaudited =>
          rw [Bool.not_eq_true] at outside untainted unaudited
          exact ⟨outside, (covers _).mp untainted, (covers _).mp unaudited⟩
  · rintro ⟨outside, untainted, unaudited⟩
    rw [rule, outside, (covers _).mpr untainted, (covers _).mpr unaudited]
    rfl

theorem not_taints_none : ¬ policy.Taints .none := by
  intro taints
  have outside := taints.outside
  simp [Access.contains, Access.none] at outside

end AccessPolicy

def RoutineSpec.Taints : RoutineSpec → Access → Prop
  | access policy, requested => policy.Taints requested
  | _, _ => False

def RoutineSpec.Denies : RoutineSpec → Access → Prop
  | allowAll, _ => False
  | denyAll, _ => True
  | access policy, requested => policy.Denies requested

theorem RoutineSpec.denies_iff (spec : RoutineSpec) (requested : Access) :
    spec.denies requested = true ↔ spec.Denies requested := by
  cases spec with
  | allowAll => simp [denies, Denies]
  | denyAll => simp [denies, Denies]
  | access policy => exact (decide_eq_true_iff).trans AccessPolicy.rule_eq_deny_iff

theorem RoutineSpec.processes_run_of_taints {spec : RoutineSpec} {context : Context}
    (taints : spec.Taints context.requested) :
    (spec.run context).value.processes =
      (context.processes.modify context.process.pid fun record =>
        { record with tainted := true }).1 := by
  cases spec with
  | allowAll => cases taints
  | denyAll => cases taints
  | access policy =>
    have rule := AccessPolicy.rule_eq_taint_iff.mpr taints
    rw [run, AccessPolicy.run]
    dsimp only
    rw [rule]
    exact context.processes_setTainted true

theorem RoutineSpec.processes_run_of_not_taints {spec : RoutineSpec} {context : Context}
    (clean : ¬ spec.Taints context.requested) :
    (spec.run context).value.processes = context.processes := by
  cases spec with
  | allowAll => rfl
  | denyAll => rfl
  | access policy =>
    rw [run, AccessPolicy.run]
    dsimp only
    cases rule : policy.rule context.requested with
    | allow => rfl
    | taint => exact absurd (AccessPolicy.rule_eq_taint_iff.mp rule) clean
    | audit => rfl
    | deny => rfl

end Confinement
