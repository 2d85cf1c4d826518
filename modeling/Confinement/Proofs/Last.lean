import Mathlib.Data.List.Basic
import Mathlib.Data.List.Induction

/-! The last element of a list with some property, and what comes after it. -/

set_option autoImplicit false

namespace Confinement

/-- The last element with a property, and the elements since. -/
structure Last {α : Type} (happens : α → Prop) (history : List α) (latest : α) (since : List α) :
    Prop where
  split : ∃ before, history = before ++ latest :: since
  here : happens latest
  never : ∀ later ∈ since, ¬ happens later

namespace Last

variable {α : Type} {happens : α → Prop} {history since : List α} {latest newest : α}

theorem not_nil : ¬ Last happens [] latest since := by
  rintro ⟨⟨before, split⟩, _, _⟩
  simp at split

theorem concat_iff : Last happens (history ++ [newest]) latest since ↔
    (since = [] ∧ latest = newest ∧ happens newest) ∨
      ∃ rest, since = rest ++ [newest] ∧ ¬ happens newest ∧ Last happens history latest rest := by
  constructor
  · rintro ⟨⟨before, split⟩, here, never⟩
    rcases List.eq_nil_or_concat' since with rfl | ⟨rest, last, rfl⟩
    · obtain ⟨_, same⟩ := List.append_inj' split rfl
      cases same
      exact .inl ⟨rfl, rfl, here⟩
    · rw [← List.cons_append, ← List.append_assoc] at split
      obtain ⟨earlier, same⟩ := List.append_inj' split rfl
      cases same
      refine .inr ⟨rest, rfl, never newest (by simp), ⟨before, earlier⟩, here, fun later member => ?_⟩
      exact never later (List.mem_append_left _ member)
  · rintro (⟨rfl, rfl, here⟩ | ⟨rest, rfl, quiet, ⟨before, rfl⟩, here, never⟩)
    · exact ⟨⟨history, rfl⟩, here, by simp⟩
    · refine ⟨⟨before, by simp⟩, here, fun later member => ?_⟩
      rcases List.mem_append.mp member with earlier | last
      · exact never later earlier
      · rw [List.mem_singleton.mp last]
        exact quiet

theorem concat_here (here : happens newest) :
    Last happens (history ++ [newest]) latest since ↔ since = [] ∧ latest = newest := by
  rw [concat_iff]
  constructor
  · rintro (⟨none, same, _⟩ | ⟨_, _, quiet, _⟩)
    · exact ⟨none, same⟩
    · exact absurd here quiet
  · rintro ⟨none, same⟩
    exact .inl ⟨none, same, here⟩

theorem concat_quiet (quiet : ¬ happens newest) :
    Last happens (history ++ [newest]) latest since ↔
      ∃ rest, since = rest ++ [newest] ∧ Last happens history latest rest := by
  rw [concat_iff]
  constructor
  · rintro (⟨_, _, here⟩ | ⟨rest, same, _, last⟩)
    · exact absurd here quiet
    · exact ⟨rest, same, last⟩
  · rintro ⟨rest, same, last⟩
    exact .inr ⟨rest, same, quiet, last⟩

theorem unique {other : α} {rest : List α} (first : Last happens history latest since)
    (second : Last happens history other rest) : latest = other ∧ since = rest := by
  induction history using List.reverseRecOn generalizing since rest with
  | nil => exact absurd first not_nil
  | append_singleton earlier newest ih =>
    by_cases here : happens newest
    · rw [concat_here here] at first second
      exact ⟨first.2.trans second.2.symm, first.1.trans second.1.symm⟩
    · rw [concat_quiet here] at first second
      obtain ⟨_, rfl, first⟩ := first
      obtain ⟨_, rfl, second⟩ := second
      obtain ⟨same, rfl⟩ := ih first second
      exact ⟨same, rfl⟩

theorem exists_of_mem (some : ∃ element ∈ history, happens element) :
    ∃ latest since, Last happens history latest since := by
  induction history using List.reverseRecOn with
  | nil => simp at some
  | append_singleton earlier newest ih =>
    by_cases here : happens newest
    · exact ⟨newest, [], (concat_here here).mpr ⟨rfl, rfl⟩⟩
    · obtain ⟨element, member, happened⟩ := some
      rcases List.mem_append.mp member with inside | final
      · obtain ⟨latest, rest, last⟩ := ih ⟨element, inside, happened⟩
        exact ⟨latest, _, (concat_quiet here).mpr ⟨rest, rfl, last⟩⟩
      · rw [List.mem_singleton.mp final] at happened
        exact absurd happened here

theorem prepend (last : Last happens history latest since) (earlier : List α) :
    Last happens (earlier ++ history) latest since := by
  obtain ⟨⟨before, rfl⟩, here, never⟩ := last
  exact ⟨⟨earlier ++ before, (List.append_assoc _ _ _).symm⟩, here, never⟩

theorem append {tail : List α} (last : Last happens history latest since)
    (quiet : ∀ element ∈ tail, ¬ happens element) :
    Last happens (history ++ tail) latest (since ++ tail) := by
  obtain ⟨⟨before, rfl⟩, here, never⟩ := last
  refine ⟨⟨before, by simp⟩, here, fun later member => ?_⟩
  rcases List.mem_append.mp member with inside | final
  · exact never later inside
  · exact quiet later final

end Last

end Confinement
