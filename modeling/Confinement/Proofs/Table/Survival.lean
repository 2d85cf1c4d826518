import Confinement.Proofs.Table.History
import Confinement.Proofs.Table.Standing
import Mathlib.Data.Set.Card

/-! How long a table of one shard keeps a record.

The rivals of a key are the other keys that were touched after it and not deleted since. As long as the record
of the key is there, theirs are those that stand before it, so it is lost when there come to be as many of
them as the table has room for, and not before.
-/

set_option autoImplicit false

namespace Confinement

variable {κ α : Type} [DecidableEq κ]

namespace TableMoment

def Touches (key : κ) (moment : TableMoment κ α) : Prop :=
  moment.operation.Touches key (moment.table.find? key ≠ none)

def Discards (key : κ) (moment : TableMoment κ α) : Prop :=
  moment.operation.Discards key (moment.table.find? key ≠ none)

instance (key : κ) (moment : TableMoment κ α) : Decidable (moment.Touches key) :=
  inferInstanceAs (Decidable (moment.operation.Touches key _))

instance (key : κ) (moment : TableMoment κ α) : Decidable (moment.Discards key) :=
  inferInstanceAs (Decidable (moment.operation.Discards key _))

/-- The other keys that were touched in these moments and not deleted since. -/
def rivals (key : κ) (since : List (TableMoment κ α)) : Set κ :=
  {other | other ≠ key ∧ ∃ touch rest, Last (Touches other) since touch rest ∧
    ∀ later ∈ rest, later.operation ≠ .delete other}

structure Idle (key : κ) (since : List (TableMoment κ α)) (moment : TableMoment κ α) : Prop where
  touched : ∀ other, moment.Touches other → other ∈ rivals key since
  deleted : ∀ other, moment.operation = .delete other → moment.table.find? other = none
  cleared : moment.operation ≠ .clear

variable {key other : κ} {since : List (TableMoment κ α)} {moment : TableMoment κ α}

@[simp] theorem rivals_nil : rivals key ([] : List (TableMoment κ α)) = ∅ := by
  ext other
  simp [rivals, Last.not_nil]

theorem mem_rivals_concat : other ∈ rivals key (since ++ [moment]) ↔
    other ≠ key ∧
      (moment.Touches other ∨ other ∈ rivals key since ∧ moment.operation ≠ .delete other) := by
  by_cases here : moment.Touches other
  · simp [rivals, Last.concat_here here, here]
  constructor
  · rintro ⟨different, touch, rest, last, spared⟩
    obtain ⟨earlier, rfl, inside⟩ := (Last.concat_quiet here).mp last
    refine ⟨different, .inr ⟨⟨different, touch, earlier, inside, fun later member => ?_⟩, ?_⟩⟩
    · exact spared later (List.mem_append_left _ member)
    · exact spared moment (List.mem_append_right _ (List.mem_singleton_self moment))
  · rintro ⟨different, touches | ⟨⟨_, touch, rest, last, spared⟩, newest⟩⟩
    · exact absurd touches here
    · refine ⟨different, touch, rest ++ [moment], (Last.concat_quiet here).mpr ⟨rest, rfl, last⟩,
        fun later member => ?_⟩
      rcases List.mem_append.mp member with earlier | final
      · exact spared later earlier
      · exact List.mem_singleton.mp final ▸ newest

theorem rivals_subset (key : κ) (since : List (TableMoment κ α)) :
    rivals key since ⊆ {other | other ≠ key ∧ ∃ moment ∈ since, moment.Touches other} := by
  rintro other ⟨different, touch, rest, ⟨⟨before, rfl⟩, here, _⟩, _⟩
  exact ⟨different, touch, by simp, here⟩

end TableMoment

open TableMoment (rivals)

namespace Table

variable {table : Table κ α} {capacity : Nat} {key : κ} {rest : List (TableOperation κ α)}

theorem encard_of_list {elements : List κ} (distinct : elements.Nodup) :
    ({element | element ∈ elements} : Set κ).encard = elements.length := by
  rw [← List.coe_toFinset, Set.encard_coe_eq_coe_finsetCard, List.toFinset_card_of_nodup distinct]

/-- What has become of a record after some operations that did not touch it: it stands behind those of its
rivals, or there came to be too many of them. -/
inductive Fate (table : Table κ α) (capacity : Nat) (key : κ) (rest : List (TableOperation κ α)) :
    Prop where
  | stands (newer older : List κ) (stands : ((table.run rest).1.orderOf key).Stands key newer older)
      (ahead : rivals key (table.moments rest) = {other | other ∈ newer})
      (few : ∀ early, early <+: rest → (rivals key (table.moments early)).encard < capacity)
  | lost (gone : ((table.run rest).1.orderOf key).find? key = none) (early : List (TableOperation κ α))
      (earlier : early <+: rest) (many : capacity ≤ (rivals key (table.moments early)).encard)

theorem Single.find?_orderOf (single : table.Single capacity) (ordered : table.Ordered) (key other : κ) :
    (table.orderOf key).find? other = table.find? other := by
  rw [single.orderOf_congr key other, ordered.find?_orderOf]

theorem Single.capacity_orderOf (single : table.Single capacity) (key : κ) :
    (table.orderOf key).capacity = capacity := by
  obtain ⟨shard, _, same, only⟩ := single.shardOf
  rw [Table.capacity_orderOf, only, same]

theorem Fate.concat (fate : table.Fate capacity key rest) (some : capacity ≠ 0)
    (single : (table.run rest).1.Single capacity) (ordered : (table.run rest).1.Ordered)
    {operation : TableOperation κ α}
    (fresh : ((table.run rest).1.perform operation).1.Unwrapped)
    (quiet : ¬ (TableMoment.mk (table.run rest).1 operation).Touches key)
    (kept : ¬ (TableMoment.mk (table.run rest).1 operation).Discards key) :
    table.Fate capacity key (rest ++ [operation]) := by
  have follows := (table.run rest).1.follows_perform operation
  have order := single.orderOf_perform some ordered operation fresh key
  have found := single.find?_orderOf ordered key
  have sound := ordered.sound_orderOf key
  have again := (follows.ordered fresh ordered).sound_orderOf key
  have same := (follows.single single).capacity_orderOf key
  rw [TableMoment.Touches, ← found] at quiet
  rw [TableMoment.Discards, ← found] at kept
  rw [order] at again same
  cases fate with
  | lost gone early earlier many =>
    refine .lost ?_ early (earlier.trans (List.prefix_append _ _)) many
    rw [run_concat, order]
    exact Recency.step_lost gone quiet
  | stands newer older stands ahead few =>
    obtain ⟨more, distinct, passed, members⟩ := stands.step sound quiet kept
    have ahead : rivals key (table.moments (rest ++ [operation])) = {other | other ∈ more} := by
      ext other
      rw [moments_concat, TableMoment.mem_rivals_concat, ahead]
      refine Iff.trans ?_ (members other).symm
      rw [found]
      rfl
    have count := congrArg Set.encard ahead
    rw [encard_of_list distinct] at count
    cases passed with
    | stands less stands =>
      refine .stands more less (by rwa [run_concat, order]) ahead fun early earlier => ?_
      rcases List.prefix_concat_iff.mp earlier with rfl | inside
      · have few := stands.few again
        rw [same] at few
        rw [count]
        exact_mod_cast few
      · exact few early inside
    | lost gone many =>
      rw [same] at many
      refine .lost (by rwa [run_concat, order]) _ (List.prefix_refl _) ?_
      rw [count]
      exact_mod_cast many

theorem fate_run (some : capacity ≠ 0) (single : table.Single capacity) (ordered : table.Ordered)
    (first : ∃ older, (table.orderOf key).Stands key [] older)
    (fresh : (table.run rest).1.Unwrapped)
    (quiet : ∀ later ∈ table.moments rest, ¬ later.Touches key)
    (kept : ∀ later ∈ table.moments rest, ¬ later.Discards key) : table.Fate capacity key rest := by
  induction rest using List.reverseRecOn with
  | nil =>
    obtain ⟨older, stands⟩ := first
    refine .stands [] older stands (by simp) fun early earlier => ?_
    rw [List.prefix_nil.mp earlier, moments_nil, TableMoment.rivals_nil, Set.encard_empty]
    exact_mod_cast Nat.pos_of_ne_zero some
  | append_singleton earlier operation ih =>
    rw [moments_concat] at quiet kept
    rw [run_concat] at fresh
    have before := ((table.run earlier).1.follows_perform operation).unwrapped fresh
    have follows := follows_run earlier table
    have last : TableMoment.mk (table.run earlier).1 operation ∈
        table.moments earlier ++ [⟨(table.run earlier).1, operation⟩] := by simp
    have fate := ih before (fun later member => quiet later (List.mem_append_left _ member))
      fun later member => kept later (List.mem_append_left _ member)
    exact fate.concat some (follows.single single) (follows.ordered before ordered) fresh
      (quiet _ last) (kept _ last)

/-- Two tables that are put to the same operations, none of which touches the key, keep what stands behind its
record, and lose the record at the same time. -/
theorem abreast_run (some : capacity ≠ 0) {first second : Table κ α} (one : first.Single capacity)
    (two : second.Single capacity) (left : first.Ordered) (right : second.Ordered)
    (abreast : Recency.Abreast key (first.orderOf key) (second.orderOf key))
    (fresh : (first.run rest).1.Unwrapped) (again : (second.run rest).1.Unwrapped)
    (quiet : ∀ later ∈ second.moments rest, ¬ later.Touches key)
    (kept : ∀ later ∈ second.moments rest, ¬ later.Discards key) :
    Recency.Abreast key ((first.run rest).1.orderOf key) ((second.run rest).1.orderOf key) := by
  induction rest generalizing first second with
  | nil => exact abreast
  | cons operation rest ih =>
    have follows := first.follows_perform operation
    have others := second.follows_perform operation
    have early := (follows_run rest (first.perform operation).1).unwrapped fresh
    have soon := (follows_run rest (second.perform operation).1).unwrapped again
    have found := right.find?_orderOf key
    have here := quiet ⟨second, operation⟩ List.mem_cons_self
    have held := kept ⟨second, operation⟩ List.mem_cons_self
    rw [TableMoment.Touches, ← found] at here
    rw [TableMoment.Discards, ← found] at held
    have same := (one.capacity_orderOf key).trans (two.capacity_orderOf key).symm
    have step := abreast.step (left.sound_orderOf key) (right.sound_orderOf key) same here held
    rw [← one.orderOf_perform some left operation early key,
      ← two.orderOf_perform some right operation soon key] at step
    exact ih (follows.single one) (others.single two) (follows.ordered early left)
      (others.ordered soon right) step fresh again
      (fun later member => quiet later (List.mem_cons_of_mem _ member))
      fun later member => kept later (List.mem_cons_of_mem _ member)

/-- How long a table of this capacity keeps the record of a key that was just used. -/
structure Survives (used : Table κ α) (capacity : Nat) (key : κ) (rest : List (TableOperation κ α)) :
    Prop where
  found_iff : (used.run rest).1.find? key ≠ none ↔
    ∀ early, early <+: rest → (rivals key (used.moments early)).encard < capacity
  idle : ∀ first operation later, rest = first ++ operation :: later →
    (TableMoment.mk (used.run first).1 operation).Idle key (used.moments first) →
    (used.run (first ++ later)).1.Unwrapped →
    ((used.run rest).1.find? key ≠ none ↔ (used.run (first ++ later)).1.find? key ≠ none)
  window : {other | other ≠ key ∧ ∃ moment ∈ used.moments rest, moment.Touches other}.encard < capacity →
    (used.run rest).1.find? key ≠ none

theorem Fate.found_iff (fate : table.Fate capacity key rest) (ordered : (table.run rest).1.Ordered) :
    (table.run rest).1.find? key ≠ none ↔
      ∀ early, early <+: rest → (rivals key (table.moments early)).encard < capacity := by
  rw [← ordered.find?_orderOf key]
  cases fate with
  | stands newer older stands ahead few => exact iff_of_true stands.found few
  | lost gone early earlier many =>
    exact iff_of_false (fun found => found gone) fun few => (few early earlier).not_ge many

theorem Fate.window (fate : table.Fate capacity key rest) (ordered : (table.run rest).1.Ordered)
    (narrow : {other | other ≠ key ∧ ∃ moment ∈ table.moments rest, moment.Touches other}.encard <
      capacity) : (table.run rest).1.find? key ≠ none := by
  rw [fate.found_iff ordered]
  rintro early ⟨later, rfl⟩
  refine lt_of_le_of_lt (Set.encard_le_encard fun other member => ?_) narrow
  obtain ⟨different, moment, inside, touches⟩ := TableMoment.rivals_subset key _ member
  refine ⟨different, moment, ?_, touches⟩
  rw [moments_append]
  exact List.mem_append_left _ inside

theorem Fate.abreast_idle (fate : table.Fate capacity key rest) (some : capacity ≠ 0)
    (single : (table.run rest).1.Single capacity) (ordered : (table.run rest).1.Ordered)
    {operation : TableOperation κ α} (fresh : ((table.run rest).1.perform operation).1.Unwrapped)
    (idle : (TableMoment.mk (table.run rest).1 operation).Idle key (table.moments rest)) :
    Recency.Abreast key ((table.run rest).1.orderOf key)
      (((table.run rest).1.perform operation).1.orderOf key) := by
  have found := single.find?_orderOf ordered key
  have touched := idle.touched
  have deleted := idle.deleted
  simp only [TableMoment.Touches, ← found] at touched
  simp only [← found] at deleted
  rw [single.orderOf_perform some ordered operation fresh key]
  cases fate with
  | lost gone early earlier many =>
    exact .lost gone (Recency.step_lost gone fun touches => (touched key touches).1 rfl)
  | stands newer older stands ahead few =>
    rw [ahead] at touched
    exact stands.abreast_step (ordered.sound_orderOf key) touched deleted idle.cleared

theorem Single.stands_perform (single : table.Single capacity) (some : capacity ≠ 0)
    (ordered : table.Ordered) {use : TableOperation κ α} (fresh : (table.perform use).1.Unwrapped)
    (touched : (TableMoment.mk table use).Touches key) :
    ∃ older, ((table.perform use).1.orderOf key).Stands key [] older := by
  rw [single.orderOf_perform some ordered use fresh key]
  rw [TableMoment.Touches, ← ordered.find?_orderOf key] at touched
  exact Recency.stands_step touched

theorem survives_of_first (some : capacity ≠ 0) (single : table.Single capacity)
    (ordered : table.Ordered) (first : ∃ older, (table.orderOf key).Stands key [] older)
    (fresh : (table.run rest).1.Unwrapped)
    (quiet : ∀ later ∈ table.moments rest, ¬ later.Touches key)
    (kept : ∀ later ∈ table.moments rest, ¬ later.Discards key) :
    table.Survives capacity key rest := by
  have fate := fate_run some single ordered first fresh quiet kept
  have final := (follows_run rest table).ordered fresh ordered
  refine ⟨fate.found_iff final, ?_, fate.window final⟩
  rintro early operation later rfl idle again
  rw [moments_append, moments_cons] at quiet kept
  rw [run_append, run] at fresh final ⊢
  rw [run_append] at again ⊢
  have follows := follows_run early table
  have start := (follows_run later _).unwrapped again
  have soon := (follows_run later _).unwrapped fresh
  have fate := fate_run some single ordered first start
    (fun moment member => quiet moment (List.mem_append_left _ member))
    fun moment member => kept moment (List.mem_append_left _ member)
  have single := follows.single single
  have before := follows.ordered start ordered
  have others := (table.run early).1.follows_perform operation
  have abreast := fate.abreast_idle some single before soon idle
  have ends := abreast_run some single (others.single single) before (others.ordered soon before) abreast
    again fresh
    (fun moment member => quiet moment (List.mem_append_right _ (List.mem_cons_of_mem _ member)))
    fun moment member => kept moment (List.mem_append_right _ (List.mem_cons_of_mem _ member))
  rw [← final.find?_orderOf key,
    ← ((follows_run later _).ordered again before).find?_orderOf key]
  exact ends.found_iff.symm

/-- A table of one shard loses the record of a key exactly when as many other keys as it has room for have been
touched since and not deleted. It makes no difference to that how often they are touched, nor what is
looked for in vain. -/
theorem survives_by_rivals (name : String) {capacity : Nat} (some : 1 ≤ capacity)
    (assignment : κ → UInt64) (past : List (TableOperation κ α)) (use : TableOperation κ α)
    {used : Table κ α} (reached : ((new name capacity 1 assignment).run (past ++ [use])).1 = used)
    (key : κ) (touched : (TableMoment.mk ((new name capacity 1 assignment).run past).1 use).Touches key)
    (rest : List (TableOperation κ α)) (quiet : ∀ later ∈ used.moments rest, ¬ later.Touches key)
    (kept : ∀ later ∈ used.moments rest, ¬ later.Discards key) (fresh : (used.run rest).1.Unwrapped) :
    used.Survives capacity key rest := by
  have some : capacity ≠ 0 := Nat.one_le_iff_ne_zero.mp some
  subst reached
  have begun := (follows_run rest _).unwrapped fresh
  have single := (follows_run past _).single (single_new (α := α) name capacity assignment)
  have follows := ((new name capacity 1 assignment).run past).1.follows_perform use
  rw [run_concat] at begun fresh quiet kept ⊢
  have ordered := ordered_run name capacity 1 assignment past (follows.unwrapped begun)
  exact survives_of_first some (follows.single single) (follows.ordered begun ordered)
    (single.stands_perform some ordered begun touched) fresh quiet kept

/-- In a table of two, the first record outlives a rival that is used twice and then deleted, and the next one; it
is lost to the second rival at a time. -/
theorem survives_by_rivals_third :
    let used : Table Nat Nat := ((new "two" 2 1 fun _ => 0).run [.update 1 10, .update 2 20, .lookup 1]).1
    let rest : List (TableOperation Nat Nat) :=
      [.lookup 9, .update 2 21, .modify 2 (· + 1), .contains 1, .delete 2, .update 3 30, .update 4 40]
    used.Survives 2 1 rest ∧ (used.run rest.dropLast).1.find? 1 = some 10 ∧
      (used.run rest).1.find? 1 = none :=
  ⟨survives_by_rivals "two" (by decide) (fun _ => 0) [.update 1 10, .update 2 20] (.lookup 1) rfl 1
    (by decide +kernel) _ (by decide +kernel) (by decide +kernel) (by decide +kernel),
    by decide +kernel, by decide +kernel⟩

end Table

end Confinement
