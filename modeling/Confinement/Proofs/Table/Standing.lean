import Confinement.Proofs.Table.Inclusion
import Confinement.Proofs.Table.Recency

/-! Where the record of a key stands in the order of use.

Before it are the records that were used since, behind it the others. The use of another record brings that
one to the front, and the last record gives way to a new one. So the record of the key goes only when a
new record comes into a full list in which there is nothing behind it.
-/

set_option autoImplicit false

namespace Confinement

open Association (keys)

variable {κ α : Type}

def TableOperation.Touches (operation : TableOperation κ α) (key : κ) (found : Prop) : Prop :=
  match operation with
  | .update other _ => other = key
  | .lookup other | .modify other _ => other = key ∧ found
  | _ => False

def TableOperation.Discards (operation : TableOperation κ α) (key : κ) (found : Prop) : Prop :=
  match operation with
  | .delete other => other = key ∧ found
  | .clear => found
  | _ => False

instance [DecidableEq κ] (operation : TableOperation κ α) (key : κ) (found : Prop) [Decidable found] :
    Decidable (operation.Touches key found) :=
  match operation with
  | .update other _ => inferInstanceAs (Decidable (other = key))
  | .lookup other | .modify other _ => inferInstanceAs (Decidable (other = key ∧ found))
  | .delete _ | .contains _ | .clear | .size | .evictions => inferInstanceAs (Decidable False)

instance [DecidableEq κ] (operation : TableOperation κ α) (key : κ) (found : Prop) [Decidable found] :
    Decidable (operation.Discards key found) :=
  match operation with
  | .delete other => inferInstanceAs (Decidable (other = key ∧ found))
  | .clear => inferInstanceAs (Decidable found)
  | .update _ _ | .lookup _ | .modify _ _ | .contains _ | .size | .evictions =>
    inferInstanceAs (Decidable False)

namespace Recency

structure Sound (order : Recency κ α) : Prop where
  distinct : (keys order.records).Nodup
  room : order.records.length ≤ order.capacity

/-- The record of the key comes after those of the newer keys and before those of the older ones. -/
def Stands (order : Recency κ α) (key : κ) (newer older : List κ) : Prop :=
  keys order.records = newer ++ key :: older

variable {order : Recency κ α} {key other : κ} {newer older : List κ} {value : α}

theorem Stands.length (stands : order.Stands key newer older) :
    order.records.length = newer.length + 1 + older.length := by
  have lengths := congrArg List.length stands
  simp only [keys, List.length_map, List.length_append, List.length_cons] at lengths
  omega

theorem Stands.few (stands : order.Stands key newer older) (sound : order.Sound) :
    newer.length < order.capacity := by
  have room := sound.room
  have length := stands.length
  omega

theorem Stands.distinct (stands : order.Stands key newer older) (sound : order.Sound) :
    newer.Nodup ∧ key ∉ newer := by
  have distinct := sound.distinct
  rw [stands] at distinct
  exact ⟨distinct.of_append_left, fun member =>
    List.disjoint_of_nodup_append distinct member List.mem_cons_self⟩

theorem keys_insertNew (order : Recency κ α) (other : κ) (value : α) :
    keys (order.insertNew other value).records =
      other :: if order.records.length < order.capacity then keys order.records
        else (keys order.records).dropLast := by
  rw [insertNew]
  split <;> simp [keys, List.map_dropLast]

/-- A new record comes in front, and if the list is full the last of the older ones gives way to it. -/
theorem Stands.insertNew (stands : order.Stands key newer older)
    (few : newer.length + 1 < order.capacity) (other : κ) (value : α) :
    (order.insertNew other value).Stands key (other :: newer)
      (if order.records.length < order.capacity then older else older.dropLast) := by
  rw [Stands, keys_insertNew]
  split
  next => rw [stands, List.cons_append]
  next full =>
    have some : older ≠ [] := by
      rintro rfl
      exact full (stands.length ▸ few)
    rw [stands, List.dropLast_append_of_ne_nil (List.cons_ne_nil key older),
      List.dropLast_cons_of_ne_nil some, List.cons_append]

theorem stands_insertNew (order : Recency κ α) (key : κ) (value : α) :
    ∃ older, (order.insertNew key value).Stands key [] older :=
  ⟨_, keys_insertNew order key value⟩

variable [DecidableEq κ]

theorem find?_eq_none_iff : order.find? key = none ↔ key ∉ keys order.records :=
  Association.find?_eq_none_iff key order.records

theorem Stands.found (stands : order.Stands key newer older) : order.find? key ≠ none := by
  rw [ne_eq, find?_eq_none_iff, stands]
  simp

theorem Stands.not_mem (stands : order.Stands key newer older) (absent : order.find? other = none) :
    other ∉ newer := by
  rw [find?_eq_none_iff, stands] at absent
  exact fun member => absent (List.mem_append_left _ member)

/-! ## The operations -/

theorem keys_touch (found : order.find? other = some value) (change : α → α) :
    keys (order.touch other change).records = other :: (keys order.records).filter (· ≠ other) := by
  rw [touch_present found]
  exact congrArg (other :: ·) (Association.keys_erase other order.records)

theorem Stands.filter (stands : order.Stands key newer older) (different : other ≠ key) :
    (keys order.records).filter (· ≠ other) =
      newer.filter (· ≠ other) ++ key :: older.filter (· ≠ other) := by
  rw [stands, List.filter_append, List.filter_cons_of_pos (by simpa using different.symm)]

theorem Stands.touch (stands : order.Stands key newer older) (found : order.find? other = some value)
    (different : other ≠ key) (change : α → α) :
    (order.touch other change).Stands key (other :: newer.filter (· ≠ other))
      (older.filter (· ≠ other)) := by
  rw [Stands, keys_touch found, stands.filter different, List.cons_append]

theorem Stands.erase (stands : order.Stands key newer older) (different : other ≠ key) :
    (order.erase other).Stands key (newer.filter (· ≠ other)) (older.filter (· ≠ other)) := by
  rw [Stands, ← stands.filter different]
  exact Association.keys_erase other order.records

theorem Stands.lost (stands : order.Stands key newer older) (sound : order.Sound)
    (full : order.capacity ≤ newer.length + 1) (different : other ≠ key) (value : α) :
    (order.insertNew other value).find? key = none := by
  have length := stands.length
  have room := sound.room
  have none : older = [] := List.length_eq_zero_iff.mp (by omega)
  subst none
  have fresh := (stands.distinct sound).2
  rw [find?_eq_none_iff, keys_insertNew, if_neg (by omega), stands, List.dropLast_concat]
  simpa [different.symm] using fresh

theorem stands_touch (found : order.find? key = some value) (change : α → α) :
    ∃ older, (order.touch key change).Stands key [] older :=
  ⟨_, keys_touch found change⟩

/-! ## One operation -/

inductive Passed (order : Recency κ α) (key : κ) (more : List κ) : Prop where
  | stands (less : List κ) (stands : order.Stands key more less)
  | lost (gone : order.find? key = none) (many : order.capacity ≤ more.length)

theorem Stands.step_touch (stands : order.Stands key newer older) (sound : order.Sound)
    (different : other ≠ key) (change : α → α) :
    ∃ more : List κ, more.Nodup ∧ (order.touch other change).Passed key more ∧
      ∀ used, used ∈ more ↔
        used ≠ key ∧ ((other = used ∧ order.find? used ≠ none) ∨ used ∈ newer) := by
  obtain ⟨distinct, fresh⟩ := stands.distinct sound
  have apart : ∀ used ∈ newer, used ≠ key := fun used member same => fresh (same ▸ member)
  cases present : order.find? other with
  | none =>
    rw [touch_absent present]
    refine ⟨newer, distinct, .stands older stands, fun used => ⟨fun member => ?_, ?_⟩⟩
    · exact ⟨apart used member, .inr member⟩
    · rintro ⟨_, ⟨rfl, found⟩ | member⟩
      · exact absurd present found
      · exact member
  | some old =>
    refine ⟨other :: newer.filter (· ≠ other), List.nodup_cons.mpr ⟨by simp, distinct.filter _⟩,
      .stands _ (stands.touch present different change), fun used => ⟨fun member => ?_, ?_⟩⟩
    · rcases List.mem_cons.mp member with rfl | later
      · exact ⟨different, .inl ⟨rfl, by simp [present]⟩⟩
      · exact ⟨apart used (List.mem_of_mem_filter later), .inr (List.mem_of_mem_filter later)⟩
    · rintro ⟨_, ⟨rfl, _⟩ | member⟩
      · exact List.mem_cons_self
      · by_cases same : used = other
        · exact same ▸ List.mem_cons_self
        · exact List.mem_cons_of_mem _ (List.mem_filter.mpr ⟨member, by simpa using same⟩)

theorem Stands.step_insertNew (stands : order.Stands key newer older) (sound : order.Sound)
    (different : other ≠ key) (absent : order.find? other = none) (value : α) :
    (other :: newer).Nodup ∧ (order.insertNew other value).Passed key (other :: newer) := by
  refine ⟨List.nodup_cons.mpr ⟨stands.not_mem absent, (stands.distinct sound).1⟩, ?_⟩
  by_cases few : newer.length + 1 < order.capacity
  · exact .stands _ (stands.insertNew few other value)
  · exact .lost (stands.lost sound (Nat.not_lt.mp few) different value) (Nat.not_lt.mp few)

variable {operation : TableOperation κ α}

/-- The keys before another one after an operation that does not touch that one. -/
theorem Stands.step (stands : order.Stands key newer older) (sound : order.Sound)
    (quiet : ¬ operation.Touches key (order.find? key ≠ none))
    (kept : ¬ operation.Discards key (order.find? key ≠ none)) :
    ∃ more : List κ, more.Nodup ∧ (order.step operation).Passed key more ∧
      ∀ other, other ∈ more ↔ other ≠ key ∧
        (operation.Touches other (order.find? other ≠ none) ∨
          other ∈ newer ∧ operation ≠ .delete other) := by
  obtain ⟨distinct, fresh⟩ := stands.distinct sound
  have apart : ∀ other ∈ newer, other ≠ key := fun other member same => fresh (same ▸ member)
  have found := stands.found
  cases operation with
  | update used value =>
    have different : used ≠ key := quiet
    cases present : order.find? used with
    | none =>
      obtain ⟨separate, passed⟩ := stands.step_insertNew sound different present value
      refine ⟨used :: newer, separate, by simpa [Recency.step, present] using passed, fun other => ?_⟩
      simp only [List.mem_cons, TableOperation.Touches, ne_eq, reduceCtorEq, not_false_eq_true, and_true]
      constructor
      · rintro (rfl | member)
        · exact ⟨different, .inl rfl⟩
        · exact ⟨apart other member, .inr member⟩
      · rintro ⟨_, rfl | member⟩
        · exact .inl rfl
        · exact .inr member
    | some old =>
      obtain ⟨more, separate, passed, members⟩ := stands.step_touch sound different fun _ => value
      refine ⟨more, separate, by simpa [Recency.step, present] using passed, fun other => ?_⟩
      have known : (used = other ∧ order.find? other ≠ none) ↔ used = other := by
        refine ⟨And.left, ?_⟩
        rintro rfl
        exact ⟨rfl, by simp [present]⟩
      rw [members, known]
      simp [TableOperation.Touches]
  | lookup used =>
    have different : used ≠ key := fun same => quiet ⟨same, found⟩
    obtain ⟨more, separate, passed, members⟩ := stands.step_touch sound different id
    exact ⟨more, separate, passed, by simpa [TableOperation.Touches] using members⟩
  | modify used change =>
    have different : used ≠ key := fun same => quiet ⟨same, found⟩
    obtain ⟨more, separate, passed, members⟩ := stands.step_touch sound different change
    exact ⟨more, separate, passed, by simpa [TableOperation.Touches] using members⟩
  | delete used =>
    have different : used ≠ key := fun same => kept ⟨same, found⟩
    refine ⟨newer.filter (· ≠ used), distinct.filter _, .stands _ (stands.erase different),
      fun other => ?_⟩
    simp only [List.mem_filter, decide_eq_true_eq, TableOperation.Touches, false_or, ne_eq,
      TableOperation.delete.injEq]
    constructor
    · rintro ⟨member, spared⟩
      exact ⟨apart other member, member, Ne.symm spared⟩
    · rintro ⟨_, member, spared⟩
      exact ⟨member, Ne.symm spared⟩
  | clear => exact absurd found kept
  | contains | size | evictions =>
    refine ⟨newer, distinct, .stands older stands, fun other => ?_⟩
    simpa [TableOperation.Touches] using apart other

theorem touch_lost (gone : order.find? key = none) (other : κ) (change : α → α) :
    (order.touch other change).find? key = none := by
  cases present : order.find? other with
  | none => rwa [touch_absent present]
  | some value =>
    have different : key ≠ other := by
      rintro rfl
      rw [gone] at present
      cases present
    rw [find?_eq_none_iff] at gone ⊢
    rw [keys_touch present]
    simp [different, gone]

theorem insertNew_lost (gone : order.find? key = none) (different : other ≠ key) (value : α) :
    (order.insertNew other value).find? key = none := by
  rw [find?_eq_none_iff] at gone ⊢
  rw [keys_insertNew, List.mem_cons, not_or]
  refine ⟨different.symm, ?_⟩
  split
  · exact gone
  · exact fun member => gone ((List.dropLast_sublist _).subset member)

theorem step_lost (gone : order.find? key = none)
    (quiet : ¬ operation.Touches key (order.find? key ≠ none)) :
    (order.step operation).find? key = none := by
  cases operation with
  | update other value =>
    rw [step]
    cases present : order.find? other with
    | none => exact insertNew_lost gone quiet value
    | some old => exact touch_lost gone other _
  | lookup other => exact touch_lost gone other id
  | modify other change => exact touch_lost gone other change
  | delete other =>
    refine (Association.find?_erase other key order.records).trans ?_
    rw [show Association.find? key order.records = none from gone, ite_self]
  | clear => rfl
  | contains | size | evictions => exact gone

theorem stands_step (touches : operation.Touches key (order.find? key ≠ none)) :
    ∃ older, (order.step operation).Stands key [] older := by
  cases operation with
  | update other value =>
    obtain rfl : other = key := touches
    rw [step]
    cases present : order.find? other with
    | none => exact stands_insertNew order other value
    | some old => exact stands_touch present _
  | lookup other =>
    obtain ⟨rfl, found⟩ := touches
    obtain ⟨value, present⟩ := Option.ne_none_iff_exists'.mp found
    exact stands_touch present id
  | modify other change =>
    obtain ⟨rfl, found⟩ := touches
    obtain ⟨value, present⟩ := Option.ne_none_iff_exists'.mp found
    exact stands_touch present change
  | delete | clear | contains | size | evictions => exact touches.elim

/-! ## Two lists side by side -/

/-- Two lists with the same records behind that of a key, and the same ones before it in any order; or both
without a record of the key. -/
inductive Abreast (key : κ) (first second : Recency κ α) : Prop where
  | standing (newer others older : List κ) (one : first.Stands key newer older)
      (other : second.Stands key others older) (same : newer.Perm others)
  | lost (one : first.find? key = none) (other : second.find? key = none)

variable {first second : Recency κ α}

section

variable {others : List κ} (one : first.Stands key newer older) (two : second.Stands key others older)
  (same : newer.Perm others)
include one two same

theorem absent_iff : first.find? other = none ↔ second.find? other = none := by
  have kept : (keys first.records).Perm (keys second.records) := by
    rw [one, two]
    exact same.append_right _
  rw [find?_eq_none_iff, find?_eq_none_iff, kept.mem_iff]

theorem Abreast.touch (different : other ≠ key) (change : α → α) :
    Abreast key (first.touch other change) (second.touch other change) := by
  cases present : first.find? other with
  | none =>
    rw [touch_absent present, touch_absent ((absent_iff one two same).mp present)]
    exact .standing newer others older one two same
  | some value =>
    have found : second.find? other ≠ none := by
      rw [ne_eq, ← absent_iff one two same, present]
      nofun
    obtain ⟨again, found⟩ := Option.ne_none_iff_exists'.mp found
    exact .standing _ _ _ (one.touch present different change) (two.touch found different change)
      ((same.filter _).cons other)

theorem Abreast.insertNew (left : first.Sound) (right : second.Sound)
    (alike : first.capacity = second.capacity) (different : other ≠ key) (value : α) :
    Abreast key (first.insertNew other value) (second.insertNew other value) := by
  have newest := same.length_eq
  by_cases few : newer.length + 1 < first.capacity
  · have before := one.insertNew few other value
    have after := two.insertNew (by omega) other value
    have lengths : second.records.length = first.records.length := by
      rw [one.length, two.length, newest]
    rw [lengths, ← alike] at after
    exact .standing _ _ _ before after (same.cons other)
  · exact .lost (one.lost left (Nat.not_lt.mp few) different value)
      (two.lost right (by omega) different value)

end

theorem Abreast.step (abreast : Abreast key first second) (one : first.Sound) (two : second.Sound)
    (same : first.capacity = second.capacity)
    (quiet : ¬ operation.Touches key (second.find? key ≠ none))
    (kept : ¬ operation.Discards key (second.find? key ≠ none)) :
    Abreast key (first.step operation) (second.step operation) := by
  cases abreast with
  | lost gone missing =>
    refine .lost (step_lost gone ?_) (step_lost missing quiet)
    rw [missing] at quiet
    rwa [gone]
  | standing newer others older left right permuted =>
    have found := right.found
    cases operation with
    | update used value =>
      have different : used ≠ key := quiet
      have known : first.find? used = none ↔ second.find? used = none :=
        absent_iff left right permuted
      rw [Recency.step, Recency.step]
      cases present : first.find? used with
      | none =>
        rw [known.mp present]
        exact .insertNew left right permuted one two same different value
      | some old =>
        have taken : first.find? used ≠ none := by simp [present]
        obtain ⟨again, present⟩ := Option.ne_none_iff_exists'.mp (mt known.mpr taken)
        rw [present]
        exact .touch left right permuted different _
    | lookup used => exact .touch left right permuted (fun same => quiet ⟨same, found⟩) id
    | modify used change => exact .touch left right permuted (fun same => quiet ⟨same, found⟩) change
    | delete used =>
      have different : used ≠ key := fun same => kept ⟨same, found⟩
      exact .standing _ _ _ (left.erase different) (right.erase different) (permuted.filter _)
    | clear => exact absurd found kept
    | contains | size | evictions => exact .standing newer others older left right permuted

theorem Abreast.found_iff (abreast : Abreast key first second) :
    first.find? key ≠ none ↔ second.find? key ≠ none := by
  cases abreast with
  | standing newer others older one two _ => exact iff_of_true one.found two.found
  | lost one two => rw [one, two]

theorem Stands.abreast_touch (stands : order.Stands key newer older) (sound : order.Sound)
    (member : other ∈ newer) (change : α → α) : Abreast key order (order.touch other change) := by
  obtain ⟨distinct, fresh⟩ := stands.distinct sound
  have different : other ≠ key := fun same => fresh (same ▸ member)
  have present : order.find? other ≠ none := fun absent => stands.not_mem absent member
  obtain ⟨value, found⟩ := Option.ne_none_iff_exists'.mp present
  have touched := stands.touch found different change
  have whole := sound.distinct
  rw [stands] at whole
  have apart : other ∉ older := fun again =>
    List.disjoint_of_nodup_append whole member (List.mem_cons_of_mem key again)
  have kept : older.filter (· ≠ other) = older :=
    List.filter_eq_self.mpr fun used inside => by
      simpa using fun same : used = other => apart (same ▸ inside)
  have erased : newer.erase other = newer.filter (· ≠ other) := by
    rw [distinct.erase_eq_filter]
    exact List.filter_congr fun used _ => decide_not.symm
  rw [kept] at touched
  exact .standing _ _ older stands touched (erased ▸ List.perm_cons_erase member)

/-- An operation that only touches newer records again leaves the others where they stand. -/
theorem Stands.abreast_step (stands : order.Stands key newer older) (sound : order.Sound)
    (touched : ∀ other, operation.Touches other (order.find? other ≠ none) → other ∈ newer)
    (deleted : ∀ other, operation = .delete other → order.find? other = none)
    (cleared : operation ≠ .clear) : Abreast key order (order.step operation) := by
  have unchanged : Abreast key order order := .standing newer newer older stands stands (.refl newer)
  cases operation with
  | update other value =>
    have member := touched other rfl
    obtain ⟨old, found⟩ := Option.ne_none_iff_exists'.mp fun absent => stands.not_mem absent member
    rw [Recency.step, found]
    exact stands.abreast_touch sound member _
  | lookup other =>
    by_cases found : order.find? other = none
    · rwa [Recency.step, touch_absent found]
    · exact stands.abreast_touch sound (touched other ⟨rfl, found⟩) id
  | modify other change =>
    by_cases found : order.find? other = none
    · rwa [Recency.step, touch_absent found]
    · exact stands.abreast_touch sound (touched other ⟨rfl, found⟩) change
  | delete other =>
    have absent := find?_eq_none_iff.mp (deleted other rfl)
    rwa [Recency.step, Recency.erase, Association.erase_of_absent absent]
  | clear => exact absurd rfl cleared
  | contains | size | evictions => exact unchanged

end Recency

theorem Table.Each.sound_orderOf [DecidableEq κ] {table : Table κ α} (ordered : table.Ordered) (key : κ) :
    (table.orderOf key).Sound :=
  ⟨(ordered.shardOf key).keys_distinct, ordered.length_orderOf_le key⟩

end Confinement
