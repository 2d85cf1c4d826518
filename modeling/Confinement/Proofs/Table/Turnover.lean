import Confinement.Proofs.Table.Standing

/-! Which record an update costs, and in what order it leaves the others.

Only a new record costs another one, and only where its shard is full: the one that was used least recently of
that shard. The others stay, in the order in which they stood.
-/

set_option autoImplicit false

namespace Confinement

open Association (keys)

variable {κ α : Type}

theorem not_mem_dropLast_iff {elements : List κ} (distinct : elements.Nodup) {element : κ}
    (member : element ∈ elements) :
    element ∉ elements.dropLast ↔ elements.getLast? = some element := by
  rcases List.eq_nil_or_concat' elements with rfl | ⟨first, last, rfl⟩
  · cases member
  · rw [List.dropLast_concat, List.getLast?_concat, Option.some.injEq]
    constructor
    · intro gone
      exact (List.mem_singleton.mp ((List.mem_append.mp member).resolve_left gone)).symm
    · rintro rfl again
      exact List.disjoint_of_nodup_append distinct again (List.mem_singleton_self last)

variable [DecidableEq κ]

namespace Recency

variable {order : Recency κ α} {key other : κ}

theorem Sound.insertNew_lost_iff (sound : order.Sound) (different : other ≠ key)
    (found : order.find? other ≠ none) (value : α) :
    (order.insertNew key value).find? other = none ↔
      order.capacity ≤ order.records.length ∧ (keys order.records).getLast? = some other := by
  rw [ne_eq, find?_eq_none_iff, not_not] at found
  rw [find?_eq_none_iff, keys_insertNew, List.mem_cons, not_or]
  by_cases room : order.records.length < order.capacity
  · rw [if_pos room]
    exact iff_of_false (fun gone => gone.2 found) fun full => Nat.not_lt.mpr full.1 room
  · rw [if_neg room, not_mem_dropLast_iff sound.distinct found]
    exact ⟨fun gone => ⟨Nat.not_lt.mp room, gone.2⟩, fun last => ⟨different, last.2⟩⟩

/-- A record that was just used can only be the last one if there is no other. -/
theorem Sound.single_of_last (sound : order.Sound) {value : α} (present : order.find? key = some value)
    {change : α → α} (last : (keys (order.touch key change).records).getLast? = some key) :
    keys order.records = [key] := by
  have member := Association.mem_keys_of_mem (Association.mem_of_find? present)
  have shorter := Association.length_erase sound.distinct member
  have none : Association.erase key order.records = [] := by
    rw [touch_present present, Association.put, Association.keys_cons] at last
    rcases List.eq_nil_or_concat' (Association.erase key order.records) with none | ⟨first, final, some⟩
    · exact none
    · have inside : final.1 ∈ keys (Association.erase key order.records) :=
        Association.mem_keys_of_mem (some ▸ List.mem_concat_self)
      rw [Association.keys_erase] at inside
      rw [some, keys, List.map_append, ← List.cons_append, List.map_singleton, List.getLast?_concat,
        Option.some.injEq] at last
      simp [last] at inside
  rw [none] at shorter
  obtain ⟨pair, same⟩ := List.length_eq_one_iff.mp shorter.symm
  rw [same] at member ⊢
  exact congrArg (fun key => [key]) (List.mem_singleton.mp member).symm

theorem sublist_touch (order : Recency κ α) (key : κ) (change : α → α) :
    ((order.touch key change).records.filter (·.1 ≠ key)).Sublist order.records := by
  cases found : order.find? key with
  | none =>
    rw [touch_absent found]
    exact List.filter_sublist
  | some value =>
    rw [touch_present found, Association.put, List.filter_cons_of_neg (by simp)]
    exact List.filter_sublist.trans (Association.erase_sublist key order.records)

theorem sublist_insertNew (order : Recency κ α) (key : κ) (value : α) :
    ((order.insertNew key value).records.filter (·.1 ≠ key)).Sublist order.records := by
  rw [insertNew, List.filter_cons_of_neg (by simp)]
  split
  · exact List.filter_sublist
  · exact List.filter_sublist.trans (List.dropLast_sublist _)

end Recency

namespace Table

variable {table : Table κ α} {key other : κ} {value : α}

theorem Each.lost_update_iff (ordered : table.Ordered) (some : (table.shardOf key).capacity ≠ 0)
    (fresh : (table.update key value).1.Unwrapped) (different : other ≠ key)
    (found : table.find? other ≠ none) :
    (table.update key value).1.find? other = none ↔
      table.find? key = none ∧ table.shardIndex other = table.shardIndex key ∧
        (table.shardOf key).capacity ≤ (table.shardOf key).size ∧
        (keys (table.orderOf key).records).getLast? = .some other := by
  cases present : table.find? key with
  | some old =>
    have updated := updated_update ordered.bounded key value
    rw [update_present present] at updated ⊢
    cases updated with
    | replaced _ kept _ =>
      rw [kept, if_neg different]
      exact iff_of_false found fun lost => Option.some_ne_none old lost.1
  | none =>
    have later := (table.follows_update key value).ordered fresh ordered
    have sound := ordered.sound_orderOf key
    have count : (table.orderOf key).records.length = (table.shardOf key).size :=
      (ordered.shardOf key).length_records
    rw [← later.find?_orderOf other, ordered.orderOf_update_absent present some value fresh]
    by_cases same : table.shardIndex other = table.shardIndex key
    · rw [← ordered.find?_orderOf other, orderOf_congr same] at found
      rw [if_pos same, sound.insertNew_lost_iff different found, count]
      exact ⟨fun lost => ⟨rfl, same, lost⟩, fun lost => lost.2.2⟩
    · rw [if_neg same, ordered.find?_orderOf]
      exact iff_of_false found fun lost => same lost.2.1

theorem Each.sublist_lookup (ordered : table.Ordered) (fresh : (table.lookup key).1.Unwrapped)
    (other : κ) :
    (((table.lookup key).1.orderOf other).records.filter (·.1 ≠ key)).Sublist
      (table.orderOf other).records := by
  rw [ordered.orderOf_lookup key fresh]
  split
  next same =>
    rw [orderOf_congr same]
    exact Recency.sublist_touch _ key id
  next => exact List.filter_sublist

theorem Each.sublist_update (ordered : table.Ordered) (some : (table.shardOf key).capacity ≠ 0)
    (fresh : (table.update key value).1.Unwrapped) (other : κ) :
    (((table.update key value).1.orderOf other).records.filter (·.1 ≠ key)).Sublist
      (table.orderOf other).records := by
  cases present : table.find? key with
  | some old =>
    rw [ordered.orderOf_update_present present value fresh]
    split
    next same =>
      rw [orderOf_congr same]
      exact Recency.sublist_touch _ key _
    next => exact List.filter_sublist
  | none =>
    rw [ordered.orderOf_update_absent present some value fresh]
    split
    next same =>
      rw [orderOf_congr same]
      exact Recency.sublist_insertNew _ key value
    next => exact List.filter_sublist

end Table

end Confinement
