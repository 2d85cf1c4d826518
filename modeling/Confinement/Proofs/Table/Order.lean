import Confinement.Proofs.Table.Shard
import Confinement.Table.Recency

/-! The order of use in a shard whose counter has not started over.

As long as every tick is new, `order` is the inverse of the ticks that the entries carry, and it
ascends, so its head is the record that was used least recently. From this follows what a shard does
to the list of its records in the order of their use: a use moves a record to the front, a new record
comes in front, and the record that gives way is the last one.
-/

set_option autoImplicit false

namespace Confinement.Shard

open Association (keys)

variable {κ α : Type}

theorem insertTick_last {tick : UInt64} {order : List (UInt64 × κ)} (key : κ)
    (latest : ∀ earlier ∈ keys order, earlier < tick) :
    insertTick tick key order = order ++ [(tick, key)] := by
  induction order with
  | nil => rfl
  | cons first rest ih =>
    obtain ⟨earlier, other⟩ := first
    have before : earlier < tick := latest earlier List.mem_cons_self
    have notAfter : ¬ tick < earlier := UInt64.not_lt.mpr (UInt64.le_of_lt before)
    have different : tick ≠ earlier := (UInt64.ne_of_lt before).symm
    simp only [insertTick, if_neg notAfter, if_neg different, List.cons_append]
    rw [ih fun t member => latest t (List.mem_cons_of_mem _ member)]

theorem toNat_tick_count {shard : Shard κ α} (fresh : shard.uses + 1 < UInt64.size) :
    shard.count.tick.toNat = shard.uses + 1 :=
  UInt64.toNat_ofNat_of_lt' fresh

variable [DecidableEq κ]

/-- The order holds the ticks of the entries, ascending, and the counter has reached them all. -/
structure Ordered (shard : Shard κ α) : Prop extends Bounded shard where
  linked : ∀ tick key, (tick, key) ∈ shard.order ↔
    ∃ entry, Association.find? key shard.entries = some entry ∧ entry.lastUsed = tick
  ascending : (keys shard.order).Pairwise (· < ·)
  counted : ∀ tick ∈ keys shard.order, 1 ≤ tick.toNat ∧ tick.toNat ≤ shard.uses

theorem ordered_empty (capacity : Nat) : (empty capacity : Shard κ α).Ordered where
  toBounded := bounded_empty capacity
  linked := by simp [empty, Association.find?]
  ascending := List.Pairwise.nil
  counted := by simp [empty]

theorem ordered_clear (shard : Shard κ α) : shard.clear.Ordered where
  toBounded := bounded_clear shard
  linked := by simp [clear, Association.find?]
  ascending := List.Pairwise.nil
  counted := by simp [clear]

namespace Ordered

variable {shard : Shard κ α}

theorem ticks_distinct (ordered : shard.Ordered) : (keys shard.order).Nodup :=
  ordered.ascending.imp UInt64.ne_of_lt

theorem count (ordered : shard.Ordered) : shard.count.Ordered where
  toBounded := ⟨ordered.distinct, ordered.room⟩
  linked := ordered.linked
  ascending := ordered.ascending
  counted tick member := by
    have bounds := ordered.counted tick member
    exact ⟨bounds.1, Nat.le_succ_of_le bounds.2⟩

theorem setValue (ordered : shard.Ordered) (key : κ) (change : α → α) :
    (shard.setValue key change).Ordered where
  toBounded := ordered.toBounded.setValue key change
  linked tick other := by
    change (tick, other) ∈ shard.order ↔ _
    rw [ordered.linked tick other]
    by_cases same : other = key
    · subst other
      cases found : Association.find? key shard.entries <;> simp [Shard.setValue, found]
    · simp [Shard.setValue, same]
  ascending := ordered.ascending
  counted := ordered.counted

theorem eq_of_tick (ordered : shard.Ordered) {tick : UInt64} {first second : κ}
    (left : (tick, first) ∈ shard.order) (right : (tick, second) ∈ shard.order) :
    first = second := by
  have found := Association.find?_of_mem ordered.ticks_distinct left
  rw [Association.find?_of_mem ordered.ticks_distinct right] at found
  exact (Option.some.inj found).symm

theorem mem_order_of_find? (ordered : shard.Ordered) {key : κ} {entry : Entry α}
    (found : Association.find? key shard.entries = some entry) :
    (entry.lastUsed, key) ∈ shard.order :=
  (ordered.linked entry.lastUsed key).mpr ⟨entry, found, rfl⟩

theorem remove (ordered : shard.Ordered) (key : κ) : (shard.remove key).1.Ordered := by
  cases found : Association.find? key shard.entries with
  | none => simpa [Shard.remove, found] using ordered
  | some entry =>
    have kept : (Association.erase entry.lastUsed shard.order).Sublist shard.order :=
      Association.erase_sublist _ _
    have link := ordered.mem_order_of_find? found
    -- A tick belongs to one key: erasing it takes the stamp of this key and no other.
    refine ⟨ordered.toBounded.remove key, fun tick other => ?_, ?_, ?_⟩
    · simp only [Shard.remove, found, Association.find?_erase]
      by_cases same : other = key
      · subst other
        simp only [if_pos, reduceCtorEq, false_and, exists_false, iff_false]
        intro member
        obtain ⟨member, different⟩ := List.mem_filter.mp member
        obtain ⟨other, otherFound, sameTick⟩ := (ordered.linked tick key).mp member
        rw [found, Option.some.injEq] at otherFound
        simp [otherFound, sameTick] at different
      · rw [if_neg same, ← ordered.linked tick other]
        refine ⟨fun member => kept.subset member, fun member => List.mem_filter.mpr ⟨member, ?_⟩⟩
        have different : tick ≠ entry.lastUsed := by
          rintro rfl
          exact same (ordered.eq_of_tick member link)
        simpa using different
    · simpa [Shard.remove, found] using
        ordered.ascending.sublist (Association.keys_sublist kept)
    · intro tick member
      simp only [Shard.remove, found] at member ⊢
      exact ordered.counted tick ((Association.keys_sublist kept).subset member)

theorem tick_latest (ordered : shard.Ordered) (fresh : shard.uses + 1 < UInt64.size) :
    ∀ earlier ∈ keys shard.order, earlier < shard.count.tick := by
  intro earlier member
  have bound := (ordered.counted earlier member).2
  rw [UInt64.lt_iff_toNat_lt, toNat_tick_count fresh]
  exact Nat.lt_succ_of_le bound

end Ordered

/-! ## The newest record -/

structure Stamps (before after : Shard κ α) (key : κ) (value : α) : Prop where
  absent : Association.find? key before.entries = none
  found : ∀ other, Association.find? other after.entries =
    if other = key then some ⟨value, before.count.tick⟩ else Association.find? other before.entries
  order : after.order = insertTick before.count.tick key before.order
  uses : after.uses = before.uses + 1

namespace Stamps

variable {before after : Shard κ α} {key : κ} {value : α}

theorem order_last (stamps : Stamps before after key value) (ordered : before.Ordered)
    (fresh : before.uses + 1 < UInt64.size) :
    after.order = before.order ++ [(before.count.tick, key)] := by
  rw [stamps.order, insertTick_last key (ordered.tick_latest fresh)]

theorem ordered (stamps : Stamps before after key value) (ordered : before.Ordered)
    (fresh : before.uses + 1 < UInt64.size) (bounded : after.Bounded) : after.Ordered := by
  have latest := ordered.tick_latest fresh
  have order := stamps.order_last ordered fresh
  have ticks : keys after.order = keys before.order ++ [before.count.tick] := by
    simp [order, keys]
  refine ⟨bounded, fun tick other => ?_, ?_, ?_⟩
  · rw [order, List.mem_append, List.mem_singleton, ordered.linked tick other, stamps.found other]
    by_cases same : other = key
    · subst other
      simp [stamps.absent, eq_comm]
    · simp [same]
  · rw [ticks, List.pairwise_append]
    refine ⟨ordered.ascending, List.pairwise_singleton _ _, fun earlier member tick last => ?_⟩
    rw [List.mem_singleton] at last
    exact last ▸ latest earlier member
  · intro tick member
    rw [ticks, List.mem_append, List.mem_singleton] at member
    rw [stamps.uses]
    rcases member with member | rfl
    · have bounds := ordered.counted tick member
      exact ⟨bounds.1, Nat.le_succ_of_le bounds.2⟩
    · have exact := toNat_tick_count fresh
      omega

end Stamps

theorem stamps_touch {shard : Shard κ α} {key : κ} {value : α}
    (present : shard.find? key = some value) :
    Stamps (shard.remove key).1 (shard.touch key).1 key value := by
  obtain ⟨entry, found, same⟩ := Option.map_eq_some_iff.mp present
  refine ⟨?_, fun other => ?_, ?_, by simp⟩
  · rw [entries_remove, Association.find?_erase, if_pos rfl]
  · rw [entries_remove, Association.find?_erase]
    by_cases hit : other = key
    · subst other
      simp [touch, found, remove, tick, count, same]
    · simp [touch, found, hit, count]
  · simp [touch, found, remove, tick, count]

theorem Ordered.touch {shard : Shard κ α} (ordered : shard.Ordered)
    (fresh : shard.uses + 1 < UInt64.size) (key : κ) : (shard.touch key).1.Ordered := by
  cases present : shard.find? key with
  | none =>
    rw [touch_absent present]
    exact ordered.count
  | some value =>
    -- A hit is a removal followed by the insertion of the newest record.
    have fresh : (shard.remove key).1.uses + 1 < UInt64.size := by simpa using fresh
    exact (stamps_touch present).ordered (ordered.remove key) fresh (ordered.toBounded.touch key)

/-! ## The records in the order of their use -/

theorem mem_records {shard : Shard κ α} {key : κ} {value : α} :
    (key, value) ∈ shard.recency.records ↔
      shard.find? key = some value ∧ ∃ tick, (tick, key) ∈ shard.order := by
  simp only [recency, List.mem_filterMap, List.mem_reverse, Option.map_eq_some_iff, Prod.mk.injEq]
  constructor
  · rintro ⟨stamp, member, found, present, rfl, rfl⟩
    exact ⟨present, stamp.1, member⟩
  · rintro ⟨present, tick, member⟩
    exact ⟨(tick, key), member, value, present, rfl, rfl⟩

namespace Ordered

variable {shard : Shard κ α}

theorem exists_tick_iff (ordered : shard.Ordered) (key : κ) :
    (∃ tick, (tick, key) ∈ shard.order) ↔ key ∈ keys shard.entries := by
  simp only [ordered.linked, ← Association.isSome_find?_iff, Option.isSome_iff_exists]
  constructor
  · rintro ⟨_, entry, found, _⟩
    exact ⟨entry, found⟩
  · rintro ⟨entry, found⟩
    exact ⟨_, entry, found, rfl⟩

theorem keys_records (ordered : shard.Ordered) :
    keys shard.recency.records = (shard.order.map Prod.snd).reverse := by
  have recorded : ∀ stamp ∈ shard.order.reverse, (shard.find? stamp.2).isSome := by
    intro stamp member
    have present := (ordered.exists_tick_iff stamp.2).mp ⟨stamp.1, List.mem_reverse.mp member⟩
    rw [Option.isSome_iff_ne_none, ne_eq, find?_eq_none_iff]
    exact not_not.mpr present
  rw [← List.map_reverse, recency]
  -- The induction is on the stamps alone; the shard, where they are looked up, stays as it is.
  generalize shard.order.reverse = stamps at recorded
  induction stamps with
  | nil => rfl
  | cons first rest ih =>
    obtain ⟨value, found⟩ := Option.isSome_iff_exists.mp (recorded first List.mem_cons_self)
    have tail := ih fun stamp member => recorded stamp (List.mem_cons_of_mem _ member)
    simp [found, tail]

theorem keys_distinct (ordered : shard.Ordered) : (keys shard.recency.records).Nodup := by
  have pairs : shard.order.Nodup := ordered.ticks_distinct.of_map Prod.fst
  rw [ordered.keys_records, List.nodup_reverse]
  refine pairs.map_on fun first left second right same => ?_
  obtain ⟨entry, found, tick⟩ := (ordered.linked first.1 first.2).mp left
  obtain ⟨other, otherFound, otherTick⟩ := (ordered.linked second.1 second.2).mp right
  rw [← same, found, Option.some.injEq] at otherFound
  exact Prod.ext (by rw [← tick, ← otherTick, otherFound]) same

theorem length_records (ordered : shard.Ordered) : shard.recency.records.length = shard.size := by
  have same : (keys shard.recency.records).Perm (keys shard.entries) := by
    rw [List.perm_ext_iff_of_nodup ordered.keys_distinct ordered.distinct]
    intro key
    rw [ordered.keys_records, List.mem_reverse, ← ordered.exists_tick_iff key]
    simp
  simpa [keys, size] using same.length_eq

theorem find?_recency (ordered : shard.Ordered) (key : κ) :
    shard.recency.find? key = shard.find? key := by
  cases present : shard.find? key with
  | none =>
    refine (Association.find?_eq_none_iff _ _).mpr fun member => ?_
    obtain ⟨pair, member, same⟩ := List.mem_map.mp member
    have found := (mem_records.mp (same ▸ member : (key, pair.2) ∈ shard.recency.records)).1
    rw [present] at found
    cases found
  | some value =>
    obtain ⟨entry, found, _⟩ := Option.map_eq_some_iff.mp present
    exact Association.find?_of_mem ordered.keys_distinct
      (mem_records.mpr ⟨present, entry.lastUsed, ordered.mem_order_of_find? found⟩)

theorem recency_remove (ordered : shard.Ordered) (key : κ) :
    (shard.remove key).1.recency = shard.recency.erase key := by
  cases found : Association.find? key shard.entries with
  | none =>
    have absent : key ∉ keys shard.recency.records := by
      rw [← Association.find?_eq_none_iff]
      exact (ordered.find?_recency key).trans (by simp [find?, found])
    simp [Shard.remove, found, Recency.erase, Association.erase_of_absent absent]
  | some entry =>
    have link := ordered.mem_order_of_find? found
    have order : (shard.remove key).1.order = Association.erase entry.lastUsed shard.order := by
      simp [Shard.remove, found]
    rw [recency, recency, Recency.erase, order, capacity_remove]
    simp only [Association.erase, ← List.filter_reverse, List.filterMap_filter,
      List.filter_filterMap, find?_remove]
    congr 1
    apply List.filterMap_congr
    -- By key or by tick, the same stamps are left out.
    intro stamp member
    by_cases same : stamp.2 = key
    · cases present : shard.find? key <;> simp [same, present, Option.filter]
    · have different : stamp.1 ≠ entry.lastUsed := by
        intro tick
        have member : (entry.lastUsed, stamp.2) ∈ shard.order := by
          rw [← tick]
          exact List.mem_reverse.mp member
        exact same (ordered.eq_of_tick member link)
      cases present : shard.find? stamp.2 <;> simp [same, different, Option.filter]

end Ordered

theorem Stamps.records {before after : Shard κ α} {key : κ} {value : α}
    (stamps : Stamps before after key value) (ordered : before.Ordered)
    (fresh : before.uses + 1 < UInt64.size) :
    after.recency.records = (key, value) :: before.recency.records := by
  have stored : after.find? key = some value := by simp [find?, stamps.found]
  have order := stamps.order_last ordered fresh
  -- No earlier stamp is that of the key, so none of the others changes its meaning.
  have others : (before.order.reverse.filterMap fun stamp =>
      (after.find? stamp.2).map fun value => (stamp.2, value)) = before.recency.records := by
    apply List.filterMap_congr
    intro stamp member
    have different : stamp.2 ≠ key := by
      intro same
      obtain ⟨entry, found, _⟩ :=
        (ordered.linked stamp.1 stamp.2).mp (List.mem_reverse.mp member)
      rw [same, stamps.absent] at found
      cases found
    simp [find?, stamps.found, different]
  rw [← others]
  simp [recency, order, stored]

theorem Ordered.recency_touch {shard : Shard κ α} (ordered : shard.Ordered)
    (fresh : shard.uses + 1 < UInt64.size) (key : κ) :
    (shard.touch key).1.recency = shard.recency.touch key id := by
  rw [Recency.touch, ordered.find?_recency key]
  cases present : shard.find? key with
  | none =>
    rw [touch_absent present]
    rfl
  | some value =>
    have fresh : (shard.remove key).1.uses + 1 < UInt64.size := by simpa using fresh
    have records := (stamps_touch present).records (ordered.remove key) fresh
    rw [ordered.recency_remove key] at records
    exact Recency.ext (shard.capacity_touch key) records

theorem recency_setValue (shard : Shard κ α) (key : κ) (change : α → α) :
    (shard.setValue key change).recency.records =
      Association.adjust key change shard.recency.records := by
  simp only [recency, Association.adjust, List.map_filterMap, find?_setValue]
  apply List.filterMap_congr
  intro stamp _
  by_cases same : stamp.2 = key <;> cases present : shard.find? stamp.2 <;> simp [same]

theorem Ordered.recency_modify {shard : Shard κ α} (ordered : shard.Ordered)
    (fresh : shard.uses + 1 < UInt64.size) (key : κ) (change : α → α) :
    ((shard.touch key).1.setValue key change).recency = shard.recency.touch key change := by
  apply Recency.ext
  · rw [Recency.touch]
    cases shard.recency.find? key <;> exact shard.capacity_touch key
  · rw [recency_setValue, ordered.recency_touch fresh key, Recency.touch, Recency.touch]
    cases present : shard.recency.find? key with
    | none =>
      exact Association.adjust_of_absent ((Association.find?_eq_none_iff _ _).mp present) change
    | some value =>
      have absent : key ∉ keys (Association.erase key shard.recency.records) := by
        simp [Association.keys_erase]
      have others := Association.adjust_of_absent absent change
      rw [Association.adjust] at others
      simp [Association.put, Association.adjust, others]

/-! ## Room for a new record -/

def roomy (shard : Shard κ α) : Shard κ α :=
  { shard with entries := shard.room.entries, order := shard.room.order }

/-- A full shard drops the head of its order, which is the last of its records. -/
theorem Ordered.room_full {shard : Shard κ α} (ordered : shard.Ordered) (some : shard.capacity ≠ 0)
    (full : shard.size = shard.capacity) :
    ∃ tick oldest, shard.order.head? = .some (tick, oldest) ∧ shard.room.dropped = true ∧
      shard.room.enough = true ∧ shard.roomy = (shard.remove oldest).1 := by
  cases stamps : shard.order with
  | nil =>
    have empty := ordered.length_records
    rw [recency, stamps, full] at empty
    exact absurd empty.symm some
  | cons first rest =>
    obtain ⟨tick, oldest⟩ := first
    have member : (tick, oldest) ∈ shard.order := stamps ▸ List.mem_cons_self
    obtain ⟨entry, found, same⟩ := (ordered.linked tick oldest).mp member
    have present : oldest ∈ keys shard.entries := by
      rw [← Association.isSome_find?_iff, found]
      rfl
    have shorter := Association.length_erase ordered.distinct present
    have full : shard.entries.length = shard.capacity := full
    -- One round of the loop is enough, as a bounded shard is never more than full.
    have fits : (Association.erase oldest shard.entries).length < shard.capacity := by omega
    have room : shard.room = ⟨rest, Association.erase oldest shard.entries, true, true⟩ := by
      rw [Shard.room, stamps, makeRoom, if_neg (by omega), makeRoom_of_room fits]
    have distinct := ordered.ticks_distinct
    rw [stamps, Association.keys_cons, List.nodup_cons] at distinct
    have dropped : Association.erase entry.lastUsed shard.order = rest := by
      rw [stamps, same, Association.erase_cons, if_pos rfl,
        Association.erase_of_absent distinct.1]
    refine ⟨tick, oldest, rfl, by rw [room], by rw [room], ?_⟩
    rw [roomy, room, Shard.remove, found]
    simp only [dropped]

theorem Ordered.erase_oldest {shard : Shard κ α} (ordered : shard.Ordered) {tick : UInt64}
    {oldest : κ} (head : shard.order.head? = some (tick, oldest)) :
    (shard.recency.erase oldest).records = shard.recency.records.dropLast := by
  obtain ⟨rest, stamps⟩ := List.head?_eq_some_iff.mp head
  have member : (tick, oldest) ∈ shard.order := stamps ▸ List.mem_cons_self
  obtain ⟨entry, found, _⟩ := (ordered.linked tick oldest).mp member
  have present : shard.find? oldest = some entry.value := by simp [find?, found]
  obtain ⟨earlier, records⟩ :
      ∃ earlier, shard.recency.records = earlier ++ [(oldest, entry.value)] := by
    refine ⟨rest.reverse.filterMap fun stamp =>
      (shard.find? stamp.2).map fun value => (stamp.2, value), ?_⟩
    simp [recency, stamps, present]
  have distinct := ordered.keys_distinct
  simp only [records, keys, List.map_append, List.map_cons, List.map_nil] at distinct
  have absent : oldest ∉ keys earlier := fun again =>
    List.disjoint_of_nodup_append distinct again (List.mem_singleton_self _)
  change Association.erase oldest shard.recency.records = _
  rw [records, Association.erase_append, Association.erase_of_absent absent,
    Association.erase_cons, if_pos rfl, List.dropLast_concat]
  exact List.append_nil _

/-- Making room drops the last record exactly when the list of records is full. -/
theorem Ordered.roomy {shard : Shard κ α} (ordered : shard.Ordered) (some : shard.capacity ≠ 0) :
    shard.room.enough = true ∧ shard.room.dropped = decide (shard.capacity ≤ shard.size) ∧
      shard.roomy.Ordered ∧ shard.roomy.recency.records =
        if shard.size < shard.capacity then shard.recency.records
        else shard.recency.records.dropLast := by
  by_cases room : shard.size < shard.capacity
  · have unchanged : shard.room = ⟨shard.order, shard.entries, false, true⟩ :=
      makeRoom_of_room room _ _
    have same : shard.roomy = shard := by rw [Shard.roomy, unchanged]
    refine ⟨by rw [unchanged], ?_, same.symm ▸ ordered, ?_⟩
    · rw [unchanged]
      exact (decide_eq_false (Nat.not_le.mpr room)).symm
    · rw [same, if_pos room]
  · have full : shard.size = shard.capacity := Nat.le_antisymm ordered.room (Nat.not_lt.mp room)
    obtain ⟨tick, oldest, head, dropped, enough, same⟩ := ordered.room_full some full
    refine ⟨enough, ?_, same.symm ▸ ordered.remove oldest, ?_⟩
    · rw [dropped]
      exact (decide_eq_true (Nat.le_of_eq full.symm)).symm
    · rw [same, if_neg room, ordered.recency_remove oldest, ordered.erase_oldest head]

theorem stamps_insertNew {shard : Shard κ α} {key : κ} (some : shard.capacity ≠ 0)
    (enough : shard.room.enough = true) (absent : shard.roomy.find? key = none) (value : α) :
    Stamps shard.roomy (shard.insertNew key value).1 key value := by
  rw [insertNew_taken some enough]
  refine ⟨?_, fun other => ?_, rfl, rfl⟩
  · simpa [find?] using absent
  · simp [Shard.roomy, tick, count]

theorem Ordered.insertNew {shard : Shard κ α} (ordered : shard.Ordered)
    (some : shard.capacity ≠ 0) {key : κ} (absent : shard.find? key = none) (value : α)
    (fresh : (shard.insertNew key value).1.uses < UInt64.size) :
    (shard.insertNew key value).1.Ordered ∧
      (shard.insertNew key value).2 = .ok (decide (shard.capacity ≤ shard.size)) ∧
      (shard.insertNew key value).1.recency = shard.recency.insertNew key value := by
  obtain ⟨enough, dropped, roomy, records⟩ := ordered.roomy some
  have gone : shard.roomy.find? key = none := by
    rw [find?_eq_none_iff] at absent ⊢
    intro member
    exact absent ((Association.keys_sublist (makeRoom_sublist _ _ _ _)).subset member)
  have stamps := stamps_insertNew some enough gone value
  have bounded := ordered.toBounded.insertNew key value
  rw [stamps.uses] at fresh
  refine ⟨stamps.ordered roomy fresh bounded, ?_, ?_⟩
  · rw [insertNew_taken some enough, dropped]
  · apply Recency.ext
    · exact shard.capacity_insertNew key value
    · rw [stamps.records roomy fresh, records, Recency.insertNew, ordered.length_records]
      rfl

end Confinement.Shard
