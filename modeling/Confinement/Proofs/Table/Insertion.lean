import Confinement.Proofs.Table.Succession

/-! How a new record comes into a shard: the loop that makes room for it, round by round.

Each round drops the record at the head of the order, and takes its stamp off. So the stamps bound the rounds
in any shard, and the loop always ends, with room or without a stamp left. In a shard that has come of an empty
one the stamps are those of the records, and one round is enough.
-/

set_option autoImplicit false

namespace Confinement.Shard

open Association (keys)

variable {κ α : Type} [DecidableEq κ]

/-! ## The loop -/

def dropOldest? (shard : Shard κ α) : Option (Shard κ α) :=
  match shard.order with
  | [] => none
  | (_, key) :: order => some { shard with entries := Association.erase key shard.entries, order }

/-- What the loop does that makes room for one more record: how many rounds it takes, the shard that it ends
with, and whether that has room. -/
inductive Loops : Shard κ α → Nat → Shard κ α → Bool → Prop where
  | room {shard : Shard κ α} (fits : shard.size < shard.capacity) : Loops shard 0 shard true
  | stuck {shard : Shard κ α} (full : shard.capacity ≤ shard.size) (none : shard.dropOldest? = none) :
      Loops shard 0 shard false
  | round {shard next after : Shard κ α} {rounds : Nat} {enough : Bool}
      (full : shard.capacity ≤ shard.size) (dropped : shard.dropOldest? = some next)
      (rest : Loops next rounds after enough) : Loops shard (rounds + 1) after enough

theorem dropOldest?_eq_none_iff {shard : Shard κ α} : shard.dropOldest? = none ↔ shard.order = [] := by
  unfold dropOldest?
  split <;> simp [*]

theorem Loops.unique {shard first second : Shard κ α} {rounds count : Nat} {enough sufficient : Bool}
    (one : Loops shard rounds first enough) (other : Loops shard count second sufficient) :
    rounds = count ∧ first = second ∧ enough = sufficient := by
  induction one generalizing count with
  | room fits =>
    cases other with
    | room => exact ⟨rfl, rfl, rfl⟩
    | stuck full => exact absurd fits (Nat.not_lt.mpr full)
    | round full => exact absurd fits (Nat.not_lt.mpr full)
  | stuck full none =>
    cases other with
    | room fits => exact absurd fits (Nat.not_lt.mpr full)
    | stuck => exact ⟨rfl, rfl, rfl⟩
    | round _ dropped => simp [none] at dropped
  | round full dropped rest ih =>
    cases other with
    | room fits => exact absurd fits (Nat.not_lt.mpr full)
    | stuck _ none => simp [none] at dropped
    | round _ again later =>
      obtain rfl := Option.some.inj (dropped.symm.trans again)
      obtain ⟨rfl, rfl, rfl⟩ := ih later
      exact ⟨rfl, rfl, rfl⟩

/-- It comes to an end in every shard, since each round takes a stamp off the order. -/
theorem exists_loops (shard : Shard κ α) :
    ∃ rounds after enough, Loops shard rounds after enough ∧ rounds ≤ shard.order.length := by
  obtain ⟨entries, order, uses, capacity⟩ := shard
  -- The records do not bound the rounds, for a stamp may be that of no record.
  induction order generalizing entries with
  | nil =>
    by_cases fits : entries.length < capacity
    · exact ⟨0, _, _, .room fits, Nat.zero_le _⟩
    · exact ⟨0, _, _, .stuck (Nat.not_lt.mp fits) rfl, Nat.zero_le _⟩
  | cons stamp rest ih =>
    by_cases fits : entries.length < capacity
    · exact ⟨0, _, _, .room fits, Nat.zero_le _⟩
    · obtain ⟨rounds, after, enough, loops, bound⟩ := ih (Association.erase stamp.2 entries)
      exact ⟨rounds + 1, after, enough, .round (Nat.not_lt.mp fits) rfl loops, Nat.succ_le_succ bound⟩

theorem eq_of_dropOldest? {shard next : Shard κ α} (dropped : shard.dropOldest? = some next) :
    ∃ stamp rest, shard.order = stamp :: rest ∧
      next = { shard with entries := Association.erase stamp.2 shard.entries, order := rest } := by
  obtain ⟨entries, order, uses, capacity⟩ := shard
  cases order with
  | nil => cases dropped
  | cons stamp rest => exact ⟨stamp, rest, rfl, (Option.some.inj dropped).symm⟩

theorem Loops.eq_with {shard after : Shard κ α} {rounds : Nat} {enough : Bool}
    (loops : Loops shard rounds after enough) :
    after = { shard with entries := after.entries, order := after.order } := by
  induction loops with
  | room => rfl
  | stuck => rfl
  | round _ dropped _ ih =>
    obtain ⟨stamp, rest, _, rfl⟩ := eq_of_dropOldest? dropped
    exact ih

theorem Loops.makeRoom_eq {shard after : Shard κ α} {rounds : Nat} {enough : Bool}
    (loops : Loops shard rounds after enough) (before : Bool) :
    makeRoom shard.capacity shard.order shard.entries before =
      ⟨after.order, after.entries, before || decide (0 < rounds), enough⟩ := by
  induction loops generalizing before with
  | room fits => simp [makeRoom_of_room fits]
  | @stuck shard full none =>
    have missing : ¬ shard.entries.length < shard.capacity := Nat.not_lt.mpr full
    rw [dropOldest?_eq_none_iff.mp none]
    simp [makeRoom, missing]
  | @round shard next after rounds enough full dropped rest ih =>
    obtain ⟨stamp, rest, stamps, rfl⟩ := eq_of_dropOldest? dropped
    have missing : ¬ shard.entries.length < shard.capacity := Nat.not_lt.mpr full
    rw [stamps, makeRoom, if_neg missing]
    simpa using ih true

/-! ## The insertion -/

def store (shard : Shard κ α) (key : κ) (value : α) : Shard κ α :=
  { shard.count with
    entries := Association.put key ⟨value, shard.count.tick⟩ shard.entries
    order := insertTick shard.count.tick key shard.order }

@[simp] theorem find?_store (shard : Shard κ α) (key other : κ) (value : α) :
    (shard.store key value).find? other = if other = key then some value else shard.find? other := by
  by_cases same : other = key <;> simp [store, find?, same]

inductive Inserts (shard : Shard κ α) (key : κ) (value : α) :
    Nat → Shard κ α × Except Exhausted Bool → Prop where
  | closed (none : shard.capacity = 0) : Inserts shard key value 0 (shard, .error ⟨0⟩)
  | stored {rounds : Nat} {after : Shard κ α} (some : shard.capacity ≠ 0)
      (loops : Loops shard rounds after true) :
      Inserts shard key value rounds (after.store key value, .ok (decide (0 < rounds)))
  | refused {rounds : Nat} {after : Shard κ α} (some : shard.capacity ≠ 0)
      (loops : Loops shard rounds after false) :
      Inserts shard key value rounds (after, .error ⟨shard.capacity⟩)

/-- The insertion comes to an end after so many rounds, and in one way only. -/
def Ends (shard : Shard κ α) (key : κ) (value : α) (rounds : Nat) : Prop :=
  ∀ count result, Inserts shard key value count result ↔
    count = rounds ∧ result = shard.insertNew key value

section

variable {shard : Shard κ α} {key : κ} {value : α}

theorem Inserts.eq_insertNew {rounds : Nat} {result : Shard κ α × Except Exhausted Bool}
    (inserts : Inserts shard key value rounds result) : result = shard.insertNew key value := by
  cases inserts with
  | closed none => exact (insertNew_none none key value).symm
  | @stored rounds after some loops =>
    have room : shard.room = ⟨after.order, after.entries, decide (0 < rounds), true⟩ := by
      rw [Shard.room, loops.makeRoom_eq, Bool.false_or]
    rw [insertNew_taken some (by rw [room]), room, loops.eq_with]
    rfl
  | @refused rounds after some loops =>
    have room : shard.room = ⟨after.order, after.entries, decide (0 < rounds), false⟩ := by
      rw [Shard.room, loops.makeRoom_eq, Bool.false_or]
    rw [insertNew_refused some (by rw [room]), room, ← loops.eq_with]

theorem Inserts.eq_zero {rounds : Nat} {result : Shard κ α × Except Exhausted Bool}
    (inserts : Inserts shard key value rounds result) (none : shard.capacity = 0) : rounds = 0 := by
  cases inserts with
  | closed => rfl
  | stored some => exact absurd none some
  | refused some => exact absurd none some

theorem Inserts.exists_loops {rounds : Nat} {result : Shard κ α × Except Exhausted Bool}
    (inserts : Inserts shard key value rounds result) (some : shard.capacity ≠ 0) :
    ∃ after enough, Loops shard rounds after enough := by
  cases inserts with
  | closed none => exact absurd none some
  | stored _ loops => exact ⟨_, _, loops⟩
  | refused _ loops => exact ⟨_, _, loops⟩

theorem Inserts.ends {rounds : Nat} {result : Shard κ α × Except Exhausted Bool}
    (inserts : Inserts shard key value rounds result) : shard.Ends key value rounds := by
  intro count answer
  constructor
  · intro again
    refine ⟨?_, again.eq_insertNew⟩
    by_cases none : shard.capacity = 0
    · rw [again.eq_zero none, inserts.eq_zero none]
    · obtain ⟨_, _, loops⟩ := again.exists_loops none
      obtain ⟨_, _, others⟩ := inserts.exists_loops none
      exact (loops.unique others).1
  · rintro ⟨rfl, rfl⟩
    exact inserts.eq_insertNew ▸ inserts

end

/-- The insertion ends in every shard, after no more rounds than there are stamps. -/
theorem exists_ends (shard : Shard κ α) (key : κ) (value : α) :
    ∃ rounds, rounds ≤ shard.order.length ∧ shard.Ends key value rounds := by
  by_cases none : shard.capacity = 0
  · exact ⟨0, Nat.zero_le _, (Inserts.closed none).ends⟩
  · obtain ⟨rounds, after, enough, loops, bound⟩ := shard.exists_loops
    cases enough with
    | true => exact ⟨rounds, bound, (Inserts.stored none loops).ends⟩
    | false => exact ⟨rounds, bound, (Inserts.refused none loops).ends⟩

/-! ## Shards that come of an empty one -/

inductive Reachable (capacity : Nat) : Shard κ α → Prop where
  | empty : Reachable capacity (.empty capacity)
  | touch {shard : Shard κ α} (reachable : Reachable capacity shard) (key : κ) :
      Reachable capacity (shard.touch key).1
  | insertNew {shard : Shard κ α} (reachable : Reachable capacity shard) {key : κ}
      (absent : shard.find? key = none) (value : α) : Reachable capacity (shard.insertNew key value).1
  | remove {shard : Shard κ α} (reachable : Reachable capacity shard) (key : κ) :
      Reachable capacity (shard.remove key).1
  | clear {shard : Shard κ α} (reachable : Reachable capacity shard) : Reachable capacity shard.clear
  | setValue {shard : Shard κ α} (reachable : Reachable capacity shard) (key : κ) (change : α → α) :
      Reachable capacity (shard.setValue key change)

variable {capacity : Nat} {shard : Shard κ α} {key : κ}

theorem Reachable.follows (reachable : Reachable capacity shard) : Follows (.empty capacity) shard := by
  induction reachable with
  | empty => exact .refl _
  | touch _ key ih => exact ih.trans (follows_touch _ key)
  | insertNew _ absent value ih => exact ih.trans (follows_insertNew absent value)
  | remove _ key ih => exact ih.trans (follows_remove _ key)
  | clear _ ih => exact ih.trans (follows_clear _)
  | setValue _ key change ih => exact ih.trans (follows_setValue _ key change)

theorem Reachable.ordered (reachable : Reachable capacity shard) (fresh : shard.Unwrapped) :
    shard.Ordered :=
  reachable.follows.ordered fresh (ordered_empty capacity)

/-- The order is the inverse of the ticks that the records carry. Each record has a tick of its own, which the
counter has reached, and there are no more records than the capacity. -/
structure Represents (shard : Shard κ α) (capacity : Nat) : Prop where
  order_iff : ∀ tick key, Association.find? tick shard.order = some key ↔
    ∃ entry, Association.find? key shard.entries = some entry ∧ entry.lastUsed = tick
  ascending : (keys shard.order).Pairwise (· < ·)
  apart : ∀ first second one other, Association.find? first shard.entries = some one →
    Association.find? second shard.entries = some other → one.lastUsed = other.lastUsed → first = second
  counted : ∀ key entry, Association.find? key shard.entries = some entry →
    1 ≤ entry.lastUsed ∧ entry.lastUsed ≤ shard.tick
  distinct : (keys shard.entries).Nodup
  kept : shard.capacity = capacity
  room : shard.size ≤ capacity

def Earliest (shard : Shard κ α) (key : κ) : Prop :=
  ∃ entry, Association.find? key shard.entries = some entry ∧
    ∀ other known, other ≠ key → Association.find? other shard.entries = some known →
      entry.lastUsed < known.lastUsed

inductive TakesIn (shard : Shard κ α) (key : κ) (value : α) :
    Nat → Shard κ α × Except Exhausted Bool → Prop where
  | beside {after : Shard κ α} (fits : shard.size < shard.capacity)
      (found : ∀ other, after.find? other = if other = key then some value else shard.find? other) :
      TakesIn shard key value 0 (after, .ok false)
  | instead {after : Shard κ α} {victim : κ} (full : shard.size = shard.capacity)
      (earliest : shard.Earliest victim)
      (found : ∀ other, after.find? other =
        if other = key then some value else if other = victim then none else shard.find? other) :
      TakesIn shard key value 1 (after, .ok true)

structure Accepts (shard : Shard κ α) : Prop where
  once : ∀ rounds after enough, Loops shard rounds after enough → rounds ≤ 1 ∧ enough = true
  taken : ∀ key value, ∃ rounds, shard.Ends key value rounds ∧
    TakesIn shard key value rounds (shard.insertNew key value)

namespace Ordered

theorem find?_order_iff (ordered : shard.Ordered) (tick : UInt64) :
    Association.find? tick shard.order = some key ↔
      ∃ entry, Association.find? key shard.entries = some entry ∧ entry.lastUsed = tick := by
  rw [← ordered.linked]
  exact ⟨Association.mem_of_find?, Association.find?_of_mem ordered.ticks_distinct⟩

theorem represents (ordered : shard.Ordered) (fresh : shard.Unwrapped) :
    shard.Represents shard.capacity where
  order_iff tick key := ordered.find?_order_iff tick
  ascending := ordered.ascending
  apart first second one other found known same :=
    ordered.eq_of_tick (same ▸ ordered.mem_order_of_find? found) (ordered.mem_order_of_find? known)
  counted key entry found := by
    have member := Association.mem_keys_of_mem (ordered.mem_order_of_find? found)
    obtain ⟨least, most⟩ := ordered.counted entry.lastUsed member
    have tick : shard.tick.toNat = shard.uses := UInt64.toNat_ofNat_of_lt' fresh
    rw [UInt64.le_iff_toNat_le, UInt64.le_iff_toNat_le, tick]
    exact ⟨least, most⟩
  distinct := ordered.distinct
  kept := rfl
  room := ordered.room

/-- The head of the order stands for the record whose last use is the earliest. -/
theorem earliest_head (ordered : shard.Ordered) {tick : UInt64} {rest : List (UInt64 × κ)}
    (stamps : shard.order = (tick, key) :: rest) : shard.Earliest key := by
  obtain ⟨entry, found, same⟩ := (ordered.linked tick key).mp (stamps ▸ List.mem_cons_self)
  refine ⟨entry, found, fun other known different present => ?_⟩
  have member := ordered.mem_order_of_find? present
  have ascending := ordered.ascending
  rw [stamps, List.mem_cons] at member
  rw [stamps, Association.keys_cons, List.pairwise_cons] at ascending
  rcases member with head | later
  · exact absurd (Prod.mk.inj head).2 different
  · exact same ▸ ascending.1 known.lastUsed (Association.mem_keys_of_mem later)

/-- A full shard drops the record whose last use is the earliest, and has room then. -/
theorem loops_full (ordered : shard.Ordered) (some : shard.capacity ≠ 0)
    (full : shard.size = shard.capacity) :
    ∃ victim, shard.Earliest victim ∧ Loops shard 1 (shard.remove victim).1 true := by
  obtain ⟨tick, victim, head, _⟩ := ordered.room_full some full
  obtain ⟨rest, stamps⟩ := List.head?_eq_some_iff.mp head
  obtain ⟨entry, found, same⟩ := (ordered.linked tick victim).mp (stamps ▸ List.mem_cons_self)
  have present := Association.mem_keys_of_mem (Association.mem_of_find? found)
  have shorter := Association.length_erase ordered.distinct present
  have distinct := ordered.ticks_distinct
  rw [stamps, Association.keys_cons, List.nodup_cons] at distinct
  have dropped : shard.dropOldest? = .some (shard.remove victim).1 := by
    simp [dropOldest?, Shard.remove, stamps, found, same, Association.erase_cons,
      Association.erase_of_absent distinct.1]
  have fits : (shard.remove victim).1.size < (shard.remove victim).1.capacity := by
    rw [capacity_remove, size, entries_remove]
    have full : shard.entries.length = shard.capacity := full
    omega
  exact ⟨victim, ordered.earliest_head stamps, .round (Nat.le_of_eq full.symm) dropped (.room fits)⟩

theorem size_eq_of_not_lt (ordered : shard.Ordered) (full : ¬ shard.size < shard.capacity) :
    shard.size = shard.capacity :=
  Nat.le_antisymm ordered.room (Nat.not_lt.mp full)

theorem rounds_le_one (ordered : shard.Ordered) (some : shard.capacity ≠ 0) {rounds : Nat}
    {after : Shard κ α} {enough : Bool} (loops : Loops shard rounds after enough) :
    rounds ≤ 1 ∧ enough = true := by
  by_cases fits : shard.size < shard.capacity
  · obtain ⟨rfl, _, rfl⟩ := loops.unique (.room fits)
    exact ⟨Nat.zero_le 1, rfl⟩
  · obtain ⟨_, _, once⟩ := ordered.loops_full some (ordered.size_eq_of_not_lt fits)
    obtain ⟨rfl, _, rfl⟩ := loops.unique once
    exact ⟨Nat.le_refl 1, rfl⟩

theorem takesIn (ordered : shard.Ordered) (some : shard.capacity ≠ 0) (key : κ) (value : α) :
    ∃ rounds, shard.Ends key value rounds ∧
      TakesIn shard key value rounds (shard.insertNew key value) := by
  by_cases fits : shard.size < shard.capacity
  · have inserts : Inserts shard key value 0 (shard.store key value, .ok false) :=
      .stored some (.room fits)
    refine ⟨0, inserts.ends, inserts.eq_insertNew ▸ .beside fits fun other => ?_⟩
    exact shard.find?_store key other value
  · have full := ordered.size_eq_of_not_lt fits
    obtain ⟨victim, earliest, loops⟩ := ordered.loops_full some full
    have inserts : Inserts shard key value 1 ((shard.remove victim).1.store key value, .ok true) :=
      .stored some loops
    refine ⟨1, inserts.ends, inserts.eq_insertNew ▸ .instead full earliest fun other => ?_⟩
    rw [find?_store, find?_remove]

theorem accepts (ordered : shard.Ordered) (some : shard.capacity ≠ 0) : shard.Accepts where
  once _ _ _ loops := ordered.rounds_le_one some loops
  taken key value := ordered.takesIn some key value

end Ordered

/-- A shard that has come of an empty one, and whose counter has not started over, holds its records in the
order of their use. With some capacity the loop ends with room after one round at most, and a new record is
always taken in, in the place of none but the one whose last use is the earliest. In any shard whatever the
insertion comes to an end. -/
theorem represents_of_reachable :
    (∀ (capacity : Nat) (shard : Shard κ α), Reachable capacity shard → shard.Unwrapped →
      shard.Represents capacity ∧ (1 ≤ capacity → shard.Accepts)) ∧
      ∀ (any : Shard κ α) (key : κ) (value : α),
        ∃ rounds, rounds ≤ any.order.length ∧ any.Ends key value rounds := by
  refine ⟨fun capacity shard reachable fresh => ?_, exists_ends⟩
  have ordered := reachable.ordered fresh
  have same : shard.capacity = capacity := reachable.follows.capacity
  refine ⟨same ▸ ordered.represents fresh, fun positive => ?_⟩
  exact ordered.accepts (by omega)

def usedPair : Shard Nat Nat :=
  ((((empty 2).insertNew 1 10).1.insertNew 2 20).1.touch 1).1

def strayStamp : Shard Nat Nat :=
  ⟨[(1, ⟨10, 1⟩), (2, ⟨20, 2⟩)], [(1, 3)], 2, 1⟩

/-- The second of two records gives way to a third. A shard that never came of an empty one may have no record
to drop, which ends the insertion as well. -/
theorem represents_of_reachable_pair :
    Reachable 2 usedPair ∧ usedPair.Unwrapped ∧ usedPair.Represents 2 ∧ usedPair.Accepts ∧
      (usedPair.insertNew 3 30).2 = .ok true ∧ (usedPair.insertNew 3 30).1.find? 2 = none ∧
      (∃ rounds, rounds ≤ 1 ∧ strayStamp.Ends 3 30 rounds) ∧
      (strayStamp.insertNew 3 30).2 = .error ⟨1⟩ := by
  have reachable : Reachable 2 usedPair := .touch (.insertNew (.insertNew .empty rfl 10) rfl 20) 1
  have fresh : usedPair.Unwrapped := by decide
  obtain ⟨inOrder, ends⟩ := @represents_of_reachable Nat Nat _
  obtain ⟨represents, accepts⟩ := inOrder 2 usedPair reachable fresh
  exact ⟨reachable, fresh, represents, accepts (by decide), by decide, by decide,
    ends strayStamp 3 30, by decide⟩

end Confinement.Shard
