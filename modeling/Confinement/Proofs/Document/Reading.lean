import Confinement.Document.Kept
import Confinement.Writing
import Mathlib.Data.List.Nodup

/-! Reading back what was written.

The members of a written map come in an order of their own choice, so a reader of written values has
to do with any order of them. A record is read from a map that holds each of its fields once, whatever
else the map holds; a choice that is told by a tag is read from what the map holds besides the tag.
-/

set_option autoImplicit false

namespace Confinement.Document

/-! ## Orders of members -/

/-- The second value comes out of the first by another order of the members of its maps. -/
inductive Value.Rearranged : Value → Value → Prop where
  | same (value : Value) : Rearranged value value
  | sequence {items others : List Value} (each : List.Forall₂ Rearranged items others) :
      Rearranged (.sequence items) (.sequence others)
  | map {entries middle others : List (Value × Value)}
      (keys : middle.map Prod.fst = entries.map Prod.fst)
      (values : List.Forall₂ Rearranged (entries.map Prod.snd) (middle.map Prod.snd))
      (order : middle.Perm others) : Rearranged (.map entries) (.map others)

def Value.isLeaf : Value → Bool
  | sequence _ | map _ => false
  | _ => true

def Value.isPresent : Value → Bool
  | unit | absent => false
  | _ => true

def Value.isNamed (name : String) : Value → Bool
  | string text => text = name
  | _ => false

namespace Value.Rearranged

variable {value other : Value}

theorem eq_of_isLeaf (same : Rearranged value other) (leaf : value.isLeaf = true) :
    other = value := by
  cases same with
  | same => rfl
  | sequence => cases leaf
  | map => cases leaf

theorem isPresent (same : Rearranged value other) : other.isPresent = value.isPresent := by
  cases same <;> rfl

theorem exists_sequence {items : List Value} (same : Rearranged (.sequence items) other) :
    ∃ others, other = .sequence others ∧ List.Forall₂ Rearranged items others := by
  cases same with
  | same => exact ⟨items, rfl, List.forall₂_same.mpr fun item _ => .same item⟩
  | sequence each => exact ⟨_, rfl, each⟩

end Value.Rearranged

/-! ## Readers -/

def Takes {α : Type} (read : Datum → Decoder α) (value : Value) (a : α) : Prop :=
  ∀ kept, read ⟨kept, value⟩ = pure a

/-- The reader makes this of the value, in whatever order the members of its maps come. -/
def Reads {α : Type} (read : Datum → Decoder α) (value : Value) (a : α) : Prop :=
  ∀ other, value.Rearranged other → Takes read other a

def Decoder.Fails {α : Type} (decoder : Decoder α) : Prop :=
  ∀ steps, ∃ fault, decoder steps = .error fault

def Decoder.Accepts {α : Type} (decoder : Decoder α) : Prop :=
  ∃ steps result, decoder steps = .ok result

section

variable {α β : Type} {read : Datum → Decoder α} {value : Value} {a : α}

theorem Takes.reads (takes : Takes read value a) (leaf : value.isLeaf = true) :
    Reads read value a := by
  intro other same
  rw [same.eq_of_isLeaf leaf]
  exact takes

theorem Reads.map (reads : Reads read value a) (make : α → β) :
    Reads (fun part => make <$> read part) value (make a) := by
  intro other same kept
  change make <$> read ⟨kept, other⟩ = _
  rw [reads other same kept, map_pure]

theorem Decoder.accepts_pure (a : α) : (pure a : Decoder α).Accepts :=
  ⟨0, (a, 0), rfl⟩

theorem Decoder.Fails.not_accepts {decoder : Decoder α} (fails : decoder.Fails) :
    ¬ decoder.Accepts := by
  rintro ⟨steps, result, accepted⟩
  obtain ⟨fault, failed⟩ := fails steps
  rw [failed] at accepted
  cases accepted

theorem Decoder.fails_fail (cause : Cause) : (Decoder.fail cause : Decoder α).Fails :=
  fun _ => ⟨⟨cause, none⟩, rfl⟩

theorem Decoder.Fails.bind {decoder : Decoder α} (fails : decoder.Fails) (next : α → Decoder β) :
    (decoder >>= next).Fails := by
  intro steps
  obtain ⟨fault, failed⟩ := fails steps
  refine ⟨fault, ?_⟩
  change (decoder steps >>= fun result => next result.1 result.2) = _
  rw [failed]
  rfl

theorem Decoder.Fails.attempt {decoder : Decoder α} (fails : decoder.Fails) :
    Decoder.attempt decoder = pure none := by
  funext steps
  obtain ⟨fault, failed⟩ := fails steps
  simp only [Decoder.attempt, failed]
  rfl

/-! ## Numbers, texts, options and lists -/

theorem integer_unsigned {low high : Int} {n : UInt64} (least : low ≤ n.toNat) (most : n.toNat ≤ high)
    (name : String) (kept : Bool) :
    Source.integer low high name (Datum.mk kept (.unsigned n)) = pure (n.toNat : Int) :=
  if_pos ⟨least, most⟩

theorem integer_signed {low high : Int} {n : Int64} (least : low ≤ n.toInt) (most : n.toInt ≤ high)
    (name : String) (kept : Bool) :
    Source.integer low high name (Datum.mk kept (.signed n)) = pure n.toInt :=
  if_pos ⟨least, most⟩

theorem reads_u16 (n : UInt16) : Reads Source.u16 (.ofU16 n) n := by
  refine Takes.reads (fun kept => ?_) rfl
  have bound := n.toNat_lt
  rw [Value.ofU16, Source.u16, integer_unsigned (by simp) (by simp; omega), pure_bind]
  simp

theorem reads_u32 (n : UInt32) : Reads Source.u32 (.ofU32 n) n := by
  refine Takes.reads (fun kept => ?_) rfl
  have bound := n.toNat_lt
  rw [Value.ofU32, Source.u32, integer_unsigned (by simp) (by simp; omega), pure_bind]
  simp

theorem reads_u64 (n : UInt64) : Reads Source.u64 (.unsigned n) n := by
  refine Takes.reads (fun kept => ?_) rfl
  have bound := n.toNat_lt
  rw [Source.u64, integer_unsigned (by simp) (by omega), pure_bind]
  simp

theorem reads_i32 (n : Int32) : Reads Source.i32 (.ofI32 n) n := by
  have least := n.le_toInt
  have most := n.toInt_lt
  rw [Value.ofI32, Value.ofInt64]
  by_cases negative : n.toInt64 < 0
  · rw [if_pos negative]
    refine Takes.reads (fun kept => ?_) rfl
    rw [Source.i32, integer_signed (by simp; omega) (by simp; omega), pure_bind]
    simp
  · rw [if_neg negative]
    refine Takes.reads (fun kept => ?_) rfl
    have natural : 0 ≤ n.toInt64 := Int64.not_lt.mp negative
    have value : (n.toInt64.toUInt64.toNat : Int) = n.toInt := by
      rw [Int64.toNat_toUInt64_of_le natural, ← Int64.toInt_eq_toNatClampNeg natural,
        Int32.toInt_toInt64]
    rw [Source.i32, integer_unsigned (by omega) (by omega), pure_bind, value]
    simp

theorem reads_text (expected text : String) : Reads (Source.text expected) (.string text) text :=
  Takes.reads (fun _ => rfl) rfl

theorem optional_eq {value : Value} (present : value.isPresent = true) (kept : Bool) :
    Source.optional (Datum.mk kept value) = pure (some ⟨kept, value⟩) := by
  cases value with
  | absent => cases present
  | unit => cases present
  | _ => rfl

/-- A value that may be missing is read back if those that are there stand for something. -/
theorem reads_option {write : α → Value} (reads : ∀ a, Reads read (write a) a)
    (present : ∀ a, (write a).isPresent = true) (value : Option α) :
    Reads (Source.option read) (.ofOption write value) value := by
  cases value with
  | none => exact Takes.reads (fun _ => rfl) rfl
  | some a =>
    intro other same kept
    rw [Source.option, optional_eq (same.isPresent.trans (present a)), pure_bind]
    dsimp only
    rw [reads a other same kept, map_pure]

theorem forEach_eq {write : α → Value} (reads : ∀ a, Reads read (write a) a) (kept : Bool)
    {values : List α} {others : List Value}
    (each : List.Forall₂ Value.Rearranged (values.map write) others) (position : Nat) :
    Decoder.forEach (fun _ part => read part) position
      (others.map fun part => Datum.mk kept part) = pure values := by
  induction values generalizing others position with
  | nil =>
    cases each
    rfl
  | cons a rest ih =>
    cases each with
    | cons first others =>
      rw [List.map_cons, Decoder.forEach, reads a _ first kept, pure_bind, ih others, pure_bind]

theorem reads_list {write : α → Value} (reads : ∀ a, Reads read (write a) a) (values : List α) :
    Reads (Source.list read) (.sequence (values.map write)) values := by
  intro other same kept
  obtain ⟨others, rfl, each⟩ := same.exists_sequence
  exact forEach_eq reads kept each 0

end

/-! ## Records -/

structure Presents (fields : List (String × Value)) (entries : List (Value × Value)) : Prop where
  distinct : (entries.map Prod.fst).Nodup
  named : ∀ entry ∈ entries, ∃ name ∈ fields.map Prod.fst, entry.1 = .string name
  found : ∀ name value, (name, value) ∈ fields →
    ∃ other, (.string name, other) ∈ entries ∧ value.Rearranged other

theorem exists_mem_of_keys {R : Value → Value → Prop} {entries middle : List (Value × Value)}
    (keys : middle.map Prod.fst = entries.map Prod.fst)
    (values : List.Forall₂ R (entries.map Prod.snd) (middle.map Prod.snd)) {key value : Value}
    (member : (key, value) ∈ entries) : ∃ other, (key, other) ∈ middle ∧ R value other := by
  induction entries generalizing middle with
  | nil => cases member
  | cons entry rest ih =>
    cases middle with
    | nil => cases keys
    | cons first others =>
      obtain ⟨own, keys⟩ := List.cons.inj keys
      obtain ⟨related, values⟩ := List.forall₂_cons.mp values
      rcases List.mem_cons.mp member with rfl | inside
      · exact ⟨first.2, List.mem_cons.mpr (.inl (Prod.ext own.symm rfl)), related⟩
      · obtain ⟨other, found, also⟩ := ih keys values inside
        exact ⟨other, List.mem_cons_of_mem _ found, also⟩

theorem Value.Rearranged.exists_map {entries : List (Value × Value)} {other : Value}
    (same : Rearranged (.map entries) other) :
    ∃ others, other = .map others ∧ (others.map Prod.fst).Perm (entries.map Prod.fst) ∧
      ∀ key value, (key, value) ∈ entries → ∃ part, (key, part) ∈ others ∧ value.Rearranged part := by
  cases same with
  | same => exact ⟨entries, rfl, .refl _, fun _ value member => ⟨value, member, .same value⟩⟩
  | @map _ middle others keys values order =>
    refine ⟨others, rfl, keys ▸ (order.map Prod.fst).symm, fun key value member => ?_⟩
    obtain ⟨part, inside, related⟩ := exists_mem_of_keys keys values member
    exact ⟨part, order.mem_iff.mp inside, related⟩

theorem Value.Rearranged.exists_object {fields : List (String × Value)} {other : Value}
    (same : Rearranged (.object fields) other) (distinct : (fields.map Prod.fst).Nodup) :
    ∃ entries, other = .map entries ∧ Presents fields entries := by
  obtain ⟨entries, rfl, order, found⟩ := same.exists_map
  have keys : (fields.map fun field => (Value.string field.1, field.2)).map Prod.fst =
      (fields.map Prod.fst).map .string := by simp
  rw [keys] at order
  refine ⟨entries, rfl, ?_, fun entry member => ?_, fun name value member => ?_⟩
  · exact order.nodup_iff.mpr (distinct.map fun _ _ => Value.string.inj)
  · obtain ⟨name, inside, own⟩ :=
      List.mem_map.mp (order.mem_iff.mp (List.mem_map_of_mem member))
    exact ⟨name, inside, own.symm⟩
  · exact found _ value (List.mem_map.mpr ⟨(name, value), member, rfl⟩)

namespace Record

variable {σ τ α β : Type}

inductive Gathered (record : Record Datum σ α) (kept : Bool) :
    List (Value × Value) → σ → α → Prop where
  | finish {met : σ} {a : α} (made : record.finish met = pure a) : Gathered record kept [] met a
  | accept {name : String} {value : Value} {rest : List (Value × Value)} {met next : σ} {a : α}
      (own : name ∈ record.names) (taken : record.accept name ⟨kept, value⟩ met = pure next)
      (gathered : Gathered record kept rest next a) :
      Gathered record kept ((.string name, value) :: rest) met a
  | skip {name : String} {value : Value} {rest : List (Value × Value)} {met : σ} {a : α}
      (other : name ∉ record.names) (gathered : Gathered record kept rest met a) :
      Gathered record kept ((.string name, value) :: rest) met a

namespace Gathered

variable {first : Record Datum σ α} {second : Record Datum τ β} {kept : Bool}
  {entries : List (Value × Value)} {met : σ} {also : τ} {a : α} {b : β}

theorem ofMembers (gathered : first.Gathered kept entries met a) :
    first.ofMembers (entries.map fun entry => ⟨Datum.fieldOf entry.1, ⟨kept, entry.2⟩⟩) met =
      pure a := by
  induction gathered with
  | finish made => exact made
  | accept own taken _ ih =>
    simp only [List.map_cons, Record.ofMembers, Datum.fieldOf, List.contains_iff_mem.mpr own,
      if_true, pure_bind, taken, ih]
  | skip other _ ih =>
    simp only [List.map_cons, Record.ofMembers, Datum.fieldOf, List.contains_iff_mem, other,
      if_false, pure_bind, ih]

theorem both (apart : ∀ name ∈ first.names, name ∉ second.names)
    (left : first.Gathered kept entries met a) (right : second.Gathered kept entries also b) :
    (first.both second).Gathered kept entries (met, also) (a, b) := by
  induction left generalizing also with
  | finish made =>
    cases right with
    | finish ready => exact .finish (by simp [Record.both, made, ready])
  | accept own taken _ ih =>
    cases right with
    | accept there => exact absurd there (apart _ own)
    | skip _ right =>
      refine .accept (List.mem_append_left _ own) ?_ (ih right)
      simp [Record.both, own, taken]
  | skip other _ ih =>
    cases right with
    | accept own taken right =>
      refine .accept (List.mem_append_right _ own) ?_ (ih right)
      simp [Record.both, other, taken]
    | skip out right =>
      exact .skip (fun member => (List.mem_append.mp member).elim other out) (ih right)

theorem map (gathered : first.Gathered kept entries met a) (make : α → β) :
    (first.map make).Gathered kept entries met (make a) := by
  induction gathered with
  | finish made => exact .finish (by simp [Record.map, made])
  | accept own taken _ ih => exact .accept own taken ih
  | skip other _ ih => exact .skip other ih

end Gathered

theorem ofMembers_of_absent {record : Record Datum σ α} {kept : Bool} {met : σ}
    {entries : List (Value × Value)}
    (named : ∀ entry ∈ entries, ∃ other, other ∉ record.names ∧ entry.1 = .string other) :
    record.ofMembers (entries.map fun entry => ⟨Datum.fieldOf entry.1, ⟨kept, entry.2⟩⟩) met =
      record.finish met := by
  induction entries with
  | nil => rfl
  | cons entry rest ih =>
    obtain ⟨⟨other, outside, key⟩, others⟩ := List.forall_mem_cons.mp named
    simp only [List.map_cons, ofMembers, key, Datum.fieldOf, List.contains_iff_mem, outside,
      if_false, pure_bind]
    exact ih others

def Held (record : Record Datum σ α) (entries : List (Value × Value)) (a : α) : Prop :=
  ∀ kept, record.Gathered kept entries record.start a

variable {first : Record Datum σ α} {second : Record Datum τ β} {name : String}
  {fields : List (String × Value)} {entries : List (Value × Value)} {value : Value} {a : α} {b : β}

theorem Held.both (left : first.Held entries a) (right : second.Held entries b)
    (apart : ∀ name ∈ first.names, name ∉ second.names) : (first.both second).Held entries (a, b) :=
  fun kept => (left kept).both apart (right kept)

theorem Held.map (held : first.Held entries a) (make : α → β) :
    (first.map make).Held entries (make a) :=
  fun kept => (held kept).map make

theorem Held.takes (held : first.Held entries a) (expected : String) :
    Takes (first.read expected) (.map entries) a := by
  intro kept
  exact (held kept).ofMembers

theorem gathered_of_absent {read : Datum → Decoder α} {standIn : Option α} {kept : Bool}
    {met : Option α} (made : (field name read standIn).finish met = pure a)
    (named : ∀ entry ∈ entries, ∃ other, other ≠ name ∧ entry.1 = .string other) :
    (field name read standIn).Gathered kept entries met a := by
  induction entries with
  | nil => exact .finish made
  | cons entry rest ih =>
    obtain ⟨key, part⟩ := entry
    obtain ⟨⟨other, different, rfl⟩, others⟩ := List.forall_mem_cons.mp named
    exact .skip (by simpa [field] using different) (ih others)

theorem gathered_field {read : Datum → Decoder α} {standIn : Option α} {kept : Bool}
    (distinct : (entries.map Prod.fst).Nodup)
    (named : ∀ entry ∈ entries, ∃ other, entry.1 = .string other)
    (inside : (.string name, value) ∈ entries) (takes : Takes read value a) :
    (field name read standIn).Gathered kept entries none a := by
  induction entries with
  | nil => cases inside
  | cons entry rest ih =>
    obtain ⟨key, part⟩ := entry
    obtain ⟨⟨other, rfl⟩, others⟩ := List.forall_mem_cons.mp named
    obtain ⟨fresh, distinct⟩ := List.nodup_cons.mp distinct
    by_cases own : other = name
    · subst own
      have same : part = value := by
        rcases List.mem_cons.mp inside with first | later
        · exact (Prod.ext_iff.mp first).2.symm
        · exact absurd (List.mem_map_of_mem later) fresh
      subst same
      have taken : (field other read standIn).accept other ⟨kept, part⟩ none = pure (some a) := by
        simp [field, takes kept]
      refine .accept (by simp [field]) taken (gathered_of_absent rfl fun entry member => ?_)
      obtain ⟨another, key⟩ := others entry member
      refine ⟨another, ?_, key⟩
      rintro rfl
      exact fresh (List.mem_map.mpr ⟨entry, member, key⟩)
    · refine .skip (by simpa [field] using own) (ih distinct others ?_)
      exact (List.mem_cons.mp inside).resolve_left fun same => own (by cases same; rfl)

end Record

theorem Presents.field {α : Type} {fields : List (String × Value)} {entries : List (Value × Value)}
    (presents : Presents fields entries) (name : String) (standIn : Option α) {value : Value}
    {read : Datum → Decoder α} {a : α} (reads : Reads read value a)
    (inside : (name, value) ∈ fields) : (Record.field name read standIn).Held entries a := by
  intro kept
  obtain ⟨other, found, same⟩ := presents.found name value inside
  refine Record.gathered_field presents.distinct (fun entry member => ?_) found (reads other same)
  obtain ⟨key, _, own⟩ := presents.named entry member
  exact ⟨key, own⟩

theorem Record.reads_object {σ α : Type} {record : Record Datum σ α} {a : α}
    {fields : List (String × Value)} (distinct : (fields.map Prod.fst).Nodup)
    (held : ∀ entries, Presents fields entries → record.Held entries a) (expected : String) :
    Reads (record.read expected) (.object fields) a := by
  intro other same
  obtain ⟨entries, rfl, presents⟩ := same.exists_object distinct
  exact (held entries presents).takes expected

theorem Presents.fails_required {α : Type} {fields : List (String × Value)}
    {entries : List (Value × Value)} (presents : Presents fields entries) {name : String}
    (absent : name ∉ fields.map Prod.fst) (read : Datum → Decoder α) (expected : String)
    (kept : Bool) : ((Record.required name read).read expected ⟨kept, .map entries⟩).Fails := by
  change ((Record.required name read).ofMembers _ none).Fails
  rw [Record.ofMembers_of_absent]
  · exact Decoder.fails_fail _
  · intro entry member
    obtain ⟨other, known, own⟩ := presents.named entry member
    refine ⟨other, ?_, own⟩
    rw [Record.required, Record.field, List.mem_singleton]
    rintro rfl
    exact absent known

/-! ## Tags -/

def untagged (tag : String) (entries : List (Value × Value)) : List (Value × Value) :=
  entries.filter fun entry => !entry.1.isNamed tag

theorem Presents.untagged {fields : List (String × Value)} {entries : List (Value × Value)}
    {tag : String} {value : Value} (presents : Presents ((tag, value) :: fields) entries)
    (fresh : tag ∉ fields.map Prod.fst) : Presents fields (untagged tag entries) where
  distinct := presents.distinct.sublist (List.filter_sublist.map Prod.fst)
  named entry member := by
    obtain ⟨inside, other⟩ := List.mem_filter.mp member
    obtain ⟨name, known, own⟩ := presents.named entry inside
    rw [own] at other
    refine ⟨name, (List.mem_cons.mp known).resolve_left ?_, own⟩
    rintro rfl
    simp [Value.isNamed] at other
  found name value member := by
    obtain ⟨other, inside, same⟩ := presents.found name value (List.mem_cons_of_mem _ member)
    refine ⟨other, List.mem_filter.mpr ⟨inside, ?_⟩, same⟩
    have different : name ≠ tag := by
      rintro rfl
      exact fresh (List.mem_map_of_mem member)
    simp [Value.isNamed, different]

namespace Datum

variable {kept : Bool} {tag name : String} {names : List String} {entries : List (Value × Value)}

theorem isNamed_iff {key : Value} : key.isNamed tag = true ↔ key = .string tag := by
  cases key <;> simp [Value.isNamed]

theorem tagOf_string (known : name ∈ names) : tagOf kept names (.string name) = pure name := by
  simp [tagOf, choiceOf, known]

theorem splitTag_cons_of_other {key content : Value} (other : key.isNamed tag = false)
    (chosen : Option String) (others : List (Value × Value)) :
    splitTag kept tag names ((key, content) :: entries) chosen others =
      splitTag kept tag names entries chosen ((key, content) :: others) := by
  cases key with
  | string text =>
    have different : text ≠ tag := by simpa [Value.isNamed] using other
    simp only [splitTag, if_neg different]
  | _ => rfl

theorem splitTag_of_absent (absent : ∀ entry ∈ entries, entry.1.isNamed tag = false)
    (chosen : Option String) (others : List (Value × Value)) :
    splitTag kept tag names entries chosen others = pure (chosen, others.reverse ++ entries) := by
  induction entries generalizing others with
  | nil => simp [splitTag]
  | cons entry rest ih =>
    obtain ⟨other, absent⟩ := List.forall_mem_cons.mp absent
    rw [splitTag_cons_of_other other, ih absent]
    simp

theorem splitTag_eq (distinct : (entries.map Prod.fst).Nodup)
    (inside : (.string tag, .string name) ∈ entries) (known : name ∈ names)
    (others : List (Value × Value)) :
    splitTag kept tag names entries none others =
      pure (some name, others.reverse ++ untagged tag entries) := by
  induction entries generalizing others with
  | nil => cases inside
  | cons entry rest ih =>
    obtain ⟨key, content⟩ := entry
    obtain ⟨fresh, distinct⟩ := List.nodup_cons.mp distinct
    rcases List.mem_cons.mp inside with first | later
    · cases first
      have absent : ∀ entry ∈ rest, entry.1.isNamed tag = false := by
        intro entry member
        rw [← Bool.not_eq_true, isNamed_iff]
        exact fun own => fresh (List.mem_map.mpr ⟨entry, member, own⟩)
      have remaining : untagged tag ((.string tag, .string name) :: rest) = rest := by
        rw [untagged, List.filter_cons_of_neg (by simp [Value.isNamed]), List.filter_eq_self]
        intro entry member
        rw [absent entry member]
        rfl
      rw [remaining, splitTag, if_pos rfl, if_neg (by simp), tagOf_string known, pure_bind,
        splitTag_of_absent absent]
    · have other : key.isNamed tag = false := by
        rw [← Bool.not_eq_true, isNamed_iff]
        rintro rfl
        exact fresh (List.mem_map.mpr ⟨_, later, rfl⟩)
      rw [splitTag_cons_of_other other, ih distinct later, untagged, untagged,
        List.filter_cons_of_pos (by simp [other])]
      simp

theorem tagged_eq (distinct : (entries.map Prod.fst).Nodup)
    (inside : (.string tag, .string name) ∈ entries) (known : name ∈ names) (expected : String) :
    Source.tagged expected tag names (Datum.mk kept (.map entries)) =
      pure (name, .map (untagged tag entries)) := by
  change tagged expected tag names ⟨kept, .map entries⟩ = _
  dsimp only [tagged]
  rw [splitTag_eq distinct inside known, pure_bind]
  rfl

theorem fails_tagged (absent : ∀ entry ∈ entries, entry.1.isNamed tag = false)
    (expected : String) :
    (Source.tagged expected tag names (Datum.mk kept (.map entries))).Fails := by
  change (tagged expected tag names ⟨kept, .map entries⟩).Fails
  dsimp only [tagged]
  rw [splitTag_of_absent absent, pure_bind]
  exact Decoder.fails_fail _

end Datum

theorem Presents.tagged {fields : List (String × Value)} {entries : List (Value × Value)}
    {tag name : String} {names : List String}
    (presents : Presents ((tag, .string name) :: fields) entries) (known : name ∈ names)
    (expected : String) (kept : Bool) :
    Source.tagged expected tag names (Datum.mk kept (.map entries)) =
      pure (name, .map (Document.untagged tag entries)) := by
  obtain ⟨other, inside, same⟩ := presents.found tag _ List.mem_cons_self
  rw [same.eq_of_isLeaf rfl] at inside
  exact Datum.tagged_eq presents.distinct inside known expected

theorem Presents.isNamed {fields : List (String × Value)} {entries : List (Value × Value)}
    {tag : String} (presents : Presents fields entries) (absent : tag ∉ fields.map Prod.fst) :
    ∀ entry ∈ entries, entry.1.isNamed tag = false := by
  intro entry member
  obtain ⟨name, known, own⟩ := presents.named entry member
  rw [← Bool.not_eq_true, Datum.isNamed_iff, own]
  rintro same
  cases same
  exact absent known

end Confinement.Document
