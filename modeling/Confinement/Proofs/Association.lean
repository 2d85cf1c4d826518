import Confinement.Table.Association
import Mathlib.Data.List.Nodup

/-! What the operations of an association list do to the value of a key, and to the list of keys. -/

set_option autoImplicit false

namespace Confinement.Association

variable {κ β : Type}

def keys (pairs : List (κ × β)) : List κ :=
  pairs.map Prod.fst

@[simp] theorem keys_nil : keys ([] : List (κ × β)) = [] := rfl

@[simp] theorem keys_cons (key : κ) (value : β) (pairs : List (κ × β)) :
    keys ((key, value) :: pairs) = key :: keys pairs := rfl

theorem mem_keys_of_mem {key : κ} {value : β} {pairs : List (κ × β)}
    (member : (key, value) ∈ pairs) : key ∈ keys pairs :=
  List.mem_map.mpr ⟨_, member, rfl⟩

theorem keys_sublist {part pairs : List (κ × β)} (kept : part.Sublist pairs) :
    (keys part).Sublist (keys pairs) :=
  kept.map Prod.fst

variable [DecidableEq κ]

theorem erase_cons (key other : κ) (value : β) (pairs : List (κ × β)) :
    erase key ((other, value) :: pairs) =
      if other = key then erase key pairs else (other, value) :: erase key pairs := by
  by_cases same : other = key <;> simp [erase, same]

theorem find?_eq_none_iff (key : κ) (pairs : List (κ × β)) :
    find? key pairs = none ↔ key ∉ keys pairs := by
  induction pairs with
  | nil => simp [find?]
  | cons pair rest ih =>
    obtain ⟨other, value⟩ := pair
    by_cases same : other = key
    · simp [find?, same]
    · simp [find?, same, ih, Ne.symm same]

theorem isSome_find?_iff (key : κ) (pairs : List (κ × β)) :
    (find? key pairs).isSome ↔ key ∈ keys pairs := by
  rw [Option.isSome_iff_ne_none, ne_eq, find?_eq_none_iff, not_not]

theorem mem_of_find? {key : κ} {value : β} {pairs : List (κ × β)}
    (found : find? key pairs = some value) : (key, value) ∈ pairs := by
  induction pairs with
  | nil => simp [find?] at found
  | cons pair rest ih =>
    obtain ⟨other, old⟩ := pair
    by_cases same : other = key
    · simp only [find?, if_pos same, Option.some.injEq] at found
      simp [same, found]
    · simp only [find?, if_neg same] at found
      exact List.mem_cons_of_mem _ (ih found)

theorem find?_of_mem {key : κ} {value : β} {pairs : List (κ × β)}
    (distinct : (keys pairs).Nodup) (member : (key, value) ∈ pairs) :
    find? key pairs = some value := by
  induction pairs with
  | nil => simp at member
  | cons pair rest ih =>
    obtain ⟨other, old⟩ := pair
    rw [keys_cons, List.nodup_cons] at distinct
    rcases List.mem_cons.mp member with same | member
    · cases same
      simp [find?]
    · have different : other ≠ key := by
        rintro rfl
        exact distinct.1 (mem_keys_of_mem member)
      simpa [find?, different] using ih distinct.2 member

theorem find?_of_sublist {key : κ} {value : β} {part pairs : List (κ × β)}
    (distinct : (keys pairs).Nodup) (kept : part.Sublist pairs)
    (found : find? key part = some value) : find? key pairs = some value :=
  find?_of_mem distinct (kept.subset (mem_of_find? found))

@[simp] theorem find?_erase (key other : κ) (pairs : List (κ × β)) :
    find? other (erase key pairs) = if other = key then none else find? other pairs := by
  induction pairs with
  | nil => simp [erase, find?]
  | cons pair rest ih =>
    obtain ⟨first, value⟩ := pair
    rw [erase_cons]
    by_cases gone : first = key
    · rw [if_pos gone, ih]
      by_cases same : other = key
      · simp [same]
      · simp [same, find?, gone, Ne.symm same]
    · rw [if_neg gone, find?, find?, ih]
      by_cases same : other = key
      · simp [same, gone]
      · simp [same]

@[simp] theorem find?_put (key other : κ) (value : β) (pairs : List (κ × β)) :
    find? other (put key value pairs) =
      if other = key then some value else find? other pairs := by
  by_cases same : other = key
  · simp [put, find?, same]
  · simp [put, find?, same, Ne.symm same]

@[simp] theorem find?_adjust (key other : κ) (change : β → β) (pairs : List (κ × β)) :
    find? other (adjust key change pairs) =
      if other = key then (find? other pairs).map change else find? other pairs := by
  induction pairs with
  | nil => simp [adjust, find?]
  | cons pair rest ih =>
    obtain ⟨first, value⟩ := pair
    simp only [adjust] at ih
    by_cases changed : first = key
    · by_cases same : other = key
      · simp [adjust, find?, changed, same]
      · simp [adjust, find?, changed, same, ih, Ne.symm same]
    · by_cases same : other = first
      · simp [adjust, find?, changed, same]
      · simp [adjust, find?, changed, ih, Ne.symm same]

@[simp] theorem keys_adjust (key : κ) (change : β → β) (pairs : List (κ × β)) :
    keys (adjust key change pairs) = keys pairs := by
  simp only [keys, adjust, List.map_map]
  apply List.map_congr_left
  intro pair _
  by_cases changed : pair.1 = key <;> simp [changed]

theorem adjust_of_absent {key : κ} {pairs : List (κ × β)} (absent : key ∉ keys pairs)
    (change : β → β) : adjust key change pairs = pairs := by
  refine (List.map_congr_left fun pair member => ?_).trans (List.map_id pairs)
  have different : pair.1 ≠ key := by
    rintro rfl
    exact absent (mem_keys_of_mem member)
  rw [if_neg different, id]

theorem keys_erase (key : κ) (pairs : List (κ × β)) :
    keys (erase key pairs) = (keys pairs).filter (· ≠ key) := by
  simp only [keys, erase, List.filter_map]
  rfl

theorem erase_append (key : κ) (first second : List (κ × β)) :
    erase key (first ++ second) = erase key first ++ erase key second :=
  List.filter_append ..

theorem erase_sublist (key : κ) (pairs : List (κ × β)) : (erase key pairs).Sublist pairs :=
  List.filter_sublist

theorem erase_comm (first second : κ) (pairs : List (κ × β)) :
    erase first (erase second pairs) = erase second (erase first pairs) :=
  List.filter_comm _ _ _

theorem erase_of_absent {key : κ} {pairs : List (κ × β)} (absent : key ∉ keys pairs) :
    erase key pairs = pairs := by
  apply List.filter_eq_self.mpr
  intro pair member
  have different : pair.1 ≠ key := by
    rintro rfl
    exact absent (mem_keys_of_mem member)
  simpa using different

theorem nodup_erase {key : κ} {pairs : List (κ × β)} (distinct : (keys pairs).Nodup) :
    (keys (erase key pairs)).Nodup := by
  rw [keys_erase]
  exact distinct.filter _

theorem nodup_put {key : κ} {value : β} {pairs : List (κ × β)} (distinct : (keys pairs).Nodup) :
    (keys (put key value pairs)).Nodup := by
  rw [put, keys_cons, List.nodup_cons]
  refine ⟨?_, nodup_erase distinct⟩
  simp [keys_erase]

theorem length_erase {key : κ} {pairs : List (κ × β)} (distinct : (keys pairs).Nodup)
    (present : key ∈ keys pairs) : (erase key pairs).length + 1 = pairs.length := by
  induction pairs with
  | nil => simp at present
  | cons pair rest ih =>
    obtain ⟨first, value⟩ := pair
    rw [keys_cons, List.nodup_cons] at distinct
    rw [erase_cons]
    rcases List.mem_cons.mp present with same | present
    · have same : first = key := same.symm
      subst first
      rw [if_pos rfl, erase_of_absent distinct.1, List.length_cons]
    · have different : first ≠ key := by
        rintro rfl
        exact distinct.1 present
      rw [if_neg different, List.length_cons, List.length_cons, ih distinct.2 present]

/-! ## Pairs in another order -/

theorem find?_of_perm {pairs others : List (κ × β)} (distinct : (keys pairs).Nodup)
    (permuted : pairs.Perm others) (key : κ) : find? key others = find? key pairs := by
  cases found : find? key pairs with
  | some value =>
    have again : (keys others).Nodup := (permuted.map Prod.fst).nodup_iff.mp distinct
    exact find?_of_mem again (permuted.subset (mem_of_find? found))
  | none =>
    rw [find?_eq_none_iff] at found ⊢
    exact fun member => found ((permuted.map Prod.fst).symm.subset member)

theorem put_perm {pairs others : List (κ × β)} (permuted : pairs.Perm others) (key : κ) (value : β) :
    (put key value pairs).Perm (put key value others) :=
  (permuted.filter _).cons _

theorem put_put_perm {first second : κ} (apart : first ≠ second) (value other : β)
    (pairs : List (κ × β)) :
    (put second other (put first value pairs)).Perm (put first value (put second other pairs)) := by
  rw [put, put, put, put, erase_cons, if_neg apart, erase_cons, if_neg apart.symm, erase_comm]
  exact .swap _ _ _

end Confinement.Association
