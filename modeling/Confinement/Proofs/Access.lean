import Confinement.Access
import Confinement.Error
import Mathlib.Data.List.Perm.Basic
import Mathlib.Data.List.TakeWhile

/-! How sets of access classes are read and shown.

A text is read if it consists of letters, white space around them aside. It then stands for the classes whose
letters occur in it, however often and in whatever order. What is shown of a set is the one text among the
parts of `rwax` that has its letters.
-/

set_option autoImplicit false

namespace Confinement

/-! ## White space around a text -/

namespace Text

/-- Whether the character is white space, as Unicode has it. -/
def IsWhiteSpace (c : Char) : Prop :=
  c.toNat ∈ [0x09, 0x0a, 0x0b, 0x0c, 0x0d, 0x20, 0x85, 0xa0, 0x1680, 0x2000, 0x2001, 0x2002, 0x2003, 0x2004,
    0x2005, 0x2006, 0x2007, 0x2008, 0x2009, 0x200a, 0x2028, 0x2029, 0x202f, 0x205f, 0x3000]

theorem isBlank_iff {c : Char} : isBlank c = true ↔ IsWhiteSpace c := by
  simp only [isBlank, IsWhiteSpace, Bool.or_eq_true, Bool.and_eq_true, decide_eq_true_eq, beq_iff_eq,
    List.mem_cons, List.not_mem_nil, or_false]
  omega

theorem isBlank_eq_false_iff {c : Char} : isBlank c = false ↔ ¬ IsWhiteSpace c := by
  rw [← isBlank_iff, Bool.not_eq_true]

/-- The inner part of a text is what the white space at both ends leaves. -/
structure Stripped (text inner : List Char) : Prop where
  split : ∃ before after, text = before ++ inner ++ after ∧
    (∀ c ∈ before, IsWhiteSpace c) ∧ ∀ c ∈ after, IsWhiteSpace c
  first : ∀ c, inner.head? = some c → ¬ IsWhiteSpace c
  last : ∀ c, inner.getLast? = some c → ¬ IsWhiteSpace c

theorem not_isBlank_head (text : List Char) {c : Char}
    (head : (text.dropWhile isBlank).head? = some c) : isBlank c = false := by
  have stops := List.head?_dropWhile_not isBlank text
  rw [head] at stops
  exact stops

theorem stripped_strip (text : List Char) : Stripped text (strip text) := by
  have rest : text.dropWhile isBlank =
      strip text ++ ((text.dropWhile isBlank).reverse.takeWhile isBlank).reverse := by
    rw [strip, ← List.reverse_append, List.takeWhile_append_dropWhile, List.reverse_reverse]
  constructor
  case split =>
    refine ⟨text.takeWhile isBlank, ((text.dropWhile isBlank).reverse.takeWhile isBlank).reverse,
      ?_, ?_, ?_⟩
    · rw [List.append_assoc, ← rest, List.takeWhile_append_dropWhile]
    · exact fun c member => isBlank_iff.mp (List.mem_takeWhile_imp member)
    · exact fun c member => isBlank_iff.mp (List.mem_takeWhile_imp (List.mem_reverse.mp member))
  case first =>
    intro c head
    refine isBlank_eq_false_iff.mp (not_isBlank_head text ?_)
    rw [rest, List.head?_append, head]
    rfl
  case last =>
    intro c last
    rw [strip, List.getLast?_reverse] at last
    exact isBlank_eq_false_iff.mp (not_isBlank_head _ last)

theorem strip_of_not_isBlank {text : List Char} (plain : ∀ c ∈ text, isBlank c = false) :
    strip text = text := by
  have keeps : ∀ {cs : List Char}, (∀ c ∈ cs, isBlank c = false) → cs.dropWhile isBlank = cs := by
    intro cs plain
    cases cs with
    | nil => rfl
    | cons c rest => exact List.dropWhile_cons_of_neg (by simp [plain c List.mem_cons_self])
  rw [strip, keeps plain, keeps fun c member => plain c (List.mem_reverse.mp member), List.reverse_reverse]

end Text

/-! ## Classes and their letters -/

inductive AccessClass where
  | read
  | write
  | append
  | exec
  deriving DecidableEq, Repr

namespace AccessClass

def all : List AccessClass := [read, write, append, exec]

def letter : AccessClass → Char
  | read => 'r'
  | write => 'w'
  | append => 'a'
  | exec => 'x'

def IsLetter (c : Char) : Prop :=
  ∃ kind : AccessClass, kind.letter = c

theorem mem_all (kind : AccessClass) : kind ∈ all := by
  cases kind <;> decide

theorem letter_injective : Function.Injective letter := by
  intro kind other same
  cases kind <;> cases other <;> first | rfl | cases same

theorem not_isBlank_letter (kind : AccessClass) : Text.isBlank kind.letter = false := by
  cases kind <;> decide

end AccessClass

open AccessClass (IsLetter letter_injective)

namespace Access

variable {access other : Access} {kind : AccessClass} {cs : List Char} {c : Char}

def has (access : Access) : AccessClass → Bool
  | .read => access.read
  | .write => access.write
  | .append => access.append
  | .exec => access.exec

def only : AccessClass → Access
  | .read => onlyRead
  | .write => onlyWrite
  | .append => onlyAppend
  | .exec => onlyExec

theorem eq_of_has (same : ∀ kind, access.has kind = other.has kind) : access = other := by
  obtain ⟨exec, write, read, append⟩ := access
  cases same .exec
  cases same .write
  cases same .read
  cases same .append
  rfl

@[simp] theorem has_none (kind : AccessClass) : none.has kind = false := by
  cases kind <;> rfl

@[simp] theorem has_only (kind other : AccessClass) :
    (only kind).has other = decide (other = kind) := by
  cases kind <;> cases other <;> rfl

@[simp] theorem has_union (access other : Access) (kind : AccessClass) :
    (access ∪ other).has kind = (access.has kind || other.has kind) := by
  cases kind <;> rfl

theorem union_none (access : Access) : access ∪ .none = access :=
  eq_of_has fun kind => by simp

theorem ofLetter?_letter (kind : AccessClass) : ofLetter? kind.letter = some (only kind) := by
  cases kind <;> rfl

theorem ofLetter?_eq_none (foreign : ¬ IsLetter c) : ofLetter? c = Option.none := by
  unfold ofLetter?
  split
  case h_1 => exact absurd ⟨.read, rfl⟩ foreign
  case h_2 => exact absurd ⟨.write, rfl⟩ foreign
  case h_3 => exact absurd ⟨.append, rfl⟩ foreign
  case h_4 => exact absurd ⟨.exec, rfl⟩ foreign
  case h_5 => rfl

/-! ## Reading -/

theorem ofLetters_letter (kind : AccessClass) (rest : List Char) :
    ofLetters (kind.letter :: rest) = (ofLetters rest).map (only kind ∪ ·) := by
  rw [ofLetters, ofLetter?_letter]

theorem ofLetters_foreign (foreign : ¬ IsLetter c) (rest : List Char) :
    ofLetters (c :: rest) = .error c := by
  rw [ofLetters, ofLetter?_eq_none foreign]

theorem ofLetters_eq_error_iff : ofLetters cs = .error c ↔
    ∃ before after, cs = before ++ c :: after ∧ (∀ d ∈ before, IsLetter d) ∧ ¬ IsLetter c := by
  induction cs with
  | nil =>
    constructor
    · rintro ⟨⟩
    · rintro ⟨before, after, split, _⟩
      simp at split
  | cons first rest ih =>
    by_cases letter : IsLetter first
    · obtain ⟨kind, rfl⟩ := letter
      have later : (ofLetters rest).map (only kind ∪ ·) = .error c ↔ ofLetters rest = .error c := by
        cases ofLetters rest <;> simp [Except.map]
      rw [ofLetters_letter, later, ih]
      constructor
      · rintro ⟨before, after, rfl, letters, foreign⟩
        exact ⟨kind.letter :: before, after, rfl, List.forall_mem_cons.mpr ⟨⟨kind, rfl⟩, letters⟩,
          foreign⟩
      · rintro ⟨before, after, split, letters, foreign⟩
        cases before with
        | nil =>
          cases split
          exact absurd ⟨kind, rfl⟩ foreign
        | cons head tail =>
          cases split
          exact ⟨tail, after, rfl, (List.forall_mem_cons.mp letters).2, foreign⟩
    · rw [ofLetters_foreign letter]
      constructor
      · rintro ⟨⟩
        exact ⟨[], rest, rfl, by simp, letter⟩
      · rintro ⟨before, after, split, letters, foreign⟩
        cases before with
        | nil =>
          cases split
          rfl
        | cons head tail =>
          cases split
          exact absurd (List.forall_mem_cons.mp letters).1 letter

theorem ofLetters_eq_ok_iff : ofLetters cs = .ok access ↔
    (∀ c ∈ cs, IsLetter c) ∧ ∀ kind, access.has kind = true ↔ kind.letter ∈ cs := by
  induction cs generalizing access with
  | nil =>
    constructor
    · rintro ⟨⟩
      simp
    · rintro ⟨_, classes⟩
      refine congrArg Except.ok (eq_of_has fun kind => ?_)
      simpa using (classes kind).symm
  | cons first rest ih =>
    by_cases letter : IsLetter first
    · obtain ⟨first, rfl⟩ := letter
      rw [ofLetters_letter]
      cases later : ofLetters rest with
      | error c =>
        obtain ⟨before, after, split, _, foreign⟩ := ofLetters_eq_error_iff.mp later
        constructor
        · rintro ⟨⟩
        · rintro ⟨letters, _⟩
          exact absurd (letters c (by simp [split])) foreign
      | ok inner =>
        obtain ⟨letters, classes⟩ := ih.mp later
        have union : ∀ kind,
            (only first ∪ inner).has kind = true ↔ kind.letter ∈ first.letter :: rest := by
          intro kind
          simp [classes kind, letter_injective.eq_iff]
        constructor
        · rintro ⟨⟩
          exact ⟨List.forall_mem_cons.mpr ⟨⟨first, rfl⟩, letters⟩, union⟩
        · rintro ⟨_, classes⟩
          exact congrArg Except.ok (eq_of_has fun kind =>
            Bool.eq_iff_iff.mpr ((union kind).trans (classes kind).symm))
    · rw [ofLetters_foreign letter]
      constructor
      · rintro ⟨⟩
      · rintro ⟨letters, _⟩
        exact absurd (letters first List.mem_cons_self) letter

variable {text : String} {fault : AccessFault}

theorem parse_eq_ok_iff : parse text = .ok access ↔
    (∀ c ∈ Text.strip text.toList, IsLetter c) ∧
      ∀ kind, access.has kind = true ↔ kind.letter ∈ Text.strip text.toList := by
  rw [← ofLetters_eq_ok_iff, parse]
  cases ofLetters (Text.strip text.toList) <;> simp [Except.mapError]

theorem parse_eq_error_iff : parse text = .error fault ↔ fault.text = text ∧
    ∃ before after, Text.strip text.toList = before ++ fault.flag :: after ∧
      (∀ c ∈ before, IsLetter c) ∧ ¬ IsLetter fault.flag := by
  obtain ⟨flag, whole⟩ := fault
  rw [← ofLetters_eq_error_iff, parse]
  cases ofLetters (Text.strip text.toList) with
  | ok access => simp [Except.mapError]
  | error c => simp [Except.mapError, and_comm, eq_comm (a := text)]

theorem exists_parse_iff :
    (∃ access, parse text = .ok access) ↔ ∀ c ∈ Text.strip text.toList, IsLetter c := by
  constructor
  · rintro ⟨access, read⟩
    exact (parse_eq_ok_iff.mp read).1
  · intro letters
    cases read : parse text with
    | ok access => exact ⟨access, rfl⟩
    | error fault =>
      obtain ⟨_, before, after, split, _, foreign⟩ := parse_eq_error_iff.mp read
      exact absurd (letters fault.flag (by simp [split])) foreign

theorem strip_letters (letters : ∀ c ∈ text.toList, IsLetter c) :
    Text.strip text.toList = text.toList := by
  refine Text.strip_of_not_isBlank fun c member => ?_
  obtain ⟨kind, rfl⟩ := letters c member
  exact kind.not_isBlank_letter

theorem parse_letters (letters : ∀ c ∈ text.toList, IsLetter c) : parse text = .ok access ↔
    ∀ kind, access.has kind = true ↔ kind.letter ∈ text.toList := by
  rw [parse_eq_ok_iff, strip_letters letters]
  exact and_iff_right letters

theorem parse_append {first second : Access} {rest : String} (letters : ∀ c ∈ text.toList, IsLetter c)
    (others : ∀ c ∈ rest.toList, IsLetter c) (one : parse text = .ok first)
    (two : parse rest = .ok second) : parse (text ++ rest) = .ok (first ∪ second) := by
  have all : ∀ c ∈ (text ++ rest).toList, IsLetter c := by
    rw [String.toList_append]
    exact List.forall_mem_append.mpr ⟨letters, others⟩
  refine (parse_letters all).mpr fun kind => ?_
  rw [has_union, Bool.or_eq_true, (parse_letters letters).mp one kind, (parse_letters others).mp two kind,
    String.toList_append, List.mem_append]

/-! ## Showing -/

theorem letters_eq (access : Access) :
    access.letters = (AccessClass.all.filter access.has).map AccessClass.letter := by
  obtain ⟨exec, write, read, append⟩ := access
  cases exec <;> cases write <;> cases read <;> cases append <;> rfl

theorem toList_render (access : Access) : access.render.toList = access.letters :=
  String.toList_ofList

theorem mem_render : c ∈ access.render.toList ↔ ∃ kind, access.has kind = true ∧ kind.letter = c := by
  simp [toList_render, letters_eq, AccessClass.mem_all]

theorem letter_mem_render : kind.letter ∈ access.render.toList ↔ access.has kind = true := by
  simp [mem_render, letter_injective.eq_iff]

theorem sublist_render (access : Access) : access.render.toList.Sublist "rwax".toList := by
  rw [toList_render, letters_eq]
  exact (List.filter_sublist (l := AccessClass.all)).map AccessClass.letter

theorem parse_render (access : Access) : parse access.render = .ok access := by
  refine (parse_letters fun c member => ?_).mpr fun kind => letter_mem_render.symm
  obtain ⟨kind, _, same⟩ := mem_render.mp member
  exact ⟨kind, same⟩

theorem eq_of_sublist {first second : List Char} (one : first.Sublist "rwax".toList)
    (two : second.Sublist "rwax".toList) (same : ∀ c, c ∈ first ↔ c ∈ second) : first = second := by
  have distinct : "rwax".toList.Nodup := by decide
  apply (distinct.perm_iff_eq_of_sublist one two).mp
  exact (List.perm_ext_iff_of_nodup (distinct.sublist one) (distinct.sublist two)).mpr same

def normalize (text : String) : Except AccessFault String :=
  (parse text).map render

theorem normalize_of_parse (read : parse text = .ok access) : normalize text = .ok access.render := by
  rw [normalize, read, Except.map]

/-- What is read from a text, and what is shown of it. -/
structure Understood (text : String) : Prop where
  stripped : Text.Stripped text.toList (Text.strip text.toList)
  accepted : (∃ access, parse text = .ok access) ↔ ∀ c ∈ Text.strip text.toList, IsLetter c
  classes : ∀ access, parse text = .ok access →
    ∀ kind, access.has kind = true ↔ kind.letter ∈ Text.strip text.toList
  refused : (∃ access, parse text = .ok access) ∨
    ∃ before flag after, Text.strip text.toList = before ++ flag :: after ∧
      (∀ c ∈ before, IsLetter c) ∧ ¬ IsLetter flag ∧ parse text = .error ⟨flag, text⟩ ∧
      (Error.policy (.access ⟨flag, text⟩)).message =
        "Policy error: " ++ s!"invalid access flag '{flag}' in '{text}'"
  reordered : ∀ other : String, (∀ c, c ∈ Text.strip other.toList ↔ c ∈ Text.strip text.toList) →
    ∀ access, parse other = .ok access ↔ parse text = .ok access
  joined : ∀ other : String,
    (∀ c ∈ text.toList, IsLetter c) → (∀ c ∈ other.toList, IsLetter c) →
    ∃ first second, parse text = .ok first ∧ parse other = .ok second ∧
      parse (text ++ other) = .ok (first ∪ second)
  shown : ∀ access, parse text = .ok access → ∀ letters, letters = access.render.toList ↔
    letters.Sublist "rwax".toList ∧ ∀ c, c ∈ letters ↔ c ∈ Text.strip text.toList
  settled : (normalize text).bind normalize = normalize text

theorem message_fault (flag : Char) (text : String) :
    (Error.policy (.access ⟨flag, text⟩)).message =
      "Policy error: " ++ s!"invalid access flag '{flag}' in '{text}'" := by
  unfold Error.message PolicyFault.message AccessFault.message
  with_reducible rfl

theorem mem_render_of_parse (read : parse text = .ok access) :
    c ∈ access.render.toList ↔ c ∈ Text.strip text.toList := by
  obtain ⟨letters, classes⟩ := parse_eq_ok_iff.mp read
  rw [mem_render]
  constructor
  · rintro ⟨kind, present, rfl⟩
    exact (classes kind).mp present
  · intro member
    obtain ⟨kind, rfl⟩ := letters c member
    exact ⟨kind, (classes kind).mpr member, rfl⟩

/-- A text is read as the set of its letters if it has no other characters but white space around them, and
is refused by its first other character otherwise. What is shown of a set is the part of `rwax` with its
letters, and is read as the same set. -/
theorem understood_of_text :
    (∀ text, Understood text) ∧ ∀ access : Access, parse access.render = .ok access := by
  refine ⟨fun text => ?_, parse_render⟩
  constructor
  case stripped => exact Text.stripped_strip text.toList
  case accepted => exact exists_parse_iff
  case classes => exact fun access read => (parse_eq_ok_iff.mp read).2
  case refused =>
    cases read : parse text with
    | ok access => exact .inl ⟨access, rfl⟩
    | error fault =>
      obtain ⟨flag, whole⟩ := fault
      obtain ⟨rfl, before, after, split, letters, foreign⟩ := parse_eq_error_iff.mp read
      exact .inr ⟨before, flag, after, split, letters, foreign, rfl, message_fault flag whole⟩
  case reordered =>
    intro other same access
    simp only [parse_eq_ok_iff, same]
  case joined =>
    intro other letters others
    obtain ⟨first, one⟩ := exists_parse_iff.mpr (strip_letters letters ▸ letters)
    obtain ⟨second, two⟩ := exists_parse_iff.mpr (strip_letters others ▸ others)
    exact ⟨first, second, one, two, parse_append letters others one two⟩
  case shown =>
    intro access read letters
    constructor
    · rintro rfl
      exact ⟨access.sublist_render, fun c => mem_render_of_parse read⟩
    · rintro ⟨part, same⟩
      refine eq_of_sublist part access.sublist_render fun c => ?_
      exact (same c).trans (mem_render_of_parse read).symm
  case settled =>
    cases read : parse text with
    | error fault => simp only [normalize, read, Except.map, Except.bind]
    | ok access => simp only [normalize_of_parse read, normalize_of_parse (parse_render access), Except.bind]

end Access

end Confinement
