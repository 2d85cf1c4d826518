import Confinement.Document.Record

/-! Reading from values that tell their kinds themselves.

These are the values of a text in a format that does so, and the values that were kept from any
document to be read later. The two differ in a few words and in what they take for the name of a
field or of a choice.
-/

set_option autoImplicit false

namespace Confinement.Document

structure Datum where
  kept : Bool
  value : Value

namespace Datum

def mismatch {α : Type} (value : Value) (expected : String) : Decoder α :=
  Decoder.fail (.invalidType value.found expected)

def integer (low high : Int) (name : String) (datum : Datum) : Decoder Int :=
  match datum.value with
  | .unsigned n => bounded n.toNat
  | .signed n => bounded n.toInt
  | other => mismatch other name
where
  bounded (n : Int) : Decoder Int :=
    if low ≤ n ∧ n ≤ high then pure n else Decoder.fail (.invalidValue (.integer n) name)

def fieldOf (key : Value) (names : List String) : Decoder (Option String) :=
  -- A key that was kept may also be the position of the name.
  match key with
  | .string name => pure (if names.contains name then some name else none)
  | .unsigned position => pure names[position.toNat]?
  | other => mismatch other "field identifier"

/-- The name of a choice, or its position among the names. -/
def choiceOf (names : List String) : Value → Decoder String
  | .string name =>
    if names.contains name then pure name else Decoder.fail (.unknownVariant name names)
  | .unsigned position =>
    match names[position.toNat]? with
    | some name => pure name
    | none => Decoder.fail (.invalidValue (.integer position.toNat)
        s!"variant index 0 <= i < {names.length}")
  | other => mismatch other "variant identifier"

def choice (names : List String) (datum : Datum) : Decoder String :=
  match datum.value with
  | .string name => choiceOf names (.string name)
  | .map [(key, content)] => do
    let name ← choiceOf names key
    match content with
    | .unit => pure name
    | other => mismatch other "unit"
  | .map _ => Decoder.fail (.invalidValue .map "map with a single key")
  | other => mismatch other "string or map"

def tagOf (kept : Bool) (names : List String) (value : Value) : Decoder String :=
  -- Positions count only in kept values.
  match value, kept with
  | .unsigned _, false => mismatch value "variant identifier"
  | _, _ => choiceOf names value

def splitTag (kept : Bool) (tag : String) (names : List String) :
    List (Value × Value) → Option String → List (Value × Value) →
      Decoder (Option String × List (Value × Value))
  | [], chosen, others => pure (chosen, others.reverse)
  | (key, content) :: rest, chosen, others =>
    match key with
    | .string name =>
      if name = tag then
        if chosen.isSome then Decoder.fail (.duplicateField tag)
        else do
          let chosen ← tagOf kept names content
          splitTag kept tag names rest (some chosen) others
      else splitTag kept tag names rest chosen ((key, content) :: others)
    | _ => splitTag kept tag names rest chosen ((key, content) :: others)

def tagged (expected tag : String) (names : List String) (datum : Datum) :
    Decoder (String × Value) :=
  match datum.value with
  | .map entries => do
    match ← splitTag datum.kept tag names entries none [] with
    | (some chosen, others) => pure (chosen, .map others)
    | (none, _) => Decoder.fail (.missingField tag)
  | .sequence (first :: rest) => do
    let chosen ← tagOf datum.kept names first
    pure (chosen, .sequence rest)
  | .sequence [] => Decoder.fail (.missingField tag)
  | other => mismatch other expected

def refuseRest (kept : Bool) (arity length : Nat) : Decoder Unit :=
  if length ≤ arity then pure ()
  else if kept then
    Decoder.fail (.invalidLength length (Record.counted arity "element" ++ " in sequence"))
  else Decoder.fail (.invalidLength length "fewer elements in array")

instance : Source Datum where
  integer := integer
  bool datum := match datum.value with
    | .bool value => pure value
    | other => mismatch other "a boolean"
  text expected datum := match datum.value with
    | .string text => pure text
    | other => mismatch other expected
  optional datum := match datum.value with
    | .unit | .absent => pure none
    | _ => pure (some datum)
  items expected datum visit := match datum.value with
    | .sequence parts => visit (parts.map fun part => ⟨datum.kept, part⟩)
    | other => mismatch other expected
  members expected arity datum visitMembers visitItems := match datum.value with
    | .map entries => visitMembers (entries.map fun entry =>
        ⟨fieldOf entry.1, ⟨datum.kept, entry.2⟩⟩)
    | .sequence parts => do
      let value ← visitItems ((parts.take arity).map fun part => ⟨datum.kept, part⟩)
      refuseRest datum.kept arity parts.length
      pure value
    | other => mismatch other expected
  choice := choice
  tagged := tagged
  keep datum := pure datum.value

def nothing (expected : String) (value : Value) : Decoder Unit :=
  -- Whatever a map holds is passed over.
  match value with
  | .map _ => pure ()
  | .sequence items => refuseRest true 0 items.length
  | other => mismatch other expected

end Datum

end Confinement.Document
