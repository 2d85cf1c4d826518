import Confinement.Document.Source

/-! Records: values with named fields.

A record is read from the members of a map, in whatever order they come, or from a sequence that
holds its fields in their order. Each field holds at most one value; unknown members are passed over.
-/

set_option autoImplicit false

namespace Confinement.Document

/-- How the fields of a record are read. `σ` holds the values of the fields that were met. -/
structure Record (ν σ α : Type) where
  names : List String
  start : σ
  accept : String → ν → σ → Decoder σ
  finish : σ → Decoder α
  inOrder (expected : String) : Nat → List ν → Decoder (α × List ν)

namespace Record

variable {ν σ τ α β : Type}

def field (name : String) (read : ν → Decoder α) (standIn : Option α) :
    Record ν (Option α) α where
  -- A value to stand in for a missing field makes the field optional.
  names := [name]
  start := none
  accept _ part met := do
    if met.isSome then Decoder.fail (.duplicateField name)
    else some <$> read part
  finish met :=
    match met, standIn with
    | some value, _ => pure value
    | none, some value => pure value
    | none, none => Decoder.fail (.missingField name)
  inOrder expected position parts :=
    match parts, standIn with
    | part :: rest, _ => do
      let value ← read part
      pure (value, rest)
    | [], some value => pure (value, [])
    | [], none => Decoder.fail (.invalidLength position expected)

def required (name : String) (read : ν → Decoder α) : Record ν (Option α) α :=
  field name read none

def both (first : Record ν σ α) (second : Record ν τ β) : Record ν (σ × τ) (α × β) where
  names := first.names ++ second.names
  start := (first.start, second.start)
  accept name part met :=
    if first.names.contains name then do
      let left ← first.accept name part met.1
      pure (left, met.2)
    else do
      let right ← second.accept name part met.2
      pure (met.1, right)
  finish met := do
    let left ← first.finish met.1
    let right ← second.finish met.2
    pure (left, right)
  inOrder expected position parts := do
    let (left, parts) ← first.inOrder expected position parts
    let (right, parts) ← second.inOrder expected (position + first.names.length) parts
    pure ((left, right), parts)

def map (make : α → β) (record : Record ν σ α) : Record ν σ β where
  names := record.names
  start := record.start
  accept := record.accept
  finish met := make <$> record.finish met
  inOrder expected position parts := do
    let (value, parts) ← record.inOrder expected position parts
    pure (make value, parts)

def ofMembers (record : Record ν σ α) : List (Member ν) → σ → Decoder α
  | [], met => record.finish met
  | member :: rest, met => do
    match ← member.field record.names with
    | some name =>
      let met ← record.accept name member.value met
      record.ofMembers rest met
    | none => record.ofMembers rest met

def counted (count : Nat) (thing : String) : String :=
  s!"{count} " ++ thing ++ (if count = 1 then "" else "s")

def ofItems (record : Record ν σ α) (expected : String) (parts : List ν) : Decoder α := do
  let (value, _) ← record.inOrder
    (expected ++ " with " ++ counted record.names.length "element") 0 parts
  pure value

def read [Source ν] (record : Record ν σ α) (expected : String) (part : ν) : Decoder α :=
  Source.members expected record.names.length part
    (fun members => record.ofMembers members record.start)
    (record.ofItems expected)

end Record

end Confinement.Document
