import Confinement.Document.Decoder

/-! What a reader asks of a document, whatever its format.

A part of a document is asked for a value of a certain kind. Some formats can tell the kinds apart
by themselves, others settle what a text means only when they are asked.
-/

set_option autoImplicit false

namespace Confinement.Document

/-- An entry of a map that is read as a record: `field` finds which of some names its key is. -/
structure Member (ν : Type) where
  field : List String → Decoder (Option String)
  value : ν

class Source (ν : Type) where
  integer (low high : Int) (name : String) : ν → Decoder Int
  bool : ν → Decoder Bool
  text (expected : String) : ν → Decoder String
  optional : ν → Decoder (Option ν)
  items {α : Type} (expected : String) : ν → (List ν → Decoder α) → Decoder α
  members {α : Type} (expected : String) (arity : Nat) :
    ν → (List (Member ν) → Decoder α) → (List ν → Decoder α) → Decoder α
  choice (names : List String) : ν → Decoder String
  tagged (expected tag : String) (names : List String) : ν → Decoder (String × Value)
  keep : ν → Decoder Value

namespace Source

variable {ν : Type} [Source ν]

def u16 (part : ν) : Decoder UInt16 := do
  pure (← integer 0 0xffff "u16" part).toNat.toUInt16

def u32 (part : ν) : Decoder UInt32 := do
  pure (← integer 0 0xffffffff "u32" part).toNat.toUInt32

def u64 (part : ν) : Decoder UInt64 := do
  pure (← integer 0 0xffffffffffffffff "u64" part).toNat.toUInt64

def i32 (part : ν) : Decoder Int32 := do
  pure (← integer (-0x80000000) 0x7fffffff "i32" part).toInt32

def size (part : ν) : Decoder Nat := do
  pure (← integer 0 0xffffffffffffffff "usize" part).toNat

def option {α : Type} (read : ν → Decoder α) (part : ν) : Decoder (Option α) := do
  match ← optional part with
  | some part => some <$> read part
  | none => pure none

def list {α : Type} (read : ν → Decoder α) (part : ν) : Decoder (List α) :=
  items "a sequence" part fun parts => Decoder.forEach (fun _ part => read part) 0 parts

end Source

end Confinement.Document
