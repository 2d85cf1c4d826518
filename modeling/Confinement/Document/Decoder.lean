import Confinement.Document.Value

/-! Decoders: computations that give the values of a document their meaning.

A decoder may fail. It also counts down how often it may still follow a reference from one part of
the document to another.
-/

set_option autoImplicit false

namespace Confinement.Document

abbrev Decoder (α : Type) := StateT Nat (Except Fault) α

namespace Decoder

variable {α β : Type}

def fail (cause : Cause) : Decoder α :=
  fun _ => .error ⟨cause, none⟩

/-- Failures inside arise at this place, unless they already have one. -/
def within (place : List Segment) (decoder : Decoder α) : Decoder α :=
  fun steps => (decoder steps).mapError fun fault => fault.locate place

def attempt (decoder : Decoder α) : Decoder (Option α) :=
  fun steps => match decoder steps with
    | .ok (value, left) => .ok (some value, left)
    | .error _ => .ok (none, steps)

def step : Decoder Unit :=
  fun steps => match steps with
    | 0 => .error ⟨.tooManyRepetitions, none⟩
    | left + 1 => .ok ((), left)

def run (decoder : Decoder α) (steps : Nat) : Except Fault α :=
  (decoder steps).map (·.1)

/-- Takes the items of a list one by one, with their positions from `position` on. -/
def forEach (visit : Nat → α → Decoder β) : Nat → List α → Decoder (List β)
  | _, [] => pure []
  | position, item :: rest => do
    let first ← visit position item
    let others ← forEach visit (position + 1) rest
    pure (first :: others)

end Decoder

end Confinement.Document
