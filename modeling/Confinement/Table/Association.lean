/-! Association lists: finite maps as lists of pairs, of which the first with a key counts. -/

set_option autoImplicit false

namespace Confinement.Association

variable {κ β : Type} [DecidableEq κ]

def find? (key : κ) : List (κ × β) → Option β
  | [] => none
  | (k, value) :: rest => if k = key then some value else find? key rest

def erase (key : κ) (pairs : List (κ × β)) : List (κ × β) :=
  pairs.filter fun pair => pair.1 ≠ key

def put (key : κ) (value : β) (pairs : List (κ × β)) : List (κ × β) :=
  (key, value) :: erase key pairs

def adjust (key : κ) (change : β → β) (pairs : List (κ × β)) : List (κ × β) :=
  pairs.map fun pair => if pair.1 = key then (pair.1, change pair.2) else pair

end Confinement.Association
