import Confinement.Text.LowerCase.Table

/-! Lower casing of whole texts.

A character has one lower case form wherever it stands, except the capital sigma, which becomes a
final sigma at the end of a word, and the dotted capital I, whose form is two characters long.
-/

set_option autoImplicit false

namespace Confinement.Text

namespace LowerCase

def inRanges (ranges : List (Nat × Nat)) (c : Char) : Bool :=
  ranges.any fun range => range.1 ≤ c.toNat && c.toNat ≤ range.2

def ofChar (c : Char) : Char :=
  if c.toNat < 0x80 then c.toLower
  else match runs.find? fun run => run.covers c.toNat with
    | some run => Char.ofNat (c.toNat + run.shift).toNat
    | none => c

/-- Whether, case-ignorable characters passed over, a cased character comes next. -/
def casedAhead : List Char → Bool
  | [] => false
  | c :: rest => if inRanges ignorableRanges c then casedAhead rest else inRanges casedRanges c

def ofChars (before : List Char) : List Char → List Char
  -- `before` holds the earlier ones, nearest first.
  | [] => []
  | 'Σ' :: rest =>
    (if casedAhead before && !casedAhead rest then 'ς' else 'σ') :: ofChars ('Σ' :: before) rest
  | 'İ' :: rest => 'i' :: '\u0307' :: ofChars ('İ' :: before) rest
  | c :: rest => ofChar c :: ofChars (c :: before) rest

end LowerCase

def lower (text : String) : String :=
  String.ofList (LowerCase.ofChars [] text.toList)

end Confinement.Text
