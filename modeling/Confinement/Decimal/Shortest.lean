/-! The fewest decimal digits that still name a binary floating-point number.

A finite number is `significand · 2 ^ exponent`. All reals nearer to it than to its neighbours read
back as it; the end points do so exactly when the significand is even. The grids of one, two, …
seventeen digits are tried in turn, and on each the two points beside the number.
-/

set_option autoImplicit false

namespace Confinement.Decimal

/-- A positive finite number as an integer times a power of two. -/
structure Binary where
  significand : Nat
  exponent : Int
  narrowBelow : Bool

/-- A decimal number `0.d₁d₂… · 10 ^ point`. -/
structure Digits where
  digits : List Char
  point : Int

/-- Which of two shortest decimals is taken for a number just in the middle between them. -/
inductive Tie where
  | even
  | away
  deriving DecidableEq, Repr

def Tie.goesUp (point : Nat) : Tie → Bool
  -- `point` is the smaller one.
  | even => point % 2 == 1
  | away => true

namespace Binary

def ofBits? (bits : UInt64) : Option Binary :=
  -- `none` for zero, infinity and not-a-number.
  let fraction : Nat := bits.toNat % (1 <<< 52)
  let field : Nat := (bits.toNat >>> 52) % (1 <<< 11)
  if field = 2047 then none
  else if field = 0 then
    if fraction = 0 then none else some ⟨fraction, -1074, false⟩
  else some ⟨(1 <<< 52) + fraction, (field : Int) - 1075, fraction == 0 && field != 1⟩

def quadruple (b : Binary) : Nat × Nat :=
  if 0 ≤ b.exponent then ((4 * b.significand) <<< b.exponent.toNat, 1)
  else (4 * b.significand, 1 <<< (-b.exponent).toNat)

def admits (b : Binary) (point : Nat) (grid : Int) : Bool :=
  let unit := b.quadruple.1 / b.significand
  let low := b.quadruple.1 - (if b.narrowBelow then unit / 4 else unit / 2)
  let high := b.quadruple.1 + unit / 2
  let up := if 0 ≤ grid then Nat.pow 10 grid.toNat else 1
  let down := if 0 ≤ grid then 1 else Nat.pow 10 (-grid).toNat
  let value := 4 * point * up * b.quadruple.2
  if b.significand % 2 = 0 then low * down ≤ value && value ≤ high * down
  else low * down < value && value < high * down

def leading (b : Binary) : Int :=
  let scaled := b.quadruple.1 * Nat.pow 10 400 / (4 * b.quadruple.2)
  ((Nat.toDigits 10 scaled).length : Int) - 401

def below (b : Binary) (tie : Tie) (grid : Int) : Nat × Bool :=
  let up := if 0 ≤ grid then Nat.pow 10 grid.toNat else 1
  let down := if 0 ≤ grid then 1 else Nat.pow 10 (-grid).toNat
  let numerator := b.quadruple.1 * down
  let denominator := 4 * b.quadruple.2 * up
  let point := numerator / denominator
  let rest := numerator % denominator
  (point, 2 * rest > denominator || (2 * rest == denominator && tie.goesUp point))

/-- The nearest point of the grid of `count` digits that reads back as the number. -/
def onGrid? (b : Binary) (tie : Tie) (count : Nat) : Option (Nat × Int) :=
  let grid := b.leading - count + 1
  let (point, upper) := b.below tie grid
  match b.admits point grid, b.admits (point + 1) grid with
  | true, true => some (if upper then point + 1 else point, grid)
  | true, false => some (point, grid)
  | false, true => some (point + 1, grid)
  | false, false => none

def shortest (b : Binary) (tie : Tie) : Digits :=
  match (List.range 17).findSome? fun n => b.onGrid? tie (n + 1) with
  | some (point, grid) =>
    let digits := Nat.toDigits 10 point
    ⟨(digits.reverse.dropWhile (· == '0')).reverse, grid + digits.length⟩
  | none => ⟨[], 0⟩

end Binary

end Confinement.Decimal
