import Confinement.Decimal.Shortest

/-! Writing floating-point numbers: where positional notation ends, and which of two equally near
decimals is written. -/

set_option autoImplicit false

namespace Confinement.Decimal

structure Layout where
  positional : Option (Int × Int)
  tie : Tie

def Layout.plain : Layout := ⟨none, .away⟩

/-- Numbers from `1e-5` up to `1e16` are written positionally, others with a signed exponent. -/
def Layout.scientific : Layout := ⟨some (-5, 15), .even⟩

namespace Digits

def positional (d : Digits) : String :=
  let n := d.digits.length
  if d.point ≤ 0 then
    "0." ++ String.ofList (List.replicate (-d.point).toNat '0' ++ d.digits)
  else if n ≤ d.point.toNat then
    String.ofList (d.digits ++ List.replicate (d.point.toNat - n) '0') ++ ".0"
  else
    String.ofList (d.digits.take d.point.toNat) ++ "." ++ String.ofList (d.digits.drop d.point.toNat)

def exponential (d : Digits) : String :=
  let exponent := d.point - 1
  let fraction := if d.digits.length ≤ 1 then "" else "." ++ String.ofList (d.digits.drop 1)
  String.ofList (d.digits.take 1) ++ fraction ++ (if exponent < 0 then "e-" else "e+") ++
    toString exponent.natAbs

def render (d : Digits) (layout : Layout) : String :=
  match layout.positional with
  | none => d.positional
  | some (low, high) =>
    if low ≤ d.point - 1 && d.point - 1 ≤ high then d.positional else d.exponential

end Digits

def Layout.text (layout : Layout) (x : Float) : String :=
  let bits := x.toBits
  let sign := if bits.toNat >>> 63 = 1 then "-" else ""
  if x.isNaN then "NaN"
  else if x.isInf then sign ++ "inf"
  else match Binary.ofBits? bits with
    | none => sign ++ "0.0"
    | some b => sign ++ (b.shortest layout.tie).render layout

end Confinement.Decimal
