import Confinement.Document.Value

/-! What a scalar without quotation marks means.

The same text may be read as an integer, in one of four bases, as a floating-point number, as a truth
value, as nothing, or as itself.
-/

set_option autoImplicit false

namespace Confinement.Yaml.Plain

open Document (Value)

def isNull (text : List Char) : Bool :=
  text == ['~'] || text == "null".toList || text == "Null".toList || text == "NULL".toList

def bool? (text : List Char) : Option Bool :=
  if text == "true".toList || text == "True".toList || text == "TRUE".toList then some true
  else if text == "false".toList || text == "False".toList || text == "FALSE".toList then some false
  else none

def digit? (base : Nat) (c : Char) : Option Nat :=
  let value :=
    if '0' ≤ c ∧ c ≤ '9' then c.toNat - '0'.toNat
    else if 'a' ≤ c ∧ c ≤ 'f' then c.toNat - 'a'.toNat + 10
    else if 'A' ≤ c ∧ c ≤ 'F' then c.toNat - 'A'.toNat + 10
    else base
  if value < base then some value else none

def digits? (base : Nat) (text : List Char) : Option Nat :=
  -- There must be at least one.
  if text.isEmpty then none
  else text.foldlM (fun n c => (digit? base c).map (base * n + ·)) 0

/-- Whether the text, after a sign, is more than one digit with a leading zero. -/
def leadingZero (text : List Char) : Bool :=
  -- Such a text is no number.
  let text := match text with
    | '-' :: rest | '+' :: rest => rest
    | text => text
  text.length > 1 && text.head? == some '0' && text.all Char.isDigit

def base? : List Char → Option (Nat × List Char)
  | '0' :: 'x' :: rest => some (16, rest)
  | '0' :: 'o' :: rest => some (8, rest)
  | '0' :: 'b' :: rest => some (2, rest)
  | _ => none

def hasSign (text : List Char) : Bool :=
  text.head? == some '+' || text.head? == some '-'

def natural? (text : List Char) : Option Nat :=
  let unsigned := match text with
    | '+' :: rest => rest
    | text => text
  match (base? unsigned).bind fun (base, rest) => digits? base rest with
  | some n => some n
  | none => if hasSign unsigned || leadingZero text then none else digits? 10 unsigned

def negative? (text : List Char) : Option Nat :=
  match text with
  | '-' :: rest =>
    match (base? rest).bind fun (base, rest) => digits? base rest with
    | some n => some n
    | none => if leadingZero text then none else digits? 10 rest
  | _ => none

inductive Number where
  | unsigned (n : Nat)
  | signed (n : Nat)
  | wide (n : Int)

/-- The integer of a text, sorted by the number of bits that it takes. -/
def number? (text : List Char) : Option Number :=
  match natural? text, negative? text with
  | some n, _ =>
    if n < UInt64.size then some (.unsigned n) else if n < 1 <<< 128 then some (.wide n) else none
  | none, some n =>
    if n ≤ 1 <<< 63 then some (.signed n) else if n ≤ 1 <<< 127 then some (.wide (-(n : Int))) else none
  | none, none => none

def decimal? (text : List Char) : Option (List Char × List Char × Int) :=
  let whole := text.takeWhile Char.isDigit
  let rest := text.dropWhile Char.isDigit
  let (fraction, rest) := match rest with
    | '.' :: rest => (rest.takeWhile Char.isDigit, rest.dropWhile Char.isDigit)
    | rest => ([], rest)
  if whole.isEmpty && fraction.isEmpty then none
  else match rest with
    | [] => some (whole, fraction, 0)
    | c :: rest =>
      if c == 'e' || c == 'E' then
        match rest with
        | '-' :: rest => (digits? 10 rest).map fun n => (whole, fraction, -(n : Int))
        | '+' :: rest => (digits? 10 rest).map fun n => (whole, fraction, (n : Int))
        | rest => (digits? 10 rest).map fun n => (whole, fraction, (n : Int))
      else none

def nearest (whole fraction : List Char) (exponent : Int) : Float :=
  -- Powers of ten out of all range count as the nearest ones that are not.
  let n := (whole ++ fraction).foldl (fun n c => 10 * n + (c.toNat - '0'.toNat)) 0
  let exponent := exponent - fraction.length
  let bound : Int := 400 + (whole.length + fraction.length : Nat)
  let exponent := max (-bound) (min bound exponent)
  Float.ofScientific n (exponent < 0) exponent.natAbs

def float? (text : List Char) : Option Float :=
  let infinity : Float := 1.0 / 0.0
  let unsigned := match text with
    | '+' :: rest => rest
    | text => text
  if text.head? == some '+' && hasSign unsigned then none
  else if unsigned == ".inf".toList || unsigned == ".Inf".toList || unsigned == ".INF".toList then
    some infinity
  else if text == "-.inf".toList || text == "-.Inf".toList || text == "-.INF".toList then
    some (-infinity)
  else if text == ".nan".toList || text == ".NaN".toList || text == ".NAN".toList then
    some (0.0 / 0.0)
  else
    let (negative, magnitude) := match unsigned with
      | '-' :: rest => (true, rest)
      | rest => (false, rest)
    match decimal? magnitude with
    | some (whole, fraction, exponent) =>
      let x := nearest whole fraction exponent
      if x.isFinite then some (if negative then -x else x) else none
    | none => none

/-- What a text means, together with what a message calls it. An integer of more than 64 bits has no
value of its own. -/
inductive Meaning where
  | value (value : Value)
  | wide (n : Int)

def meaning (text : List Char) : Meaning :=
  if text.isEmpty || isNull text then .value .unit
  else match bool? text with
    | some b => .value (.bool b)
    | none =>
      match number? text with
      | some (.unsigned n) => .value (.unsigned n.toUInt64)
      | some (.signed n) => .value (.signed (Int64.ofInt (-(n : Int))))
      | some (.wide n) => .wide n
      | none =>
        match if leadingZero text then none else float? text with
        | some x => .value (.float x.toBits)
        | none => .value (.string (String.ofList text))

end Confinement.Yaml.Plain
