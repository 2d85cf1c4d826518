import Confinement.Document.Value
import Confinement.Text.Numeral

/-! Reading JSON text.

Numbers without fraction and exponent are integers if they fit 64 bits, and floating-point numbers
otherwise. Of entries with one key the last counts, and the entries come in the order of their keys.
-/

set_option autoImplicit false

namespace Confinement.Json

open Document (Value)

def skipBlanks : List Char → List Char
  | [] => []
  | c :: rest => if c = ' ' ∨ c = '\n' ∨ c = '\t' ∨ c = '\r' then skipBlanks rest else c :: rest

def escapeUnit? : List Char → Option (Nat × List Char)
  | a :: b :: c :: d :: rest => (Text.hexNumber? [a, b, c, d]).map (·, rest)
  | _ => none

/-- Reads the character after `\u`, which may take a pair of escapes. -/
def unicodeEscape? (cs : List Char) : Option (Char × List Char) := do
  let (unit, rest) ← escapeUnit? cs
  if 0xd800 ≤ unit && unit < 0xdc00 then
    match rest with
    | '\\' :: 'u' :: rest =>
      let (low, rest) ← escapeUnit? rest
      if 0xdc00 ≤ low && low < 0xe000 then
        some (Char.ofNat (0x10000 + (unit - 0xd800) * 0x400 + (low - 0xdc00)), rest)
      else none
    | _ => none
  else if 0xdc00 ≤ unit && unit < 0xe000 then none
  else some (Char.ofNat unit, rest)

def text? : Nat → List Char → List Char → Option (String × List Char)
  | 0, _, _ => none
  | _, _, [] => none
  | fuel + 1, read, c :: rest =>
    if c = '"' then some (String.ofList read.reverse, rest)
    else if c = '\\' then
      match rest with
      | '"' :: rest => text? fuel ('"' :: read) rest
      | '\\' :: rest => text? fuel ('\\' :: read) rest
      | '/' :: rest => text? fuel ('/' :: read) rest
      | 'b' :: rest => text? fuel ('\x08' :: read) rest
      | 'f' :: rest => text? fuel ('\x0c' :: read) rest
      | 'n' :: rest => text? fuel ('\n' :: read) rest
      | 'r' :: rest => text? fuel ('\r' :: read) rest
      | 't' :: rest => text? fuel ('\t' :: read) rest
      | 'u' :: rest =>
        match unicodeEscape? rest with
        | some (c, rest) => text? fuel (c :: read) rest
        | none => none
      | _ => none
    else if c.toNat < 0x20 then none
    else text? fuel (c :: read) rest

def digits (cs : List Char) : List Char × List Char :=
  (cs.takeWhile Char.isDigit, cs.dropWhile Char.isDigit)

def number (digits : List Char) : Nat :=
  digits.foldl (fun n c => 10 * n + (c.toNat - '0'.toNat)) 0

/-- The leading digits that fit 64 bits, as a number, and how many digits were left over. -/
def leading : List Char → Nat → Nat × Nat
  | [], n => (n, 0)
  | c :: rest, n =>
    let next := 10 * n + (c.toNat - '0'.toNat)
    if next < UInt64.size then leading rest next else (n, rest.length + 1)

def power (exponent : Nat) : Float :=
  Float.ofScientific 1 false exponent

/-- A number times a power of ten, in steps that a floating-point number can take. -/
def scale : Nat → Float → Int → Float
  | 0, x, _ => x
  | fuel + 1, x, exponent =>
    if exponent.natAbs ≤ 308 then
      if 0 ≤ exponent then x * power exponent.natAbs else x / power exponent.natAbs
    else if x == 0 then x
    else if 0 ≤ exponent then x * power 308 * power 308
    else scale fuel (x / power 308) (exponent + 308)

def floatOf (negative : Bool) (whole fraction : List Char) (exponent : Int) : Value :=
  let (start, dropped) := leading whole 0
  let (significand, shift) : Nat × Int :=
    if dropped > 0 then (start, dropped)
    else
      let (joined, left) := leading fraction start
      (joined, -((fraction.length - left : Nat) : Int))
  let magnitude := scale 8 significand.toUInt64.toFloat (exponent + shift)
  .float (if negative then (-magnitude).toBits else magnitude.toBits)

def integerOf (negative : Bool) (whole : List Char) : Value :=
  let n := number whole
  if negative then
    if 0 < n ∧ n ≤ 1 <<< 63 then .signed (Int64.ofInt (-(n : Int))) else floatOf true whole [] 0
  else if n < UInt64.size then .unsigned n.toUInt64
  else floatOf false whole [] 0

def exponent? : List Char → Option (Option Int × List Char)
  | [] => some (none, [])
  | c :: rest =>
    if c = 'e' ∨ c = 'E' then
      let (negative, rest) := match rest with
        | '-' :: rest => (true, rest)
        | '+' :: rest => (false, rest)
        | rest => (false, rest)
      let (ds, rest) := digits rest
      if ds.isEmpty then none
      else some (some (if negative then -(number ds : Int) else number ds), rest)
    else some (none, c :: rest)

def number? (cs : List Char) : Option (Value × List Char) := do
  let (negative, cs) := match cs with
    | '-' :: rest => (true, rest)
    | cs => (false, cs)
  let (whole, rest) := digits cs
  if whole.isEmpty || (whole.length > 1 && whole.head? == some '0') then none
  else
    let (fraction, rest) ← match rest with
      | '.' :: rest =>
        let (ds, rest) := digits rest
        if ds.isEmpty then none else some (some ds, rest)
      | rest => some (none, rest)
    let (exponent, rest) ← exponent? rest
    match fraction, exponent with
    | none, none => some (integerOf negative whole, rest)
    | _, _ => some (floatOf negative whole (fraction.getD []) (exponent.getD 0), rest)

def insertEntry (key : String) (value : Value) :
    List (String × Value) → List (String × Value)
  | [] => [(key, value)]
  | (k, v) :: rest =>
    if key < k then (key, value) :: (k, v) :: rest
    else if key = k then (key, value) :: rest
    else (k, v) :: insertEntry key value rest

mutual

def value? : Nat → List Char → Option (Value × List Char)
  | 0, _ => none
  | fuel + 1, cs =>
    match skipBlanks cs with
    | 'n' :: 'u' :: 'l' :: 'l' :: rest => some (.unit, rest)
    | 't' :: 'r' :: 'u' :: 'e' :: rest => some (.bool true, rest)
    | 'f' :: 'a' :: 'l' :: 's' :: 'e' :: rest => some (.bool false, rest)
    | '"' :: rest => (text? (rest.length + 1) [] rest).map fun (text, rest) => (.string text, rest)
    | '[' :: rest =>
      match skipBlanks rest with
      | ']' :: rest => some (.sequence [], rest)
      | rest => items? fuel rest []
    | '{' :: rest =>
      match skipBlanks rest with
      | '}' :: rest => some (.map [], rest)
      | rest => entries? fuel rest []
    | rest => number? rest

def items? : Nat → List Char → List Value → Option (Value × List Char)
  -- Those already read are in reverse.
  | 0, _, _ => none
  | fuel + 1, cs, read => do
    let (item, rest) ← value? fuel cs
    match skipBlanks rest with
    | ',' :: rest => items? fuel rest (item :: read)
    | ']' :: rest => some (.sequence (item :: read).reverse, rest)
    | _ => none

def entries? : Nat → List Char → List (String × Value) → Option (Value × List Char)
  | 0, _, _ => none
  | fuel + 1, cs, read =>
    match skipBlanks cs with
    | '"' :: rest => do
      let (key, rest) ← text? (rest.length + 1) [] rest
      match skipBlanks rest with
      | ':' :: rest =>
        let (value, rest) ← value? fuel rest
        let read := insertEntry key value read
        match skipBlanks rest with
        | ',' :: rest => entries? fuel rest read
        | '}' :: rest => some (.object read, rest)
        | _ => none
      | _ => none
    | _ => none

end

def parse? (text : String) : Option Value := do
  let cs := text.toList
  let (value, rest) ← value? (cs.length + 1) cs
  if (skipBlanks rest).isEmpty then some value else none

end Confinement.Json
