import Confinement.Text.Numeral
import Confinement.Yaml.Cursor

/-! Scalars: the pieces of a YAML text that hold its data.

A scalar may run over several lines. Single line breaks inside it are then folded into spaces,
unless the scalar is a literal block.
-/

set_option autoImplicit false

namespace Confinement.Yaml

inductive Style where
  | plain
  | literal
  | quoted
  deriving DecidableEq, Repr

/-- White space inside a scalar: the blanks of a line, or the first line break and the others. -/
structure Gap where
  blanks : List Char
  firstBreak : List Char
  otherBreaks : List Char
  broken : Bool

namespace Gap

def none : Gap := ⟨[], [], [], false⟩

def isEmpty (gap : Gap) : Bool :=
  !gap.broken && gap.blanks.isEmpty

/-- What the white space counts for between two pieces of text. -/
def fold (gap : Gap) : List Char :=
  if gap.broken then
    if gap.firstBreak.head? == some '\n' then
      if gap.otherBreaks.isEmpty then [' '] else gap.otherBreaks
    else gap.firstBreak ++ gap.otherBreaks
  else gap.blanks

def take? (tabLimit : Nat) : Nat → Gap → Cursor → Option (Gap × Cursor)
  -- Where a tab before a column is an indentation, it is refused.
  | 0, gap, cursor => some (gap, cursor)
  | fuel + 1, gap, cursor =>
    match cursor.next? with
    | .none => some (gap, cursor)
    | some c =>
      if isBlank c then
        if gap.broken then
          if c == '\t' && cursor.column < tabLimit then Option.none
          else take? tabLimit fuel gap cursor.advance
        else take? tabLimit fuel { gap with blanks := gap.blanks ++ [c] } cursor.advance
      else if isBreak c then
        let (text, cursor) := cursor.takeBreak
        if gap.broken then
          take? tabLimit fuel { gap with otherBreaks := gap.otherBreaks ++ text } cursor
        else take? tabLimit fuel { gap with blanks := [], firstBreak := text, broken := true } cursor
      else some (gap, cursor)

end Gap

namespace Scalar

def plainLine? (flow : Bool) :
    Nat → Gap → List Char → Cursor → Option (Gap × List Char × Cursor)
  -- What was read is in reverse. The white space before counts only if something follows it.
  | 0, gap, read, cursor => some (gap, read, cursor)
  | fuel + 1, gap, read, cursor =>
    match cursor.rest with
    | [] => some (gap, read, cursor)
    | c :: rest =>
      if isBlank c || isBreak c then some (gap, read, cursor)
      else if flow && c == ':' && [',', '?', '[', ']', '{', '}'].any (rest.head? == some ·) then
        Option.none
      else if (c == ':' && cursor.gapAt 1) || (flow && [',', '[', ']', '{', '}'].contains c) then
        some (gap, read, cursor)
      else plainLine? flow fuel .none (c :: (gap.fold.reverse ++ read)) cursor.advance

def plain? (flow : Bool) (indent : Nat) :
    Nat → Gap → List Char → Cursor → Option (List Char × Bool × Cursor)
  -- The last answer tells whether it ended in a line break.
  | 0, _, _, _ => Option.none
  | fuel + 1, gap, read, cursor =>
    if cursor.atDocumentMark || cursor.sees '#' then some (read.reverse, gap.broken, cursor)
    else
      match plainLine? flow (cursor.rest.length + 1) gap read cursor with
      | .none => Option.none
      | some (gap, read, cursor) =>
        if cursor.seesAny fun c => isBlank c || isBreak c then
          match Gap.take? indent (cursor.rest.length + 1) gap cursor with
          | .none => Option.none
          | some (gap, cursor) =>
            if !flow && cursor.column < indent then some (read.reverse, gap.broken, cursor)
            else plain? flow indent fuel gap read cursor
        else some (read.reverse, gap.broken, cursor)

def escaped? : Char → Option Char
  | '0' => some '\x00'
  | 'a' => some '\x07'
  | 'b' => some '\x08'
  | 't' | '\t' => some '\t'
  | 'n' => some '\n'
  | 'v' => some '\x0b'
  | 'f' => some '\x0c'
  | 'r' => some '\r'
  | 'e' => some '\x1b'
  | ' ' => some ' '
  | '"' => some '"'
  | '/' => some '/'
  | '\\' => some '\\'
  | 'N' => some '\u0085'
  | '_' => some '\u00a0'
  | 'L' => some '\u2028'
  | 'P' => some '\u2029'
  | _ => none

def escapeWidth? : Char → Option Nat
  | 'x' => some 2
  | 'u' => some 4
  | 'U' => some 8
  | _ => none

def escape? (cursor : Cursor) : Option (Char × Cursor) :=
  match cursor.next? with
  | none => none
  | some c =>
    match escaped? c, escapeWidth? c with
    | some plain, _ => some (plain, cursor.advance)
    | none, some width =>
      let digits := cursor.rest.drop 1 |>.take width
      if digits.length < width then none
      else match Text.hexNumber? digits with
        | some n =>
          if (0xd800 ≤ n && n < 0xe000) || 0x10ffff < n then none
          else some (Char.ofNat n, cursor.advanceBy (width + 1))
        | none => none
    | none, none => none

def quotedPiece? (single : Bool) :
    Nat → List Char → Cursor → Option (Bool × List Char × Cursor)
  -- The first answer tells whether an escaped line break ended it.
  | 0, _, _ => none
  | fuel + 1, read, cursor =>
    match cursor.rest with
    | [] => some (false, read, cursor)
    | c :: rest =>
      if isBlank c || isBreak c then some (false, read, cursor)
      else if single then
        if c == '\'' then
          if rest.head? == some '\'' then
            quotedPiece? single fuel ('\'' :: read) (cursor.advanceBy 2)
          else some (false, read, cursor)
        else quotedPiece? single fuel (c :: read) cursor.advance
      else if c == '"' then some (false, read, cursor)
      else if c == '\\' then
        if cursor.advance.seesAny isBreak then
          some (true, read, cursor.advance.takeBreak.2)
        else match escape? cursor.advance with
          | some (c, cursor) => quotedPiece? single fuel (c :: read) cursor
          | none => none
      else quotedPiece? single fuel (c :: read) cursor.advance

def quoted? (single : Bool) : Nat → List Char → Cursor → Option (List Char × Cursor)
  | 0, _, _ => none
  | fuel + 1, read, cursor =>
    if cursor.atDocumentMark || cursor.atEnd then none
    else match quotedPiece? single (cursor.rest.length + 1) read cursor with
      | none => none
      | some (broken, read, cursor) =>
        if !broken && cursor.sees (if single then '\'' else '"') then
          some (read.reverse, cursor.advance)
        else match Gap.take? 0 (cursor.rest.length + 1) { Gap.none with broken } cursor with
          | none => none
          | some (gap, cursor) => quoted? single fuel (gap.fold.reverse ++ read) cursor

inductive Chomping where
  | strip
  | clip
  | keep

def blockHeader? (cursor : Cursor) : Option (Chomping × Nat × Cursor) :=
  let chomping (cursor : Cursor) : Chomping × Cursor :=
    if cursor.sees '+' then (.keep, cursor.advance)
    else if cursor.sees '-' then (.strip, cursor.advance)
    else (.clip, cursor)
  let indentation (cursor : Cursor) : Option (Nat × Cursor) :=
    match cursor.next? with
    | some c =>
      if c == '0' then none
      else if c.isDigit then some (c.toNat - '0'.toNat, cursor.advance)
      else some (0, cursor)
    | none => some (0, cursor)
  if cursor.sees '+' || cursor.sees '-' then
    let (chomp, cursor) := chomping cursor
    (indentation cursor).map fun (indent, cursor) => (chomp, indent, cursor)
  else
    match indentation cursor with
    | none => none
    | some (0, cursor) => some (.clip, 0, cursor)
    | some (indent, cursor) =>
      let (chomp, cursor) := chomping cursor
      some (chomp, indent, cursor)

def blockBreaks? (indent : Nat) :
    Nat → Nat → List Char → Cursor → Option (Nat × List Char × Cursor)
  -- An indentation of zero is not known yet; the widest one met is answered too.
  | 0, widest, breaks, cursor => some (widest, breaks, cursor)
  | fuel + 1, widest, breaks, cursor =>
    let room := if indent = 0 then cursor.rest.length else indent - cursor.column
    let spaces := (cursor.rest.take room).takeWhile (· == ' ')
    let cursor := cursor.advanceBy spaces.length
    let widest := max widest cursor.column
    if (indent = 0 || cursor.column < indent) && cursor.sees '\t' then none
    else if cursor.seesAny isBreak then
      let (text, cursor) := cursor.takeBreak
      blockBreaks? indent fuel widest (breaks ++ text) cursor
    else some (widest, breaks, cursor)

def blockLines? (literal : Bool) (indent : Nat) :
    Nat → Bool → List Char → List Char → List Char → Cursor →
      Option (List Char × List Char × List Char × Cursor)
  -- `first` is the break before the current line and `others` those of empty lines before it. What
  -- was read is in reverse.
  | 0, _, _, _, _, _ => none
  | fuel + 1, blankBefore, first, others, read, cursor =>
    if cursor.column == indent && !cursor.atEnd then
      let blank := cursor.seesAny isBlank
      let joint :=
        if !literal && first.head? == some '\n' && !blankBefore && !blank then
          (if others.isEmpty then [' '] else []) ++ others
        else first ++ others
      let (line, cursor) := cursor.takeWhile fun c => !isBreak c
      let (first, cursor) := cursor.takeBreak
      match blockBreaks? indent (cursor.rest.length + 1) 0 [] cursor with
      | none => none
      | some (_, others, cursor) =>
        blockLines? literal indent fuel blank first others
          (line.reverse ++ (joint.reverse ++ read)) cursor
    else some (read, first, others, cursor)

def block? (literal : Bool) (parentIndent : Int) (cursor : Cursor) :
    Option (List Char × Cursor) := do
  let (chomping, increment, cursor) ← blockHeader? cursor
  let cursor := (cursor.skipWhile isBlank).skipComment
  if !cursor.atLineEnd then none
  else
    let cursor := cursor.takeBreak.2
    let given := if increment = 0 then 0 else (max parentIndent 0).toNat + increment
    let (widest, breaks, cursor) ← blockBreaks? given (cursor.rest.length + 1) 0 [] cursor
    let indent := if given = 0 then max widest (max (parentIndent + 1).toNat 1) else given
    let (read, first, others, cursor) ←
      blockLines? literal indent (cursor.rest.length + 1) false [] breaks [] cursor
    let tail := match chomping with
      | .strip => []
      | .clip => first
      | .keep => first ++ others
    some (read.reverse ++ tail, cursor)

end Scalar

end Confinement.Yaml
