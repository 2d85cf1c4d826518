import Confinement.Yaml.Scalar
import Confinement.Yaml.Tag

/-! The marks, names and scalars that a YAML text is made of.

In block context the nesting is written by indentation, and the tokens that open and close a
collection stand where the indentation grows and shrinks. A scalar, alias or flow collection on one
line turns out to be a key only when a colon follows it; the tokens of the key are then put before
it.
-/

set_option autoImplicit false

namespace Confinement.Yaml

inductive Token where
  | version (major minor : List Char)
  | tagDirective (handle : List Char) (expansion : Tag)
  | documentStart
  | documentEnd
  | blockSequenceStart
  | blockMappingStart
  | blockEnd
  | flowSequenceStart
  | flowSequenceEnd
  | flowMappingStart
  | flowMappingEnd
  | blockEntry
  | flowEntry
  | key
  | value
  | alias (name : List Char)
  | anchor (name : List Char)
  | tag (handle : List Char) (suffix : Tag)
  | scalar (style : Style) (text : List Char)
  deriving DecidableEq, Repr

/-- A place where a key may have started. -/
structure KeyStart where
  number : Nat
  required : Bool
  index : Nat
  line : Nat
  column : Nat

/-- How far a text was read. -/
structure Scan where
  cursor : Cursor
  tokens : List Token
  indent : Int
  outerIndents : List Int
  key : Option KeyStart
  outerKeys : List (Option KeyStart)
  keyAllowed : Bool

namespace Scan

def start (text : List Char) : Scan :=
  ⟨.start text, [], -1, [], none, [], true⟩

def inFlow (scan : Scan) : Bool :=
  !scan.outerKeys.isEmpty

def emit (scan : Scan) (token : Token) : Scan :=
  { scan with tokens := token :: scan.tokens }

def insertAt (scan : Scan) (number : Nat) (token : Token) : Scan :=
  { scan with tokens := scan.tokens.insertIdx (scan.tokens.length - number) token }

def dropKey? (scan : Scan) : Option Scan :=
  -- One that was required is missed.
  match scan.key with
  | some key => if key.required then none else some { scan with key := none }
  | none => some scan

def noteKey? (scan : Scan) : Option Scan :=
  if scan.keyAllowed then
    (scan.dropKey?).map fun scan =>
      { scan with
        key := some
          { number := scan.tokens.length
            required := !scan.inFlow && scan.indent == scan.cursor.column
            index := scan.cursor.index
            line := scan.cursor.line
            column := scan.cursor.column } }
  else some scan

def indentTo (scan : Scan) (column number : Nat) (token : Token) : Scan :=
  -- The token goes after the first `number` tokens.
  if !scan.inFlow && scan.indent < column then
    { scan with indent := column, outerIndents := scan.indent :: scan.outerIndents }.insertAt
      number token
  else scan

/-- The tokens, the column and the outer columns after closing the collections that lie further in
than a column. -/
def closeBlocks (column : Int) : List Token → Int → List Int → List Token × Int × List Int
  | tokens, indent, [] => (tokens, indent, [])
  | tokens, indent, outer :: rest =>
    if column < indent then closeBlocks column (.blockEnd :: tokens) outer rest
    else (tokens, indent, outer :: rest)

def unindentTo (scan : Scan) (column : Int) : Scan :=
  if scan.inFlow then scan
  else
    let (tokens, indent, outerIndents) :=
      closeBlocks column scan.tokens scan.indent scan.outerIndents
    { scan with tokens, indent, outerIndents }

def skipGaps : Nat → Scan → Scan
  -- A byte order mark may start a line, but takes up a column of it.
  | 0, scan => scan
  | fuel + 1, scan =>
    let cursor := scan.cursor
    let cursor := if cursor.column == 0 && cursor.sees '\ufeff' then cursor.advance else cursor
    let tabs := scan.inFlow || !scan.keyAllowed
    let cursor := (cursor.skipWhile fun c => c == ' ' || (tabs && c == '\t')).skipComment
    if cursor.seesAny isBreak then
      skipGaps fuel { scan with
        cursor := cursor.takeBreak.2
        keyAllowed := scan.keyAllowed || !scan.inFlow }
    else { scan with cursor }

def mark (scan : Scan) (width : Nat) (token : Token) : Scan :=
  { scan with cursor := scan.cursor.advanceBy width }.emit token

def leaveDocument? (scan : Scan) : Option Scan :=
  ((scan.unindentTo (-1)).dropKey?).map fun scan => { scan with keyAllowed := false }

def versionNumber? (cursor : Cursor) : Option (List Char × Cursor) :=
  let (digits, cursor) := cursor.takeWhile Char.isDigit
  if digits.isEmpty || 9 < digits.length then none else some (digits, cursor)

def tag? (flow : Bool) (cursor : Cursor) : Option (Token × Cursor) := do
  let (token, cursor) ←
    if cursor.rest.drop 1 |>.head? |> (· == some '<') then do
      let (suffix, cursor) ← Tag.suffix? true [] (cursor.advanceBy 2)
      if cursor.sees '>' then some (Token.tag [] suffix, cursor.advance) else none
    else do
      let (handle, cursor) ← Tag.handle? false cursor
      if 2 ≤ handle.length && handle.getLast? == some '!' then do
        let (suffix, cursor) ← Tag.suffix? false [] cursor
        some (Token.tag handle suffix, cursor)
      else do
        let (suffix, cursor) ← Tag.suffix? false handle cursor
        if suffix.isEmpty then some (Token.tag [] Tag.bare, cursor)
        else some (Token.tag ['!'] suffix, cursor)
  if cursor.gapAt 0 || (flow && cursor.sees ',') then some (token, cursor) else none

def directive? (cursor : Cursor) : Option (Token × Cursor) := do
  let (name, cursor) := cursor.takeWhile isWord
  if !cursor.gapAt 0 then none
  else
    let cursor := cursor.skipWhile isBlank
    let (token, cursor) ←
      if name == "YAML".toList then do
        let (major, cursor) ← versionNumber? cursor
        if cursor.sees '.' then
          let (minor, cursor) ← versionNumber? cursor.advance
          some (Token.version major minor, cursor)
        else none
      else if name == "TAG".toList then do
        let (handle, cursor) ← Tag.handle? true cursor
        if cursor.seesAny isBlank then
          let (expansion, cursor) ← Tag.suffix? true [] (cursor.skipWhile isBlank)
          if cursor.gapAt 0 then some (Token.tagDirective handle expansion, cursor) else none
        else none
      else none
    let cursor := (cursor.skipWhile isBlank).skipComment
    if cursor.atLineEnd then some (token, cursor.takeBreak.2) else none

def name? (cursor : Cursor) : Option (List Char × Cursor) :=
  let (name, cursor) := cursor.takeWhile isWord
  if name.isEmpty then none
  else if cursor.gapAt 0 || cursor.seesAny fun c => "?:,]\x7d%@`".toList.contains c then
    some (name, cursor)
  else none

/-- A colon: either what came before it on the line was a key, or its key is empty or was marked. -/
def colon? (scan : Scan) : Option Scan :=
  let fresh := match scan.key with
    | some key => key.line == scan.cursor.line && scan.cursor.index ≤ key.index + 1024
    | none => false
  match scan.key, fresh with
  | some key, true =>
    let scan := (scan.insertAt key.number .key).indentTo key.column key.number .blockMappingStart
    some ({ scan with key := none, keyAllowed := false }.mark 1 .value)
  | some key, false => if key.required then none else plainColon { scan with key := none }
  | none, _ => plainColon scan
where
  plainColon (scan : Scan) : Option Scan :=
    if scan.inFlow then some ({ scan with keyAllowed := false }.mark 1 .value)
    else if scan.keyAllowed then
      some ({ scan.indentTo scan.cursor.column scan.tokens.length .blockMappingStart with
        keyAllowed := true }.mark 1 .value)
    else none

def blockMark? (scan : Scan) (opening sign : Token) : Option Scan := do
  let scan ←
    if scan.inFlow then some scan
    else if scan.keyAllowed then
      some (scan.indentTo scan.cursor.column scan.tokens.length opening)
    else none
  let scan ← scan.dropKey?
  some (({ scan with
    keyAllowed := sign == Token.blockEntry || !scan.inFlow }).mark 1 sign)

def openFlow? (scan : Scan) (token : Token) : Option Scan := do
  let scan ← scan.noteKey?
  some ({ scan with
    key := none
    outerKeys := scan.key :: scan.outerKeys
    keyAllowed := true }.mark 1 token)

def closeFlow? (scan : Scan) (token : Token) : Option Scan := do
  let scan ← scan.dropKey?
  let scan := match scan.outerKeys with
    | key :: rest => { scan with key, outerKeys := rest }
    | [] => scan
  some ({ scan with keyAllowed := false }.mark 1 token)

def node? (scan : Scan) (read : Cursor → Option (Token × Cursor)) : Option Scan := do
  let scan ← scan.noteKey?
  let (token, cursor) ← read scan.cursor
  some ({ scan with cursor, keyAllowed := false }.emit token)

def plainScalar? (scan : Scan) : Option Scan := do
  -- After a line break a key may start again.
  let scan ← scan.noteKey?
  let (text, broken, cursor) ← Scalar.plain? scan.inFlow (scan.indent + 1).toNat
    (scan.cursor.rest.length + 1) .none [] scan.cursor
  some ({ scan with cursor, keyAllowed := broken }.emit (.scalar .plain text))

def blockScalar? (scan : Scan) (literal : Bool) : Option Scan := do
  let scan ← scan.dropKey?
  let (text, cursor) ← Scalar.block? literal scan.indent scan.cursor.advance
  some ({ scan with cursor, keyAllowed := true }.emit
    (.scalar (if literal then .literal else .quoted) text))

def startsPlain (c : Char) : Bool :=
  !isBlank c && !isBreak c && !"-?:,[]\x7b\x7d#&*!|>'\"%@`".toList.contains c

def token? (scan : Scan) (c : Char) : Option Scan :=
  let cursor := scan.cursor
  let gapAfter := cursor.gapAt 1
  if cursor.column == 0 && c == '%' then do
    let scan ← scan.leaveDocument?
    let (token, cursor) ← directive? cursor.advance
    some ({ scan with cursor }.emit token)
  else if cursor.atDocumentMark then do
    let scan ← scan.leaveDocument?
    some (scan.mark 3 (if c == '-' then .documentStart else .documentEnd))
  else if c == '[' then scan.openFlow? .flowSequenceStart
  else if c == '{' then scan.openFlow? .flowMappingStart
  else if c == ']' then scan.closeFlow? .flowSequenceEnd
  else if c == '}' then scan.closeFlow? .flowMappingEnd
  else if c == ',' then do
    let scan ← scan.dropKey?
    some ({ scan with keyAllowed := true }.mark 1 .flowEntry)
  else if c == '-' && gapAfter then scan.blockMark? .blockSequenceStart .blockEntry
  else if c == '?' && (scan.inFlow || gapAfter) then scan.blockMark? .blockMappingStart .key
  else if c == ':' && (scan.inFlow || gapAfter) then scan.colon?
  else if c == '*' then
    scan.node? fun cursor => (name? cursor.advance).map fun (name, cursor) => (.alias name, cursor)
  else if c == '&' then
    scan.node? fun cursor => (name? cursor.advance).map fun (name, cursor) => (.anchor name, cursor)
  else if c == '!' then scan.node? (tag? scan.inFlow)
  else if c == '|' && !scan.inFlow then scan.blockScalar? true
  else if c == '>' && !scan.inFlow then scan.blockScalar? false
  else if c == '\'' || c == '"' then
    scan.node? fun cursor =>
      (Scalar.quoted? (c == '\'') (cursor.rest.length + 1) [] cursor.advance).map
        fun (text, cursor) => (.scalar .quoted text, cursor)
  else if startsPlain c || (c == '-' && !cursor.advance.seesAny isBlank) ||
      (!scan.inFlow && (c == '?' || c == ':') && !gapAfter) then
    scan.plainScalar?
  else none

def tokens? : Nat → Scan → Option (List Token)
  | 0, _ => none
  | fuel + 1, scan =>
    let scan := skipGaps (scan.cursor.rest.length + 1) scan
    let scan := scan.unindentTo scan.cursor.column
    match scan.cursor.next? with
    | none => (scan.leaveDocument?).map fun scan => scan.tokens.reverse
    | some c =>
      match scan.token? c with
      | some scan => tokens? fuel scan
      | none => none

end Scan

def Token.ofText? (text : String) : Option (List Token) :=
  let cs := text.toList
  if cs.all isAllowed then Scan.tokens? (cs.length + 2) (.start cs) else none

end Confinement.Yaml
