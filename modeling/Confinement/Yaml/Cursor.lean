/-! A position in a YAML text, and the classes of characters that its grammar speaks of. -/

set_option autoImplicit false

namespace Confinement.Yaml

def isAllowed (c : Char) : Bool :=
  let n := c.toNat
  n == 9 || n == 10 || n == 13 || (0x20 ≤ n && n ≤ 0x7e) || n == 0x85 ||
    (0xa0 ≤ n && n ≤ 0xfffd) || 0x10000 ≤ n

def isBreak (c : Char) : Bool :=
  c == '\n' || c == '\r' || c == '\u0085' || c == '\u2028' || c == '\u2029'

def isBlank (c : Char) : Bool :=
  c == ' ' || c == '\t'

def isWord (c : Char) : Bool :=
  c.isAlphanum || c == '_' || c == '-'

structure Cursor where
  rest : List Char
  index : Nat
  line : Nat
  column : Nat

namespace Cursor

def start (text : List Char) : Cursor :=
  ⟨text, 0, 0, 0⟩

def atEnd (cursor : Cursor) : Bool :=
  cursor.rest.isEmpty

def next? (cursor : Cursor) : Option Char :=
  cursor.rest.head?

def sees (cursor : Cursor) (c : Char) : Bool :=
  cursor.rest.head? == some c

def seesAny (cursor : Cursor) (p : Char → Bool) : Bool :=
  match cursor.rest with
  | [] => false
  | c :: _ => p c

/-- Whether some characters ahead there is white space or the end. -/
def gapAt (cursor : Cursor) (distance : Nat) : Bool :=
  match cursor.rest.drop distance with
  | [] => true
  | c :: _ => isBlank c || isBreak c

def atLineEnd (cursor : Cursor) : Bool :=
  match cursor.rest with
  | [] => true
  | c :: _ => isBreak c

def atDocumentMark (cursor : Cursor) : Bool :=
  cursor.column == 0 && cursor.gapAt 3 &&
    (cursor.rest.take 3 == ['-', '-', '-'] || cursor.rest.take 3 == ['.', '.', '.'])

def advance (cursor : Cursor) : Cursor :=
  match cursor.rest with
  | [] => cursor
  | c :: rest => ⟨rest, cursor.index + c.utf8Size, cursor.line, cursor.column + 1⟩

def advanceBy (cursor : Cursor) : Nat → Cursor
  | 0 => cursor
  | n + 1 => cursor.advance.advanceBy n

/-- Passes a line break and returns it as it counts in a text: the breaks of ASCII and the next-line
character all count as a line feed. -/
def takeBreak (cursor : Cursor) : List Char × Cursor :=
  match cursor.rest with
  | '\r' :: '\n' :: rest => (['\n'], ⟨rest, cursor.index + 2, cursor.line + 1, 0⟩)
  | c :: rest =>
    if isBreak c then
      (if c == '\u2028' || c == '\u2029' then [c] else ['\n'],
        ⟨rest, cursor.index + c.utf8Size, cursor.line + 1, 0⟩)
    else ([], cursor)
  | [] => ([], cursor)

def takeWhile (p : Char → Bool) (cursor : Cursor) : List Char × Cursor :=
  let taken := cursor.rest.takeWhile p
  (taken,
    { cursor with
      rest := cursor.rest.drop taken.length
      index := taken.foldl (fun index c => index + c.utf8Size) cursor.index
      column := cursor.column + taken.length })

def skipWhile (p : Char → Bool) (cursor : Cursor) : Cursor :=
  (cursor.takeWhile p).2

def skipComment (cursor : Cursor) : Cursor :=
  if cursor.sees '#' then cursor.skipWhile fun c => !isBreak c else cursor

end Cursor

end Confinement.Yaml
