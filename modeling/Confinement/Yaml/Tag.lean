import Confinement.Text.Numeral
import Confinement.Yaml.Cursor

/-! The tags of nodes.

A tag is a string of bytes. Signs of percent write its bytes one by one, so they need not make up a
text. Each part of a tag that is written in one piece ends before its first zero byte.
-/

set_option autoImplicit false

namespace Confinement.Yaml

abbrev Tag := List UInt8

namespace Tag

def ofChars (letters : List Char) : Tag :=
  letters.flatMap String.utf8EncodeChar

def ownMark : UInt8 := 0x21

def bare : Tag := [ownMark]

def standard (name : String) : Tag :=
  ofChars ("tag:yaml.org,2002:" ++ name).toList

def isOwn (tag : Tag) : Bool :=
  tag.head? == some ownMark

def ownName? (tag : Tag) : Option String :=
  -- The mark alone is its own name.
  let name := if tag == bare then tag else tag.drop 1
  if tag.isOwn then String.fromUTF8? ⟨name.toArray⟩ else none

def cut (tag : Tag) : Tag :=
  tag.takeWhile (· != 0)

def isLetter (verbatim : Bool) (c : Char) : Bool :=
  -- Some stand only in a tag between angle brackets.
  isWord c || ";/?:@&=+$.!~*'()%".toList.contains c || (verbatim && [',', '[', ']'].contains c)

/-- The byte that a sign of percent and two digits in base sixteen write, after `count` bytes that
are written so. -/
def escapedByte? (cursor : Cursor) (count : Nat) : Option UInt8 :=
  match cursor.rest.drop (3 * count) with
  | '%' :: high :: low :: _ => (Text.hexNumber? [high, low]).map Nat.toUInt8
  | _ => none

/-- How many bytes encode a character whose first byte is this one. -/
def encodedWidth? (first : UInt8) : Option Nat :=
  if first < 0x80 then some 1
  else if first < 0xc0 then none
  else if first < 0xe0 then some 2
  else if first < 0xf0 then some 3
  else if first < 0xf8 then some 4
  else none

def escaped? (cursor : Cursor) : Option (Tag × Cursor) := do
  -- Only the shape of an encoding is asked for: the bytes may be more than the character needs, or
  -- encode none.
  let first ← escapedByte? cursor 0
  let width ← encodedWidth? first
  let followers ← (List.range (width - 1)).mapM fun n => do
    let byte ← escapedByte? cursor (n + 1)
    if 0x80 ≤ byte && byte < 0xc0 then some byte else none
  some (first :: followers, cursor.advanceBy (3 * width))

def bytes? (verbatim : Bool) : Nat → Cursor → Option (Tag × Cursor)
  -- There are at most `fuel` characters.
  | 0, cursor => some ([], cursor)
  | fuel + 1, cursor =>
    match cursor.next? with
    | none => some ([], cursor)
    | some c =>
      if !isLetter verbatim c then some ([], cursor)
      else do
        let (bytes, after) ←
          if c == '%' then escaped? cursor else some (ofChars [c], cursor.advance)
        let (rest, after) ← bytes? verbatim fuel after
        some (bytes ++ rest, after)

def suffix? (verbatim : Bool) (head : List Char) (cursor : Cursor) : Option (Tag × Cursor) := do
  let (read, after) ← bytes? verbatim cursor.rest.length cursor
  if head.isEmpty && read.isEmpty then none
  else some (cut (ofChars (head.drop 1) ++ read), after)

def handle? (directive : Bool) (cursor : Cursor) : Option (List Char × Cursor) :=
  if !cursor.sees '!' then none
  else
    let (word, cursor) := cursor.advance.takeWhile isWord
    if cursor.sees '!' then some ('!' :: (word ++ ['!']), cursor.advance)
    else if directive && !word.isEmpty then none
    else some ('!' :: word, cursor)

end Tag

end Confinement.Yaml
