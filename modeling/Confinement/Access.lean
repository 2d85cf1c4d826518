import Confinement.Text.Blank

/-! Classes of file access, and their two written forms: the bits of a word, and letters. -/

set_option autoImplicit false

namespace Confinement

structure Access where
  exec : Bool
  write : Bool
  read : Bool
  append : Bool
  deriving DecidableEq, Repr

structure AccessFault where
  flag : Char
  text : String
  deriving DecidableEq, Repr

def AccessFault.message (fault : AccessFault) : String :=
  s!"invalid access flag '{fault.flag}' in '{fault.text}'"

namespace Access

def none : Access := ⟨false, false, false, false⟩

def onlyExec : Access := { none with exec := true }

def onlyWrite : Access := { none with write := true }

def onlyRead : Access := { none with read := true }

def onlyAppend : Access := { none with append := true }

instance : Inhabited Access := ⟨none⟩

def union (a b : Access) : Access :=
  ⟨a.exec || b.exec, a.write || b.write, a.read || b.read, a.append || b.append⟩

instance : Union Access := ⟨union⟩

def contains (a b : Access) : Bool :=
  (a.exec || !b.exec) && (a.write || !b.write) && (a.read || !b.read) && (a.append || !b.append)

def isEmpty (a : Access) : Bool :=
  a == none

/-- One bit for each class: execute, write, read and append, from the lowest. -/
def bits (a : Access) : UInt32 :=
  (if a.exec then 1 else 0) ||| (if a.write then 2 else 0) |||
    (if a.read then 4 else 0) ||| (if a.append then 8 else 0)

def ofBits (word : UInt32) : Access :=
  -- Other bits mean nothing.
  ⟨word &&& 1 != 0, word &&& 2 != 0, word &&& 4 != 0, word &&& 8 != 0⟩

def ofLetter? : Char → Option Access
  | 'r' => some onlyRead
  | 'w' => some onlyWrite
  | 'a' => some onlyAppend
  | 'x' => some onlyExec
  | _ => Option.none

/-- The classes of all the letters, or the first character that is none. -/
def ofLetters : List Char → Except Char Access
  | [] => .ok none
  | c :: rest =>
    match ofLetter? c with
    | some access => (ofLetters rest).map (access ∪ ·)
    | Option.none => .error c

def parse (text : String) : Except AccessFault Access :=
  -- White space around them does not count.
  (ofLetters (Text.strip text.toList)).mapError fun c => ⟨c, text⟩

/-- The letters of the set, always in the order `rwax`. -/
def letters (a : Access) : List Char :=
  (if a.read then ['r'] else []) ++ (if a.write then ['w'] else []) ++
    (if a.append then ['a'] else []) ++ (if a.exec then ['x'] else [])

def render (a : Access) : String :=
  String.ofList a.letters

end Access

end Confinement
