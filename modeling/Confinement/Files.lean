import Confinement.Error
import Confinement.Profile

/-! What the engine asks of the file system: the text of a file, and the identity of an executable. -/

set_option autoImplicit false

namespace Confinement

structure FileIdentity where
  device : UInt64
  inode : UInt64
  deriving DecidableEq, Repr

/-- A view of the file system that does not change. -/
structure Files where
  read : String → Except FileFault String
  identify : String → Bool → Except FileFault FileIdentity

namespace Files

def executable (files : Files) (path : String) (follow : Bool) : Except Error Executable :=
  -- A device number of more than 32 bits has no place in a profile key.
  match files.identify path follow with
  | .error fault => .error (.policy (.unidentified path fault))
  | .ok identity =>
    if identity.device.toNat < UInt32.size then .ok ⟨identity.device.toUInt32, identity.inode⟩
    else .error (.policy (.wideDevice identity.device path))

end Files

inductive FileNode where
  | directory
  | file (text : String)
  deriving DecidableEq, Repr

namespace FileNode

def parts (path : String) : List (List Char) :=
  (split path.toList).filter fun part => part ≠ []
where
  split : List Char → List (List Char)
    | [] => [[]]
    | '/' :: rest => [] :: split rest
    | c :: rest =>
      match split rest with
      | [] => [[c]]
      | part :: more => (c :: part) :: more

/-- What stands at a listed place, the root being a directory. -/
def atPlace? (listed : List (List (List Char) × FileNode)) (place : List (List Char)) :
    Option FileNode :=
  if place = [] then some .directory
  else (listed.find? fun entry => entry.1 = place).map (·.2)

def walk (listed : List (List (List Char) × FileNode)) :
    List (List Char) → List (List Char) → Except FileFault (List (List Char) × FileNode)
  -- Every part but the last must be a directory.
  | place, [] =>
    match atPlace? listed place with
    | some node => .ok (place, node)
    | none => .error (.system .missing)
  | place, part :: rest =>
    match atPlace? listed place with
    | some .directory =>
      if part = ['.'] then walk listed place rest
      else if part = ['.', '.'] then walk listed place.dropLast rest
      else if (String.ofList part).utf8ByteSize > 255 then .error (.system .longName)
      else walk listed (place ++ [part]) rest
    | some (.file _) => .error (.system .notDirectory)
    | none => .error (.system .missing)

def resolve (listed : List (List (List Char) × FileNode)) (here : List (List Char))
    (path : String) : Except FileFault (List (List Char) × FileNode) := do
  -- A path that ends in a slash names a directory.
  let letters := path.toList
  if letters.contains '\x00' then throw .nulInName
  if letters = [] then throw (.system .missing)
  if path.utf8ByteSize > 4095 then throw (.system .longName)
  let start := if letters.head? = some '/' then [] else here
  let (place, node) ← walk listed start (parts path)
  match node with
  | .file _ => if letters.getLast? = some '/' then throw (.system .notDirectory)
  | .directory => pure ()
  pure (place, node)

end FileNode

/-- The file system that holds just the listed directories and files. -/
def Files.ofListing (listed : List (List (List Char) × FileNode)) (here : List (List Char)) :
    Files where
  -- Each file has its place in the list as its inode number.
  read path := do
    match ← FileNode.resolve listed here path with
    | (_, .file text) => pure text
    | (_, .directory) => throw (.system .isDirectory)
  identify path _ := do
    let (place, _) ← FileNode.resolve listed here path
    pure ⟨1, (listed.findIdx fun entry => entry.1 = place).toUInt64 + 1⟩

end Confinement
