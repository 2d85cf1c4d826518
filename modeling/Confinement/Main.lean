import Confinement.CommandLine.Session
import Confinement.Descriptor
import Std.Time

/-! The program: it looks at the files that a command line speaks of, runs it, and prints. -/

set_option autoImplicit false

namespace Confinement.CommandLine

def faultOf : IO.Error → FileFault
  | .alreadyExists _ code _ | .otherError code _ | .resourceBusy code _ | .resourceVanished code _
  | .unsupportedOperation code _ | .hardwareFault code _ | .unsatisfiedConstraints code _
  | .illegalOperation code _ | .protocolError code _ | .timeExpired code _
  | .interrupted _ code _ | .noFileOrDirectory _ code _ | .invalidArgument _ code _
  | .permissionDenied _ code _ | .resourceExhausted _ code _ | .inappropriateType _ code _
  | .noSuchThing _ code _ =>
    .system ⟨if code.toNat < 1 <<< 31 then code.toNat else UInt32.size - code.toNat⟩
  | .unexpectedEof => .other "unexpected end of file"
  | .userError _ => .notText

def attempt {α : Type} (path : String) (look : IO α) : IO (Except FileFault α) := do
  if path.toList.contains '\x00' then pure (.error .nulInName)
  else
    try
      pure (.ok (← look))
    catch failure => pure (.error (faultOf failure))

/-- The number that the next opened file will get: the first that no open file has. -/
def nextDescriptor : Nat → Nat → IO Nat
  | 0, number => pure number
  | fuel + 1, number => do
    match ← attempt "" (IO.FS.readFile s!"/proc/self/fdinfo/{number}") with
    | .ok _ => nextDescriptor fuel (number + 1)
    | .error _ => pure number

def identify (path : String) : IO FileIdentity := do
  let number ← nextDescriptor 1024 0
  let handle ← IO.FS.Handle.mk path .read
  let descriptor ← IO.FS.readFile s!"/proc/self/fdinfo/{number}"
  let mounts ← IO.FS.readFile "/proc/self/mountinfo"
  handle.flush
  match FileIdentity.ofKernel? descriptor mounts with
  | some identity => pure identity
  | none => throw (.otherError 5 "the kernel does not tell the inode of an open file")

/-- Whether the last part of a path is a symbolic link: its target then has another real path than
the directory of the link and the name of the link together. -/
def isLink (path : String) : IO Bool := do
  match (FileNode.parts path).getLast? with
  | none => pure false
  | some name =>
    if name = ['.'] ∨ name = ['.', '.'] then pure false
    else
      let kept := (path.toList.reverse.dropWhile (· == '/')).drop name.length
      let directory := if kept.isEmpty then "." else String.ofList kept.reverse
      let place := (← IO.FS.realPath directory).toString
      let expected := FileNode.parts place ++ [name]
      pure (FileNode.parts (← IO.FS.realPath path).toString != expected)

def identifyUnlinked (path : String) : IO FileIdentity := do
  -- A link itself cannot be opened.
  let identity ← identify path
  if ← isLink path then throw (.otherError 40 "the path names a symbolic link")
  else pure identity

structure Glimpse where
  path : String
  text : Except FileFault String
  followed : Except FileFault FileIdentity
  unlinked : Except FileFault FileIdentity

def glimpse (path : String) : IO Glimpse := do
  pure
    { path
      text := ← attempt path (IO.FS.readFile path)
      followed := ← attempt path (identify path)
      unlinked := ← attempt path (identifyUnlinked path) }

/-- The file system as far as it was looked at. -/
def filesOf (glimpses : List Glimpse) : Files where
  read path := (find path).elim (.error (.system .missing)) Glimpse.text
  identify path follow :=
    (find path).elim (.error (.system .missing)) (if follow then Glimpse.followed else Glimpse.unlinked)
where
  find (path : String) : Option Glimpse :=
    glimpses.find? fun glimpse => glimpse.path == path

/-- Looks at the files that a command line names, and at those that its trace names. -/
def lookAround (arguments : List String) : IO Files := do
  match Request.ofArguments arguments with
  | .run invocation =>
    let named ← invocation.paths.mapM glimpse
    let traced ← (invocation.tracedPaths (filesOf named)).mapM glimpse
    pure (filesOf (named ++ traced))
  | _ => pure (filesOf [])

def timeText : IO String := do
  let now ← Std.Time.Timestamp.now
  pure ((Std.Time.DateTime.ofTimestampWithZone now .UTC).format "uuuu-MM-dd'T'HH:mm:ss.SSS'Z'")

def run (arguments : List String) : IO UInt32 := do
  let files ← lookAround arguments
  let time ← timeText
  let session := Session.ofArguments files .direct time arguments
  for notice in session.notices do
    IO.eprintln (notice.render time)
  for line in session.output do
    IO.println line
  pure session.exit.toUInt32

end Confinement.CommandLine

def main (arguments : List String) : IO UInt32 :=
  Confinement.CommandLine.run arguments
