import Confinement.Engine.Basic

/-! Recorded traces: profiles to load, and what then happens step by step. -/

set_option autoImplicit false

namespace Confinement

/-- A profile to load. Just one of the key, the two numbers of the executable, or its path tells
which one. -/
structure TraceProfile where
  key : Option ProfileKey
  device : Option UInt32
  inode : Option UInt64
  path : Option String
  index : UInt32
  routine : RoutineSpec
  deriving DecidableEq, Repr

namespace TraceProfile

def resolveKey (profile : TraceProfile) (files : Files) : Except Error ProfileKey :=
  match profile.key, profile.device, profile.inode, profile.path with
  | some key, none, none, none => .ok key
  | none, some device, some inode, none => .ok (Executable.mk device inode).profileKey
  | none, none, none, some path => (files.executable path true).map Executable.profileKey
  | _, _, _, _ => .error (.trace (.ambiguousIdentity profile.index))

end TraceProfile

/-- An open call, from entry to exit. -/
structure OpenCall where
  tid : UInt32
  tgid : Option UInt32
  flags : Int32
  mode : UInt16
  deriving DecidableEq, Repr

namespace OpenCall

def task (call : OpenCall) : Task :=
  -- Without a group of its own it is a process of one thread.
  ⟨call.tid, call.tgid.getD call.tid⟩

def openFlags (call : OpenCall) : OpenFlags :=
  .forOpen call.flags call.mode

end OpenCall

inductive TraceStep where
  | kernel (event : KernelEvent)
  | openCall (call : OpenCall)
  | setMode (mode : Mode)
  deriving DecidableEq, Repr

structure Trace where
  profiles : List TraceProfile
  steps : List TraceStep
  deriving DecidableEq, Repr

def Trace.empty : Trace := ⟨[], []⟩

end Confinement
