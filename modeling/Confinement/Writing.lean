import Confinement.Document.Value
import Confinement.Engine.Outline
import Confinement.Trace.Basic

/-! The values of the library as they are written into documents. -/

set_option autoImplicit false

namespace Confinement

open Document (Value)

namespace Document.Value

def ofU16 (n : UInt16) : Value := .unsigned n.toUInt64

def ofU32 (n : UInt32) : Value := .unsigned n.toUInt64

/-- Small numbers have one written form, with a sign only if they are negative. -/
def ofInt64 (n : Int64) : Value :=
  if n < 0 then .signed n else .unsigned n.toUInt64

def ofI32 (n : Int32) : Value := ofInt64 n.toInt64

/-- A number of things; it is assumed to fit 64 bits. -/
def ofSize (n : Nat) : Value := .unsigned n.toUInt64

end Document.Value

def Mode.toDocument (mode : Mode) : Value := .string mode.name

def SlotMode.toDocument (mode : SlotMode) : Value := .string mode.name

def Channel.toDocument (channel : Channel) : Value := .string channel.name

def ProfileKey.toDocument (key : ProfileKey) : Value := .unsigned key.raw

def Access.toDocument (access : Access) : Value := .string access.render

def Executable.toDocument (executable : Executable) : Value :=
  .object [("device", .ofU32 executable.device), ("inode", .unsigned executable.inode)]

def Task.toDocument (task : Task) : Value :=
  .object [("tid", .ofU32 task.tid), ("tgid", .ofU32 task.tgid)]

def ProcessState.toDocument (process : ProcessState) : Value :=
  .object
    [("pid", .ofU32 process.pid), ("tgid", .ofU32 process.tgid), ("tid", .ofU32 process.tid),
      ("profile_key", process.profileKey.toDocument), ("tainted", .bool process.tainted)]

def Profile.toDocument (profile : Profile) : Value :=
  .object [("profile_key", profile.key.toDocument), ("tail_call_index", .ofU32 profile.index)]

def Event.toDocument (event : Event) : Value :=
  .object
    [("pid", .ofU32 event.pid), ("tid", .ofU32 event.tid),
      ("profile_key", event.profileKey.toDocument)]

def OpenFlags.toDocument (flags : OpenFlags) : Value :=
  .object
    [("open_flag", .ofI32 flags.openFlag), ("mode", .ofU16 flags.mode),
      ("acc_mode", .ofI32 flags.accMode), ("intent", .ofI32 flags.intent),
      ("lookup_flags", .ofI32 flags.lookupFlags)]

def Config.toDocument (config : Config) : Value :=
  .object
    [("max_processes", .ofSize config.maxProcesses), ("max_profiles", .ofSize config.maxProfiles),
      ("table_shards", .ofSize config.tableShards), ("mode", config.mode.toDocument),
      ("open_args_slot", config.openArgsSlot.toDocument),
      ("channel_capacity", .ofSize config.channelCapacity)]

def Stats.toDocument (stats : Stats) : Value :=
  .object
    [("processes", .ofSize stats.processes), ("profiles", .ofSize stats.profiles),
      ("routines", .ofSize stats.routines),
      ("process_evictions", .unsigned stats.processEvictions),
      ("profile_evictions", .unsigned stats.profileEvictions),
      ("denials", .unsigned stats.denials),
      ("dropped_enforcement", .unsigned stats.droppedEnforcement),
      ("dropped_would_have_enforced", .unsigned stats.droppedWouldHaveEnforced)]

def Verdict.toDocument : Verdict → Value
  | allowed => .string "allowed"
  | denied mode => .object [("denied", mode.toDocument)]

def OpenOutcome.toDocument : OpenOutcome → Value
  | passThrough => .object [("outcome", .string "pass_through")]
  | unconfined => .object [("outcome", .string "unconfined")]
  | profileMissing key =>
    .object [("outcome", .string "profile_missing"), ("profile_key", key.toDocument)]
  | routineMissing index =>
    .object [("outcome", .string "routine_missing"), ("index", .ofU32 index)]
  | dispatched index verdict =>
    .object
      [("outcome", .string "dispatched"), ("index", .ofU32 index),
        ("verdict", verdict.toDocument)]

def AccessPolicy.fieldsToDocument (policy : AccessPolicy) : List (String × Value) :=
  [("allow", policy.allow.toDocument), ("taint", policy.taint.toDocument),
    ("audit", policy.audit.toDocument)]

def AccessPolicy.toDocument (policy : AccessPolicy) : Value :=
  .object policy.fieldsToDocument

def RoutineSpec.toDocument : RoutineSpec → Value
  | allowAll => .object [("kind", .string "allow_all")]
  | denyAll => .object [("kind", .string "deny_all")]
  | access policy => .object (("kind", .string "access") :: policy.fieldsToDocument)

def KernelEvent.toDocument : KernelEvent → Value
  | processCreate parent child childGroup =>
    .object
      [("event", .string "process_create"), ("parent_tid", .ofU32 parent),
        ("child_tid", .ofU32 child), ("child_tgid", .ofU32 childGroup)]
  | programLoad tid executable =>
    .object
      [("event", .string "program_load"), ("tid", .ofU32 tid),
        ("executable", executable.toDocument)]
  | processExit tid => .object [("event", .string "process_exit"), ("tid", .ofU32 tid)]
  | openEntry task flags =>
    .object
      [("event", .string "open_entry"), ("task", task.toDocument), ("flags", flags.toDocument)]
  | openExit task => .object [("event", .string "open_exit"), ("task", task.toDocument)]

def TraceProfile.toDocument (profile : TraceProfile) : Value :=
  .object
    [("key", .ofOption ProfileKey.toDocument profile.key),
      ("device", .ofOption .ofU32 profile.device),
      ("inode", .ofOption .unsigned profile.inode),
      ("path", .ofOption .string profile.path),
      ("index", .ofU32 profile.index), ("routine", profile.routine.toDocument)]

def OpenCall.toDocument (call : OpenCall) : Value :=
  .object
    [("tid", .ofU32 call.tid), ("tgid", .ofOption .ofU32 call.tgid), ("flags", .ofI32 call.flags),
      ("mode", .ofU16 call.mode)]

def TraceStep.toDocument : TraceStep → Value
  | kernel event => event.toDocument
  | openCall call => .object [("open", call.toDocument)]
  | setMode mode => .object [("set_mode", mode.toDocument)]

def Trace.toDocument (trace : Trace) : Value :=
  .object
    [("profiles", .sequence (trace.profiles.map TraceProfile.toDocument)),
      ("events", .sequence (trace.steps.map TraceStep.toDocument))]

end Confinement
