import Confinement.Document.Kept
import Confinement.Trace.Basic

/-! The values of the library as they are read from documents. -/

set_option autoImplicit false

namespace Confinement

open Document (Source Decoder Record Datum Value)

variable {ν : Type} [Source ν]

def Mode.ofDocument (part : ν) : Decoder Mode := do
  match ← Source.choice ["enforcing", "audit"] part with
  | "enforcing" => pure .enforcing
  | _ => pure .audit

def SlotMode.ofDocument (part : ν) : Decoder SlotMode := do
  match ← Source.choice ["per_thread", "shared"] part with
  | "per_thread" => pure .perThread
  | _ => pure .shared

def Channel.ofDocument (part : ν) : Decoder Channel := do
  match ← Source.choice (Channel.all.map Channel.name) part with
  | "process_create" => pure .processCreate
  | "enforcement" => pure .enforcement
  | _ => pure .wouldHaveEnforced

def ProfileKey.ofDocument (part : ν) : Decoder ProfileKey :=
  ProfileKey.mk <$> Source.u64 part

def Access.ofDocument (part : ν) : Decoder Access := do
  match Access.parse (← Source.text "a string" part) with
  | .ok access => pure access
  | .error fault => Decoder.fail (.invalidAccess fault)

def Executable.fields : Record ν (Option UInt32 × Option UInt64) Executable :=
  ((Record.required "device" Source.u32).both (Record.required "inode" Source.u64)).map
    fun (device, inode) => ⟨device, inode⟩

def Executable.ofDocument (part : ν) : Decoder Executable :=
  Executable.fields.read "struct ExecutableIdentity" part

def Task.fields : Record ν (Option UInt32 × Option UInt32) Task :=
  ((Record.required "tid" Source.u32).both (Record.required "tgid" Source.u32)).map
    fun (tid, tgid) => ⟨tid, tgid⟩

def Task.ofDocument (part : ν) : Decoder Task :=
  Task.fields.read "struct TaskContext" part

def ProcessState.ofDocument (part : ν) : Decoder ProcessState :=
  let fields := (Record.required "pid" (Source.u32 (ν := ν))).both
    ((Record.required "tgid" Source.u32).both
      ((Record.required "tid" Source.u32).both
        ((Record.required "profile_key" ProfileKey.ofDocument).both
          (Record.required "tainted" Source.bool))))
  (fields.map fun (pid, tgid, tid, profileKey, tainted) =>
    ProcessState.mk pid tgid tid profileKey tainted).read "struct ProcessRecord" part

def Profile.ofDocument (part : ν) : Decoder Profile :=
  let fields := (Record.required "profile_key" (ProfileKey.ofDocument (ν := ν))).both
    (Record.required "tail_call_index" Source.u32)
  (fields.map fun (key, index) => Profile.mk key index).read "struct ProfileRecord" part

def Event.ofDocument (part : ν) : Decoder Event :=
  let fields := (Record.required "pid" (Source.u32 (ν := ν))).both
    ((Record.required "tid" Source.u32).both (Record.required "profile_key" ProfileKey.ofDocument))
  (fields.map fun (pid, tid, profileKey) => Event.mk pid tid profileKey).read
    "struct EnforcementEvent" part

def OpenFlags.ofDocument (part : ν) : Decoder OpenFlags :=
  let fields := (Record.required "open_flag" (Source.i32 (ν := ν))).both
    ((Record.required "mode" Source.u16).both
      ((Record.required "acc_mode" Source.i32).both
        ((Record.required "intent" Source.i32).both (Record.required "lookup_flags" Source.i32))))
  (fields.map fun (openFlag, mode, accMode, intent, lookupFlags) =>
    OpenFlags.mk openFlag mode accMode intent lookupFlags).read "struct OpenFlags" part

def Config.ofDocument (part : ν) : Decoder Config :=
  let standard := Config.default
  let fields := (Record.field "max_processes" (Source.size (ν := ν)) (some standard.maxProcesses)).both
    ((Record.field "max_profiles" Source.size (some standard.maxProfiles)).both
      ((Record.field "table_shards" Source.size (some standard.tableShards)).both
        ((Record.field "mode" Mode.ofDocument (some standard.mode)).both
          ((Record.field "open_args_slot" SlotMode.ofDocument (some standard.openArgsSlot)).both
            (Record.field "channel_capacity" Source.size (some standard.channelCapacity))))))
  (fields.map fun (maxProcesses, maxProfiles, tableShards, mode, openArgsSlot, channelCapacity) =>
    Config.mk maxProcesses maxProfiles tableShards mode openArgsSlot channelCapacity).read
      "struct BpfboxConfig" part

def AccessPolicy.ofDocument (part : ν) : Decoder AccessPolicy :=
  let fields := (Record.field "allow" (Access.ofDocument (ν := ν)) (some .none)).both
    ((Record.field "taint" Access.ofDocument (some .none)).both
      (Record.field "audit" Access.ofDocument (some .none)))
  (fields.map fun (allow, taint, audit) => AccessPolicy.mk allow taint audit).read
    "struct AccessPolicy" part

def RoutineSpec.ofDocument (part : ν) : Decoder RoutineSpec := do
  -- The other fields belong to the kind.
  let (kind, content) ← Source.tagged "internally tagged enum RoutineSpec" "kind"
    ["allow_all", "deny_all", "access"] part
  match kind with
  | "allow_all" => do
    Datum.nothing "unit variant RoutineSpec::AllowAll" content
    pure .allowAll
  | "deny_all" => do
    Datum.nothing "unit variant RoutineSpec::DenyAll" content
    pure .denyAll
  | _ => RoutineSpec.access <$> AccessPolicy.ofDocument (Datum.mk true content)

def KernelEvent.ofDocument (part : ν) : Decoder KernelEvent := do
  -- The other fields belong to the event.
  let (event, content) ← Source.tagged "internally tagged enum KernelEvent" "event"
    ["process_create", "program_load", "process_exit", "open_entry", "open_exit"] part
  let content := Datum.mk true content
  match event with
  | "process_create" =>
    let fields := (Record.required "parent_tid" (Source.u32 (ν := Datum))).both
      ((Record.required "child_tid" Source.u32).both (Record.required "child_tgid" Source.u32))
    (fields.map fun (parent, child, childGroup) =>
      KernelEvent.processCreate parent child childGroup).read
        "struct variant KernelEvent::ProcessCreate" content
  | "program_load" =>
    let fields := (Record.required "tid" (Source.u32 (ν := Datum))).both
      (Record.required "executable" Executable.ofDocument)
    (fields.map fun (tid, executable) => KernelEvent.programLoad tid executable).read
      "struct variant KernelEvent::ProgramLoad" content
  | "process_exit" =>
    ((Record.required "tid" (Source.u32 (ν := Datum))).map KernelEvent.processExit).read
      "struct variant KernelEvent::ProcessExit" content
  | "open_entry" =>
    let fields := (Record.required "task" (Task.ofDocument (ν := Datum))).both
      (Record.required "flags" OpenFlags.ofDocument)
    (fields.map fun (task, flags) => KernelEvent.openEntry task flags).read
      "struct variant KernelEvent::OpenEntry" content
  | _ =>
    ((Record.required "task" (Task.ofDocument (ν := Datum))).map KernelEvent.openExit).read
      "struct variant KernelEvent::OpenExit" content

/-- Which of the three ways tells whose profile it is, is settled later. -/
def TraceProfile.ofDocument (part : ν) : Decoder TraceProfile :=
  let fields := (Record.field "key" (Source.option (ProfileKey.ofDocument (ν := ν))) (some none)).both
    ((Record.field "device" (Source.option Source.u32) (some none)).both
      ((Record.field "inode" (Source.option Source.u64) (some none)).both
        ((Record.field "path" (Source.option (Source.text "path string")) (some none)).both
          ((Record.required "index" Source.u32).both
            (Record.required "routine" RoutineSpec.ofDocument)))))
  (fields.map fun (key, device, inode, path, index, routine) =>
    TraceProfile.mk key device inode path index routine).read "struct TraceProfile" part

def OpenCall.ofDocument (part : ν) : Decoder OpenCall :=
  let fields := (Record.required "tid" (Source.u32 (ν := ν))).both
    ((Record.field "tgid" (Source.option Source.u32) (some none)).both
      ((Record.field "flags" Source.i32 (some 0)).both
        (Record.field "mode" Source.u16 (some 0))))
  (fields.map fun (tid, tgid, flags, mode) => OpenCall.mk tid tgid flags mode).read
    "struct OpenCall" part

def TraceStep.ofField {α : Type} (name expected : String) (read : Datum → Decoder α)
    (content : Value) : Decoder α :=
  match content with
  | .map _ => (Record.required name read).read expected (Datum.mk true content)
  | other => Datum.mismatch other expected

/-- A step is a kernel event, an open call or a choice of mode, whichever fits first. -/
def TraceStep.ofDocument (part : ν) : Decoder TraceStep := do
  let content ← Source.keep part
  match ← Decoder.attempt (KernelEvent.ofDocument (Datum.mk true content)) with
  | some event => pure (.kernel event)
  | none =>
    match ← Decoder.attempt
      (ofField "open" "struct variant TraceStep::Open" OpenCall.ofDocument content) with
    | some call => pure (.openCall call)
    | none =>
      match ← Decoder.attempt
        (ofField "set_mode" "struct variant TraceStep::SetMode" Mode.ofDocument content) with
      | some mode => pure (.setMode mode)
      | none => Decoder.fail (.noAlternative "TraceStep")

/-- A trace without profiles or without events may leave them out. -/
def Trace.ofDocument (part : ν) : Decoder Trace :=
  let fields := (Record.field "profiles" (Source.list (TraceProfile.ofDocument (ν := ν))) (some [])).both
    (Record.field "events" (Source.list TraceStep.ofDocument) (some []))
  (fields.map fun (profiles, steps) => Trace.mk profiles steps).read "struct Trace" part

end Confinement
