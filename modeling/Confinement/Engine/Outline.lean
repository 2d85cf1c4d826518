import Confinement.Engine.Basic

/-! The engine seen from outside: its counters, and outlines of its parts, events and outcomes. -/

set_option autoImplicit false

namespace Confinement

structure Stats where
  processes : Nat
  profiles : Nat
  routines : Nat
  processEvictions : UInt64
  profileEvictions : UInt64
  denials : UInt64
  droppedEnforcement : UInt64
  droppedWouldHaveEnforced : UInt64
  deriving DecidableEq, Repr

def Engine.stats (engine : Engine) : Stats where
  processes := engine.processes.size
  profiles := engine.profiles.size
  routines := engine.dispatch.registered
  processEvictions := engine.processes.evictions
  profileEvictions := engine.profiles.evictions
  denials := engine.reporter.denials
  droppedEnforcement := engine.bus.dropped .enforcement
  droppedWouldHaveEnforced := engine.bus.dropped .wouldHaveEnforced

def Engine.outline (engine : Engine) : String :=
  Text.outline "Bpfbox"
    [("mode", engine.mode.outline), ("processes", engine.processes.outline),
      ("profiles", engine.profiles.outline), ("dispatch", engine.dispatch.outline),
      ("interceptor", Text.outline "OpenInterceptor" [("slot", engine.slot.outline)])]

def Engine.loaderOutline (engine : Engine) : String :=
  Text.outline "PolicyLoader"
    [("profiles", engine.profiles.outline), ("dispatch", engine.dispatch.outline)]

def KernelEvent.outline : KernelEvent → String
  | processCreate parent child childGroup =>
    Text.outline "ProcessCreate"
      [("parent_tid", toString parent), ("child_tid", toString child),
        ("child_tgid", toString childGroup)]
  | programLoad tid executable =>
    Text.outline "ProgramLoad" [("tid", toString tid), ("executable", executable.outline)]
  | processExit tid => Text.outline "ProcessExit" [("tid", toString tid)]
  | openEntry task flags =>
    Text.outline "OpenEntry" [("task", task.outline), ("flags", flags.outline)]
  | openExit task => Text.outline "OpenExit" [("task", task.outline)]

def OpenOutcome.outline : OpenOutcome → String
  | passThrough => "PassThrough"
  | unconfined => "Unconfined"
  | profileMissing key => Text.outline "ProfileMissing" [("profile_key", key.outline)]
  | routineMissing index => Text.outline "RoutineMissing" [("index", toString index)]
  | dispatched index verdict =>
    Text.outline "Dispatched" [("index", toString index), ("verdict", verdict.outline)]

def Outcome.outline : Outcome → String
  | tracked process => Text.outlineOf "Tracked" process.outline
  | load outcome => Text.outlineOf "ProgramLoad" outcome.outline
  | exited removed => Text.outlineOf "Exited" (toString removed)
  | captured kept => Text.outlineOf "Captured" (toString kept)
  | opened outcome => Text.outlineOf "Open" outcome.outline

end Confinement
