import Confinement.CommandLine.Arguments
import Confinement.Json.Writer
import Confinement.Loading
import Confinement.Replay
import Confinement.Writing

/-! What the program prints, and how it ends, for a command line and a file system. -/

set_option autoImplicit false

namespace Confinement.CommandLine

open Document (Value)

inductive Notice where
  | log (line : Line)
  | text (text : String)
  deriving DecidableEq, Repr

structure Session where
  exit : Nat
  output : List String
  notices : List Notice
  deriving DecidableEq, Repr

def Notice.render (time : String) : Notice → String
  | log line => s!"[{time}] " ++ line.level.label ++ " - " ++ line.text
  | text words => words

def deliveryText (time : String) (delivery : Replay.Delivery) : String :=
  Json.render (.object
    [("channel", delivery.channel.toDocument), ("step", .ofSize delivery.step),
      ("timestamp", .string time), ("pid", .ofU32 delivery.event.pid),
      ("tid", .ofU32 delivery.event.tid),
      ("profile_key", delivery.event.profileKey.toDocument)])

def summaryDocument (summary : Replay.Summary) : Value :=
  .object
    [("steps", .ofSize summary.steps), ("events", .ofSize summary.events),
      ("killed", .ofSize summary.killed), ("capacity_errors", .ofSize summary.capacityErrors),
      ("stats", summary.stats.toDocument)]

def keyLines (path : String) (executable : Executable) : List String :=
  let key := executable.profileKey
  [path,
    "  device:  " ++ Text.hexNumber executable.device.toNat,
    s!"  inode:   {executable.inode}",
    "  key:     " ++ key.render ++ s!" ({key.raw})"]

/-- The files that an invocation reads or identifies whatever they hold. -/
def Invocation.paths (invocation : Invocation) : List String :=
  match invocation.command with
  | .version => []
  | .key path _ => [path]
  | .replay path _ => invocation.config.toList ++ [path]

def Invocation.tracedPaths (invocation : Invocation) (files : Files) : List String :=
  match invocation.command with
  | .replay path _ =>
    match Trace.load files path with
    | .ok trace => trace.profiles.filterMap TraceProfile.path
    | .error _ => []
  | _ => []

def replayLines (files : Files) (assignments : Assignments) (time : String)
    (config : Option String) (path : String) (mode : Option String) :
    Logged (Except Error (List String)) := do
  let configured ← match config with
    | some file => Config.load files file
    | none => pure (.ok .default)
  match configured with
  | .error error => pure (.error error)
  | .ok config =>
    let chosen : Except Error Config := match mode with
      | none => .ok config
      | some name =>
        match Mode.ofName name with
        | .ok mode => .ok (config.withMode mode)
        | .error name => .error (.config (.unknownMode name))
    match chosen with
    | .error error => pure (.error error)
    | .ok config =>
      match Trace.load files path with
      | .error error => pure (.error error)
      | .ok trace =>
        Logged.write ⟨.info, s!"Replaying {path} ({trace.profiles.length} profiles, " ++
          s!"{trace.steps.length} events) in " ++ config.mode.name ++ " mode"⟩
        match ← Replay.run trace config assignments files with
        | .error error => pure (.error error)
        | .ok report =>
          pure (.ok (report.events.map (deliveryText time) ++
            [Json.render (summaryDocument report.summary)]))

def perform (files : Files) (assignments : Assignments) (time : String)
    (invocation : Invocation) : Logged (Except Error (List String)) :=
  match invocation.command with
  | .version =>
    pure (.ok ["bpfbox v0.1.0", "Process confinement engine", "License: GPL-3.0-or-later"])
  | .key path follow =>
    pure ((files.executable path follow).map (keyLines path))
  | .replay path mode => replayLines files assignments time invocation.config path mode

def Session.ofInvocation (files : Files) (assignments : Assignments) (time : String)
    (invocation : Invocation) : Session :=
  let (level, opening) := match Level.ofName invocation.logLevel with
    | .ok level => (level, [])
    | .error name =>
      (Level.info, [Notice.text (Level.unknownMessage name ++ ", defaulting to 'info'")])
  let result := perform files assignments time invocation
  let lines : List Line :=
    ⟨.debug, "bpfbox started with log level: " ++ invocation.logLevel⟩ :: result.lines
  let shown (lines : List Line) : List Notice :=
    (lines.filter fun line => level.shows line.level).map .log
  match result.value with
  | .ok output => ⟨0, output, opening ++ shown lines⟩
  | .error error =>
    ⟨1, [], opening ++ shown (lines ++ [⟨.error, error.message⟩]) ++
      [.text ("❌ " ++ error.message)]⟩

def Session.ofArguments (files : Files) (assignments : Assignments) (time : String)
    (arguments : List String) : Session :=
  match Request.ofArguments arguments with
  | .run invocation => .ofInvocation files assignments time invocation
  | .programVersion => ⟨0, ["bpfbox 0.1.0"], []⟩
  | .help =>
    ⟨0, ["Usage: bpfbox [OPTIONS] <COMMAND>", "", "Commands:",
      "  key      Print the profile key of an executable",
      "  replay   Replay a recorded event trace through the engine",
      "  version  Show version information"], []⟩
  | .unusable => ⟨2, [], [.text "Usage: bpfbox [OPTIONS] <COMMAND>"]⟩

end Confinement.CommandLine
