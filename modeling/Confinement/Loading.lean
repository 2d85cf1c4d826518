import Confinement.Files
import Confinement.Reading
import Confinement.Yaml.Part

/-! Configurations, traces and routines from YAML texts and from files. -/

set_option autoImplicit false

namespace Confinement

def Config.ofYaml (text : String) : Logged (Except Error Config) :=
  -- A blank text says nothing.
  let parsed : Except Error Config :=
    if (Text.trim text).isEmpty then .ok .default
    else match Yaml.Graph.ofText? text with
      | none => .error (.config .malformed)
      | some graph => (graph.read Config.ofDocument).mapError fun fault => .config (.document fault)
  match parsed with
  | .error error => pure (.error error)
  | .ok config => do
    match ← config.check with
    | .error error => pure (.error error)
    | .ok () => pure (.ok config)

def Config.load (files : Files) (path : String) : Logged (Except Error Config) :=
  match files.read path with
  | .error fault => pure (.error (.config (.unreadable path fault)))
  | .ok text => do
    match ← Config.ofYaml text with
    | .error error => pure (.error error)
    | .ok config =>
      Logged.write ⟨.info, "Loaded engine configuration from " ++ path⟩
      pure (.ok config)

def Trace.ofYaml (text : String) : Except TraceFault Trace :=
  match Yaml.Graph.ofText? text with
  | none => .error .malformed
  | some graph => (graph.read Trace.ofDocument).mapError .document

def Trace.load (files : Files) (path : String) : Except Error Trace :=
  match files.read path with
  | .error fault => .error (.io fault)
  | .ok text => (Trace.ofYaml text).mapError fun fault => .trace (.inFile path fault)

def RoutineSpec.ofYaml (text : String) : Except Error RoutineSpec :=
  match Yaml.Graph.ofText? text with
  | none => .error (.config .malformed)
  | some graph => (graph.read RoutineSpec.ofDocument).mapError fun fault => .config (.document fault)

def Document.Value.decode {α : Type} (value : Document.Value)
    (read : Document.Datum → Document.Decoder α) : Except Error α :=
  ((read ⟨false, value⟩).run 0).mapError fun fault => .trace (.value fault)

end Confinement
