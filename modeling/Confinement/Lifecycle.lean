import Confinement.Error
import Confinement.Process

/-! Following tasks from their creation to their exit.

A new task takes over the profile of its parent, loading a program may move a tracked task to the
profile of the program, and an exit forgets the task. Nothing but a creation tracks a task.
-/

set_option autoImplicit false

namespace Confinement

/-- What loading a program did. -/
inductive LoadOutcome where
  | untracked
  | confined (key : ProfileKey)
  /-- The program has no profile, and the task keeps the key it had. -/
  | unchanged (key : ProfileKey)
  deriving DecidableEq, Repr

def LoadOutcome.outline : LoadOutcome → String
  | untracked => "Untracked"
  | confined key => Text.outlineOf "Confined" key.outline
  | unchanged key => Text.outlineOf "Unchanged" key.outline

structure Tracker where
  processes : ProcessTable
  profiles : ProfileTable

namespace Tracker

def create (tracker : Tracker) (parent child tgid : UInt32) :
    Logged (Tracker × Except Error ProcessState) := do
  -- It starts with the profile of its parent, if the parent is tracked, and without one otherwise.
  let (processes, found) := tracker.processes.lookup parent
  let inherited := (found.map ProcessState.profileKey).getD .unconfined
  let record := { ProcessState.new child tgid with profileKey := inherited }
  let (processes, answer) ← processes.put child record
  let tracker := { tracker with processes }
  match answer with
  | .error failure =>
    let error := Error.capacity processes.name failure.capacity
    Logged.write (.lifecycle .warn
      (s!"Task {child} forked by {parent} is not tracked: " ++ error.message))
    pure (tracker, .error error)
  | .ok stale =>
    match stale with
    | some old =>
      Logged.write (.lifecycle .debug
        (s!"Replaced stale record for task {child} (was " ++ old.profileKey.render ++ ")"))
    | none => pure ()
    Logged.write (.lifecycle .trace
      (s!"fork {parent} -> {child} (tgid {tgid}) profile " ++ inherited.render))
    pure (tracker, .ok record)

/-- Moves a tracked task to the profile of the program it loads, if there is one. -/
def load (tracker : Tracker) (tid : UInt32) (executable : Executable) :
    Logged (Tracker × LoadOutcome) := do
  let (processes, found) := tracker.processes.lookup tid
  let tracker := { tracker with processes }
  match found with
  | none => pure (tracker, .untracked)
  | some process =>
    let current := process.profileKey
    let key := executable.profileKey
    let (profiles, profile) := tracker.profiles.lookup key
    let tracker := { tracker with profiles }
    match profile with
    | none =>
      Logged.write (.lifecycle .trace
        (s!"exec by task {tid}: no profile for " ++ key.render ++ ", keeping " ++ current.render))
      pure (tracker, .unchanged current)
    | some _ =>
      let (processes, changed) :=
        tracker.processes.modify tid fun record => { record with profileKey := key }
      let tracker := { tracker with processes }
      match changed with
      | none => pure (tracker, .untracked)
      | some _ =>
        Logged.write (.lifecycle .debug
          (s!"exec by task {tid}: confined by profile " ++ key.render))
        pure (tracker, .confined key)

def exit (tracker : Tracker) (tid : UInt32) : Logged (Tracker × Option ProcessState) := do
  let (processes, removed) := tracker.processes.delete tid
  Logged.writeIf removed.isSome (.lifecycle .trace s!"exit of task {tid}")
  pure ({ tracker with processes }, removed)

end Tracker

def Table.outline {κ α : Type} (table : Table κ α) : String :=
  Text.outline "LruTable"
    [("name", "\"" ++ table.name ++ "\""), ("capacity", toString table.capacity),
      ("shards", toString table.shards.length)]

def Tracker.outline (tracker : Tracker) : String :=
  Text.outline "LifecycleTracker"
    [("processes", tracker.processes.outline), ("profiles", tracker.profiles.outline)]

end Confinement
