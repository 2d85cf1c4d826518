import Confinement.Engine.Run

/-! The forms of log lines, and computations that write none of the lines about denials.

A denial is reported by a line of one form, and a request to kill that failed by a line of another.
All other lines differ from both in how they begin, so each part of the engine that denies nothing can
be told to write neither. A line that reports a denial also names a profile, by sixteen digits that
denote its key.
-/

set_option autoImplicit false

namespace Confinement

/-! ## Keys as they are shown -/

namespace Text

theorem hexValue?_digitChar : ∀ digit < 16, hexValue? digit.digitChar = some digit := by decide

theorem digitChar_mem : ∀ digit < 16, digit.digitChar ∈ "0123456789abcdef".toList := by decide

theorem hexDigits_eq_if (n : Nat) :
    hexDigits n = if n < 16 then [n.digitChar] else hexDigits (n / 16) ++ [(n % 16).digitChar] :=
  Nat.toDigits_eq_if (by decide)

theorem mem_hexDigits {n : Nat} {c : Char} (member : c ∈ hexDigits n) :
    c ∈ "0123456789abcdef".toList := by
  induction n using Nat.strongRecOn with
  | ind n ih =>
    rw [hexDigits_eq_if] at member
    split at member
    case isTrue small =>
      rw [List.mem_singleton.mp member]
      exact digitChar_mem n small
    case isFalse large =>
      rcases List.mem_append.mp member with before | last
      · exact ih (n / 16) (by omega) before
      · rw [List.mem_singleton.mp last]
        exact digitChar_mem _ (Nat.mod_lt n (by decide))

theorem foldlM_hexDigits (n : Nat) :
    (hexDigits n).foldlM (fun n c => (hexValue? c).map (16 * n + ·)) 0 = some n := by
  induction n using Nat.strongRecOn with
  | ind n ih =>
    rw [hexDigits_eq_if]
    split
    case isTrue small => simp [hexValue?_digitChar n small]
    case isFalse large =>
      have last := hexValue?_digitChar (n % 16) (Nat.mod_lt n (by decide))
      rw [List.foldlM_append, ih (n / 16) (by omega)]
      simp [last, Nat.div_add_mod]

theorem foldlM_replicate (width : Nat) (digits : List Char) :
    (List.replicate width '0' ++ digits).foldlM (fun n c => (hexValue? c).map (16 * n + ·)) 0 =
      digits.foldlM (fun n c => (hexValue? c).map (16 * n + ·)) 0 := by
  induction width with
  | zero => rfl
  | succ width ih => exact ih

end Text

/-- A key is shown by sixteen digits in base sixteen, which denote its number. -/
theorem ProfileKey.render_eq (key : ProfileKey) :
    ∃ digits, key.render = "0x" ++ String.ofList digits ∧ digits.length = 16 ∧
      (∀ c ∈ digits, c ∈ "0123456789abcdef".toList) ∧
      Text.hexNumber? digits = some key.raw.toNat := by
  have short : (Text.hexDigits key.raw.toNat).length ≤ 16 :=
    (Nat.length_toDigits_le_iff (by decide) (by decide)).mpr key.raw.toNat_lt
  refine ⟨_, rfl, ?_, ?_, ?_⟩
  · simp
    omega
  · intro c member
    rcases List.mem_append.mp member with zero | digit
    · rw [List.eq_of_mem_replicate zero]
      decide
    · exact Text.mem_hexDigits digit
  · have some : Text.hexDigits key.raw.toNat ≠ [] := Nat.toDigits_ne_nil
    rw [Text.hexNumber?, if_neg (by simp [some]), Text.foldlM_replicate, Text.foldlM_hexDigits]

/-! ## Lines -/

def Level.shown (kept : Level) (lines : List Line) : List Line :=
  lines.filter fun line => kept.shows line.level

namespace Line

def begins (line : Line) (head : String) : Bool :=
  head.toList.isPrefixOf line.render.toList

/-- Whether the line has the form of those that report a denial. -/
def isDecision (line : Line) : Bool :=
  line.begins "WARN [POLICY] ENFORCE pid=" || line.begins "WARN [POLICY] AUDIT pid="

def isFailure (line : Line) : Bool :=
  line.begins "ERROR [ENFORCE] Failed to signal task "

def isQuiet (line : Line) : Bool :=
  !line.isDecision && !line.isFailure

theorem toList_render (line : Line) :
    line.render.toList = line.level.label.toList ++ (" ".toList ++ line.text.toList) := by
  rw [render, String.toList_append, String.toList_append, List.append_assoc]

theorem isQuiet_of_hidden {line : Line} (hidden : Level.warn.shows line.level = false) :
    line.isQuiet = true := by
  cases level : line.level with
  | error => simp [level, Level.shows, Level.rank] at hidden
  | warn => simp [level, Level.shows] at hidden
  | _ =>
    simp [isQuiet, isDecision, isFailure, begins, toList_render, level, Level.label, List.isPrefixOf]

theorem isQuiet_lifecycle (level : Level) (text : String) : (lifecycle level text).isQuiet = true := by
  cases level <;>
    simp [isQuiet, isDecision, isFailure, begins, toList_render, lifecycle, Level.label,
      List.isPrefixOf]

theorem isQuiet_enforcement_warn (text : String) : (enforcement .warn text).isQuiet = true := by
  simp [isQuiet, isDecision, isFailure, begins, toList_render, enforcement, Level.label,
    List.isPrefixOf]

/-- The line of a call that passes with a line in the log differs from one that reports a denial. -/
theorem isQuiet_audit (tid : UInt32) (requested key : String) :
    (policy .warn (s!"AUDIT task {tid} '" ++ requested ++ "' access under " ++ key)).isQuiet =
      true := by
  simp [isQuiet, isDecision, isFailure, begins, toList_render, policy, Level.label, List.isPrefixOf,
    toString]

theorem isQuiet_untracked :
    isQuiet ⟨.warn, "max_processes is 0: no process will ever be tracked"⟩ = true := by
  simp [isQuiet, isDecision, isFailure, begins, toList_render, Level.label, List.isPrefixOf]

theorem isDecision_decisionLine (mode : Mode) (event : Event) (profile : Profile) :
    (Reporter.decisionLine mode event profile).isDecision = true := by
  cases mode <;>
    simp [isDecision, begins, toList_render, Reporter.decisionLine, policy, Level.label, Mode.heading,
      List.isPrefixOf, toString]

def ofRefusal (task : Task) (fault : SignalFault) : Line :=
  .enforcement .error (s!"Failed to signal task {task.tid}: " ++ (Error.signal fault).message)

theorem render_ofRefusal (task : Task) (fault : SignalFault) :
    (ofRefusal task fault).render =
      s!"ERROR [ENFORCE] Failed to signal task {task.tid}: " ++ (Error.signal fault).message := by
  rw [render, ofRefusal, ← String.toList_inj]
  simp [enforcement, Level.label, toString]

theorem isDecision_ofRefusal (task : Task) (fault : SignalFault) :
    (ofRefusal task fault).isDecision = false := by
  simp [isDecision, begins, toList_render, ofRefusal, enforcement, Level.label, List.isPrefixOf]

end Line

namespace Logged

variable {α β : Type}

@[simp] theorem lines_write (line : Line) : (write line).lines = [line] := rfl

@[simp] theorem lines_writeIf (condition : Bool) (line : Line) :
    (writeIf condition line).lines = if condition then [line] else [] := rfl

def Quiet (logged : Logged α) : Prop :=
  ∀ line ∈ logged.lines, line.isQuiet = true

theorem quiet_pure (a : α) : (pure a : Logged α).Quiet := nofun

theorem quiet_write {line : Line} (quiet : line.isQuiet = true) : (write line).Quiet := by
  simpa [Quiet] using quiet

theorem quiet_writeIf {line : Line} (quiet : line.isQuiet = true) (condition : Bool) :
    (writeIf condition line).Quiet := by
  cases condition with
  | false => nofun
  | true => exact quiet_write quiet

theorem Quiet.bind {first : Logged α} {next : α → Logged β} (before : first.Quiet)
    (after : (next first.value).Quiet) : (first >>= next).Quiet := by
  intro line member
  rw [lines_bind] at member
  exact (List.mem_append.mp member).elim (before line) (after line)

end Logged

open Logged (quiet_pure quiet_write quiet_writeIf)

/-! ## Tables and tracking -/

theorem Table.quiet_put {κ α : Type} [DecidableEq κ] (table : Table κ α) (key : κ) (value : α) :
    (table.put key value).Quiet :=
  (quiet_writeIf (Line.isQuiet_of_hidden (by rfl)) _).bind (quiet_pure _)

namespace Tracker

variable (tracker : Tracker)

theorem quiet_create (parent child group : UInt32) : (tracker.create parent child group).Quiet := by
  refine (Table.quiet_put _ _ _).bind ?_
  dsimp only
  split
  case h_1 => exact (quiet_write (Line.isQuiet_lifecycle _ _)).bind (quiet_pure _)
  case h_2 stale _ =>
    cases stale with
    | none => exact (quiet_write (Line.isQuiet_lifecycle _ _)).bind (quiet_pure _)
    | some old =>
      refine (quiet_write (Line.isQuiet_lifecycle _ _)).bind ?_
      exact (quiet_write (Line.isQuiet_lifecycle _ _)).bind (quiet_pure _)

theorem quiet_load (tid : UInt32) (executable : Executable) : (tracker.load tid executable).Quiet := by
  unfold load
  dsimp only
  split
  case h_1 => exact quiet_pure _
  case h_2 =>
    split
    case h_1 => exact (quiet_write (Line.isQuiet_lifecycle _ _)).bind (quiet_pure _)
    case h_2 =>
      split
      case h_1 => exact quiet_pure _
      case h_2 => exact (quiet_write (Line.isQuiet_lifecycle _ _)).bind (quiet_pure _)

theorem quiet_exit (tid : UInt32) : (tracker.exit tid).Quiet :=
  (quiet_writeIf (Line.isQuiet_lifecycle _ _) _).bind (quiet_pure _)

end Tracker

/-! ## Loading -/

namespace DispatchTable

variable (table : DispatchTable)

theorem quiet_register (index : UInt32) (routine : Routine) : (table.register index routine).Quiet := by
  unfold register
  split
  case isTrue => exact (quiet_write (Line.isQuiet_of_hidden (by rfl))).bind (quiet_pure _)
  case isFalse => exact quiet_pure _

theorem quiet_unregister (index : UInt32) : (table.unregister index).Quiet := by
  unfold unregister
  split
  case h_1 => exact (quiet_write (Line.isQuiet_of_hidden (by rfl))).bind (quiet_pure _)
  case h_2 => exact quiet_pure _

end DispatchTable

namespace Engine

variable (engine : Engine)

theorem quiet_addProfile (key : ProfileKey) (index : UInt32) :
    (engine.addProfile key index).Quiet := by
  unfold addProfile
  split
  case isTrue => exact quiet_pure _
  case isFalse =>
    split
    case isTrue => exact quiet_pure _
    case isFalse =>
      refine (Table.quiet_put _ _ _).bind ?_
      dsimp only
      split
      case h_1 => exact quiet_pure _
      case h_2 => exact (quiet_write (Line.isQuiet_of_hidden (by rfl))).bind (quiet_pure _)

theorem quiet_addProfileForPath (files : Files) (path : String) (index : UInt32) :
    (engine.addProfileForPath files path index).Quiet := by
  unfold addProfileForPath
  split
  case h_1 => exact quiet_pure _
  case h_2 =>
    exact (quiet_write (Line.isQuiet_of_hidden (by rfl))).bind (engine.quiet_addProfile _ _)

theorem quiet_removeProfile (key : ProfileKey) : (engine.removeProfile key).Quiet :=
  (quiet_writeIf (Line.isQuiet_of_hidden (by rfl)) _).bind (quiet_pure _)

theorem quiet_registerRoutine (index : UInt32) (routine : Routine) :
    (engine.registerRoutine index routine).Quiet :=
  (engine.dispatch.quiet_register index routine).bind (quiet_pure _)

theorem quiet_unregisterRoutine (index : UInt32) : (engine.unregisterRoutine index).Quiet :=
  (engine.dispatch.quiet_unregister index).bind (quiet_pure _)

theorem quiet_install (key : ProfileKey) (index : UInt32) (routine : Routine) :
    (engine.install key index routine).Quiet := by
  refine (engine.quiet_registerRoutine index routine).bind ?_
  dsimp only
  split
  case h_1 => exact quiet_pure _
  case h_2 => exact quiet_addProfile _ key index

theorem quiet_build (config : Config) (terminator : Terminator) (assignments : Assignments) :
    (build config terminator assignments).Quiet := by
  refine Logged.Quiet.bind ?_ ?_
  · unfold Config.check
    split
    case h_1 => exact quiet_pure _
    case h_2 => exact (quiet_writeIf Line.isQuiet_untracked _).bind (quiet_pure _)
  · split
    case h_1 => exact quiet_pure _
    case h_2 => exact (quiet_write (Line.isQuiet_of_hidden (by rfl))).bind (quiet_pure _)

theorem quiet_setMode (mode : Mode) : (engine.setMode mode).Quiet := by
  refine Logged.Quiet.bind ?_ (quiet_pure _)
  exact (quiet_writeIf (Line.isQuiet_enforcement_warn _) _).bind (quiet_pure _)

/-! ## Open calls -/

theorem quiet_enterOpen (task : Task) (flags : OpenFlags) : (engine.enterOpen task flags).Quiet := by
  unfold enterOpen
  dsimp only
  split
  case h_1 => exact quiet_pure _
  case h_2 =>
    refine Logged.Quiet.bind ?_ ?_
    · cases engine.slot with
      | perThread table => exact (Table.quiet_put _ _ _).bind (quiet_pure _)
      | shared => exact quiet_pure _
    · exact (quiet_writeIf (Line.isQuiet_of_hidden (by rfl)) _).bind (quiet_pure _)

theorem quiet_resolveOpen (task : Task) : (engine.resolveOpen task).Quiet := by
  unfold resolveOpen
  dsimp only
  split
  case h_1 => exact quiet_pure _
  case h_2 =>
    split
    case isFalse => exact quiet_pure _
    case isTrue =>
      split
      case h_1 => exact (quiet_write (Line.isQuiet_of_hidden (by rfl))).bind (quiet_pure _)
      case h_2 =>
        split
        case h_1 => exact (quiet_write (Line.isQuiet_of_hidden (by rfl))).bind (quiet_pure _)
        case h_2 => exact quiet_pure _

end Engine

end Confinement
