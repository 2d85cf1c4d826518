import Confinement.Text.Blank
import Confinement.Text.LowerCase

/-! What the engine does with a denied call. -/

set_option autoImplicit false

namespace Confinement

inductive Mode where
  | enforcing
  | audit
  deriving DecidableEq, Repr

namespace Mode

def name : Mode → String
  | enforcing => "enforcing"
  | audit => "audit"

def outline : Mode → String
  | enforcing => "Enforcing"
  | audit => "Audit"

def heading : Mode → String
  | enforcing => "ENFORCE"
  | audit => "AUDIT"

/-- Reads a name as it is given on a command line, in any case and with white space around it. -/
def ofName (text : String) : Except String Mode :=
  -- Otherwise the name in lower case.
  match Text.lower (Text.trim text) with
  | "enforcing" | "enforce" => .ok enforcing
  | "audit" | "audit-only" | "audit_only" => .ok audit
  | other => .error other

end Mode

/-- How the arguments of an open call travel from its entry to its exit. -/
inductive SlotMode where
  | perThread
  | shared
  deriving DecidableEq, Repr

namespace SlotMode

def name : SlotMode → String
  | perThread => "per_thread"
  | shared => "shared"

def outline : SlotMode → String
  | perThread => "PerThread"
  | shared => "Shared"

end SlotMode

end Confinement
