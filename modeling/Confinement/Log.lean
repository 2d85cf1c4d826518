import Confinement.Text.LowerCase

/-! Log lines, and computations that write them.

Lines are values: a computation returns the lines it wrote beside its result, so what it decides and
what it says can be studied apart.
-/

set_option autoImplicit false

namespace Confinement

inductive Level where
  | error
  | warn
  | info
  | debug
  | trace
  deriving DecidableEq, Repr

namespace Level

def label : Level → String
  | error => "ERROR"
  | warn => "WARN"
  | info => "INFO"
  | debug => "DEBUG"
  | trace => "TRACE"

/-- Position from most to least severe. -/
def rank : Level → Nat
  | error => 0
  | warn => 1
  | info => 2
  | debug => 3
  | trace => 4

def shows (kept level : Level) : Bool :=
  level.rank ≤ kept.rank

def ofName (name : String) : Except String Level :=
  -- Otherwise the name in lower case.
  match Text.lower name with
  | "trace" => .ok trace
  | "debug" => .ok debug
  | "info" => .ok info
  | "warn" => .ok warn
  | "error" => .ok error
  | other => .error other

def unknownMessage (name : String) : String :=
  s!"invalid log level '{name}'"

end Level

structure Line where
  level : Level
  text : String
  deriving DecidableEq, Repr

namespace Line

def render (line : Line) : String :=
  line.level.label ++ " " ++ line.text

def lifecycle (level : Level) (text : String) : Line :=
  ⟨level, "[LIFECYCLE] " ++ text⟩

def policy (level : Level) (text : String) : Line :=
  ⟨level, "[POLICY] " ++ text⟩

def enforcement (level : Level) (text : String) : Line :=
  ⟨level, "[ENFORCE] " ++ text⟩

end Line

/-- A result with the lines written on the way to it, in order. -/
structure Logged (α : Type) where
  value : α
  lines : List Line
  deriving DecidableEq, Repr

namespace Logged

variable {α β : Type}

protected def pure (value : α) : Logged α :=
  ⟨value, []⟩

protected def bind (first : Logged α) (next : α → Logged β) : Logged β :=
  let second := next first.value
  ⟨second.value, first.lines ++ second.lines⟩

instance : Monad Logged where
  pure := Logged.pure
  bind := Logged.bind

@[simp] theorem value_pure (a : α) : (pure a : Logged α).value = a := rfl

@[simp] theorem lines_pure (a : α) : (pure a : Logged α).lines = [] := rfl

@[simp] theorem value_bind (first : Logged α) (next : α → Logged β) :
    (first >>= next).value = (next first.value).value := rfl

@[simp] theorem lines_bind (first : Logged α) (next : α → Logged β) :
    (first >>= next).lines = first.lines ++ (next first.value).lines := rfl

def write (line : Line) : Logged Unit :=
  ⟨(), [line]⟩

def writeIf (condition : Bool) (line : Line) : Logged Unit :=
  ⟨(), if condition then [line] else []⟩

end Logged

end Confinement
