/-! Outlines of values: the name of a value with its parts, for logs and diagnostics. -/

set_option autoImplicit false

namespace Confinement.Text

def outline (name : String) (parts : List (String × String)) : String :=
  name ++ " \x7b " ++ ", ".intercalate (parts.map fun part => part.1 ++ ": " ++ part.2) ++ " \x7d"

def outlineOf (name part : String) : String :=
  name ++ "(" ++ part ++ ")"

end Confinement.Text
