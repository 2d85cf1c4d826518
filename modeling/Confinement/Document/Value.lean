import Confinement.Document.Fault

/-! Values as documents hold them, before they are given a meaning. -/

set_option autoImplicit false

namespace Confinement.Document

inductive Value where
  | absent
  | unit
  | bool (value : Bool)
  | unsigned (value : UInt64)
  | signed (value : Int64)
  | float (bits : UInt64)
  | string (text : String)
  | sequence (items : List Value)
  | map (entries : List (Value × Value))
  deriving Repr, Inhabited

namespace Value

def found : Value → Found
  | absent => .option
  | unit => .unit
  | bool value => .bool value
  | unsigned value => .integer value.toNat
  | signed value => .integer value.toInt
  | float bits => .float bits
  | string text => .string text
  | sequence _ => .sequence
  | map _ => .map

def object (fields : List (String × Value)) : Value :=
  map (fields.map fun field => (string field.1, field.2))

def ofOption {α : Type} (write : α → Value) : Option α → Value
  | some value => write value
  | none => unit

def field? (value : Value) (name : String) : Option Value :=
  match value with
  | map entries => entries.findSome? fun entry =>
    match entry.1 with
    | string key => if key = name then some entry.2 else none
    | _ => none
  | _ => none

end Value

end Confinement.Document
