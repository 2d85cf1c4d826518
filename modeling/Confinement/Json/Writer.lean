import Confinement.Document.Value
import Confinement.Text.Numeral

/-! Values as JSON text, on one line. -/

set_option autoImplicit false

namespace Confinement.Json

open Document (Value)

def escapedChar (c : Char) : String :=
  match c with
  | '"' => "\\\""
  | '\\' => "\\\\"
  | '\n' => "\\n"
  | '\r' => "\\r"
  | '\t' => "\\t"
  | '\x08' => "\\b"
  | '\x0c' => "\\f"
  | c => if c.toNat < 0x20 then "\\u" ++ Text.hexPadded 4 c.toNat else c.toString

def renderString (text : String) : String :=
  "\"" ++ String.join (text.toList.map escapedChar) ++ "\""

def renderKey : Value → String
  -- Keys that are no texts have no place in JSON.
  | .string text => renderString text
  | _ => "\"\""

mutual

def render : Value → String
  | .absent | .unit => "null"
  | .bool value => if value then "true" else "false"
  | .unsigned n => toString n
  | .signed n => toString n
  | .float bits => Decimal.Layout.scientific.text (Float.ofBits bits)
  | .string text => renderString text
  | .sequence items => "[" ++ ",".intercalate (renderItems items) ++ "]"
  | .map entries => "\x7b" ++ ",".intercalate (renderEntries entries) ++ "\x7d"

def renderItems : List Value → List String
  | [] => []
  | item :: rest => render item :: renderItems rest

def renderEntries : List (Value × Value) → List String
  | [] => []
  | (key, value) :: rest => (renderKey key ++ ":" ++ render value) :: renderEntries rest

end

end Confinement.Json
