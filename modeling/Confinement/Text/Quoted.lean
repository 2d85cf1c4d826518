import Confinement.Text.Numeral
import Confinement.Text.Printable

/-! Quotations: a text between quotation marks, with the characters that would not show escaped. -/

set_option autoImplicit false

namespace Confinement.Text

def quotedChar (c : Char) : String :=
  match c with
  | '\t' => "\\t"
  | '\r' => "\\r"
  | '\n' => "\\n"
  | '"' => "\\\""
  | '\\' => "\\\\"
  | '\x00' => "\\0"
  | c =>
    if isPrintable c then c.toString
    else "\\u\x7b" ++ String.ofList (hexDigits c.toNat) ++ "\x7d"

def quoted (text : String) : String :=
  "\"" ++ String.join (text.toList.map quotedChar) ++ "\""

end Confinement.Text
