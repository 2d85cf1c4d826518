import Confinement.Access
import Confinement.Decimal.Layout
import Confinement.Text.Quoted

/-! Why a document does not hold the value that was asked for. -/

set_option autoImplicit false

namespace Confinement.Document

inductive Found where
  | bool (value : Bool)
  | integer (value : Int)
  | wideInteger (value : Int)
  | float (bits : UInt64)
  | string (text : String)
  | unit
  | option
  | sequence
  | map
  | enum
  deriving DecidableEq, Repr

inductive Format where
  | yaml
  | json
  deriving DecidableEq, Repr

namespace Format

def layout : Format → Decimal.Layout
  | yaml => .plain
  | json => .scientific

/-- The name of the value that stands for nothing. -/
def unitName : Format → String
  | yaml => "unit value"
  | json => "null"

end Format

def Found.describe (format : Format) : Found → String
  | bool value => s!"boolean `{value}`"
  | integer value => s!"integer `{value}`"
  | wideInteger value =>
    if 0 ≤ value then s!"integer `{value}` as u128" else s!"integer `{value}` as i128"
  | float bits => "floating point `" ++ format.layout.text (Float.ofBits bits) ++ "`"
  | string text => "string " ++ Text.quoted text
  | unit => format.unitName
  | option => "Option value"
  | sequence => "sequence"
  | map => "map"
  | enum => "enum"

inductive Cause where
  | invalidType (found : Found) (expected : String)
  | invalidValue (found : Found) (expected : String)
  | invalidLength (length : Nat) (expected : String)
  | unknownVariant (name : String) (expected : List String)
  | missingField (name : String)
  | duplicateField (name : String)
  | invalidAccess (fault : AccessFault)
  | noAlternative (type : String)
  | keptTag
  | endOfStream
  | tooDeep
  | tooManyRepetitions
  deriving DecidableEq, Repr

def alternatives : List String → String
  | [] => "there are no variants"
  | [a] => s!"expected `{a}`"
  | [a, b] => s!"expected `{a}` or `{b}`"
  | names => "expected one of " ++ ", ".intercalate (names.map fun name => s!"`{name}`")

def Cause.message (format : Format) : Cause → String
  | invalidType found expected =>
    "invalid type: " ++ found.describe format ++ ", expected " ++ expected
  | invalidValue found expected =>
    "invalid value: " ++ found.describe format ++ ", expected " ++ expected
  | invalidLength length expected => s!"invalid length {length}, expected {expected}"
  | unknownVariant name expected => s!"unknown variant `{name}`, " ++ alternatives expected
  | missingField name => s!"missing field `{name}`"
  | duplicateField name => s!"duplicate field `{name}`"
  | invalidAccess fault => "Policy error: " ++ fault.message
  | noAlternative type => s!"data did not match any variant of untagged enum {type}"
  | keptTag => "untagged and internally tagged enums do not support enum input"
  | endOfStream => "EOF while parsing a value"
  | tooDeep => "recursion limit exceeded"
  | tooManyRepetitions => "repetition limit exceeded"

inductive Segment where
  | key (name : String)
  | index (position : Nat)
  | unknown
  | referent
  deriving DecidableEq, Repr

/-- The way from the root to a part of a document, as it stands in messages. -/
def Segment.path (segments : List Segment) : String :=
  -- The way to the root itself is a point, and so is the way from there to what a reference leads
  -- to.
  whole (segments.foldl (fun path segment => some (extend path segment)) none)
where
  whole (path : Option String) : String :=
    path.getD "."
  extend (path : Option String) : Segment → String
    | .key name => parent path ++ name
    | .index position => whole path ++ s!"[{position}]"
    | .unknown => parent path ++ "?"
    | .referent => whole path
  parent : Option String → String
    | some path => path ++ "."
    | none => ""

structure Fault where
  cause : Cause
  place : Option (List Segment)
  deriving DecidableEq, Repr

namespace Fault

/-- Whether the cause belongs to a place. -/
def isPlaced : Cause → Bool
  -- The limits of reading do not.
  | .endOfStream | .tooDeep | .tooManyRepetitions => false
  | _ => true

/-- Sets the place, if the fault has one and it is not known yet. -/
def locate (fault : Fault) (place : List Segment) : Fault :=
  match fault.place with
  | some _ => fault
  | none => if isPlaced fault.cause then { fault with place := some place } else fault

def message (format : Format) (fault : Fault) : String :=
  let text := fault.cause.message format
  match fault.place with
  | some place =>
    let path := Segment.path place
    if path = "." then text else path ++ ": " ++ text
  | none => text

end Fault

end Confinement.Document
