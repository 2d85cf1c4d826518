import Confinement.Document.Fault
import Confinement.Errno
import Confinement.Text.Numeral

/-! Everything that can go wrong, by cause, and the wording of each cause.

Misses while a call is decided are no errors: the call is then allowed.
-/

set_option autoImplicit false

namespace Confinement

inductive FileFault where
  | system (errno : Errno)
  | nulInName
  | notText
  | other (text : String)
  deriving DecidableEq, Repr

def FileFault.message : FileFault → String
  | system errno => errno.report
  | nulInName => "file name contained an unexpected NUL byte"
  | notText => "stream did not contain valid UTF-8"
  | other text => text

inductive ConfigFault where
  | unknownMode (name : String)
  | unreadable (path : String) (fault : FileFault)
  | malformed
  | document (fault : Document.Fault)
  | noShards
  | noProfiles
  | tooManyProfiles (count : Nat)
  | noChannelCapacity
  | other (text : String)
  deriving DecidableEq, Repr

def ConfigFault.message : ConfigFault → String
  | unknownMode name =>
    s!"unknown enforcement mode '{name}', expected 'enforcing' or 'audit'"
  | unreadable path fault => s!"failed to read {path}: " ++ fault.message
  | malformed => "YAML parsing error: the text is not well-formed"
  | document fault => "YAML parsing error: " ++ fault.message .yaml
  | noShards => "table_shards must be at least 1"
  | noProfiles => "max_profiles must be at least 1"
  | tooManyProfiles count => s!"max_profiles {count} exceeds the dispatch index range"
  | noChannelCapacity => "channel_capacity must be at least 1"
  | other text => text

inductive TraceFault where
  | malformed
  | document (fault : Document.Fault)
  | inFile (path : String) (fault : TraceFault)
  | value (fault : Document.Fault)
  | ambiguousIdentity (index : UInt32)
  | other (text : String)
  deriving DecidableEq, Repr

def TraceFault.message : TraceFault → String
  | malformed => "the text is not well-formed"
  | document fault => fault.message .yaml
  | inFile path fault => s!"{path}: " ++ fault.message
  | value fault => "JSON error: " ++ fault.message .json
  | ambiguousIdentity index =>
    s!"profile at index {index} needs exactly one of key, device+inode or path"
  | other text => text

inductive PolicyFault where
  | access (fault : AccessFault)
  | reservedKey
  | unidentified (path : String) (fault : FileFault)
  | wideDevice (device : UInt64) (path : String)
  | other (text : String)
  deriving DecidableEq, Repr

def PolicyFault.message : PolicyFault → String
  | access fault => fault.message
  | reservedKey => "profile key 0 is reserved for unconfined processes"
  | unidentified path fault => s!"cannot stat executable {path}: " ++ fault.message
  | wideDevice device path =>
    "device number " ++ Text.hexNumber device.toNat ++ s!" of {path} does not fit a profile key"
  | other text => text

inductive SignalFault where
  | outOfRange (tid : UInt32)
  | system (errno : Errno)
  | other (text : String)
  deriving DecidableEq, Repr

def SignalFault.message : SignalFault → String
  | outOfRange tid => s!"task id {tid} out of range"
  | system errno => errno.describe
  | other text => text

inductive Error where
  | io (fault : FileFault)
  | config (fault : ConfigFault)
  | capacity (table : String) (capacity : Nat)
  | dispatchIndex (index : UInt32) (limit : Nat)
  | trace (fault : TraceFault)
  | policy (fault : PolicyFault)
  | signal (fault : SignalFault)
  deriving DecidableEq, Repr

namespace Error

def message : Error → String
  | io fault => "IO error: " ++ fault.message
  | config fault => "Config error: " ++ fault.message
  | capacity table size => s!"Capacity error: {table} table is full (capacity {size})"
  | dispatchIndex index limit =>
    s!"Dispatch error: index {index} is outside the dispatch table (length {limit})"
  | trace fault => "Trace error: " ++ fault.message
  | policy fault => "Policy error: " ++ fault.message
  | signal fault => "Signal error: " ++ fault.message

def source? : Error → Option String
  | io fault => some fault.message
  | _ => none

end Error

end Confinement
