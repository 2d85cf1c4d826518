/-! The arguments of the command line.

Options may stand before the command and after it; the one that stands after it wins. Everything
that starts with a dash is an option, up to an argument of two dashes. Arguments are checked from
left to right, and whoever asks for help before the first mistake gets it. A word, or the value of an
option that is an argument of its own, is not checked until something follows it.
-/

set_option autoImplicit false

namespace Confinement.CommandLine

structure Switch where
  letter : Option Char
  name : String
  valued : Bool

inductive Item where
  | word (text : String)
  | joined (name : String) (value : String)
  | parted (name : String) (value : String)
  | wordsOnly

def isDashed (argument : String) : Bool :=
  match argument.toList with
  | '-' :: _ :: _ => true
  | _ => false

def nextValue? (name : String) : List String → Option (Item × List String)
  | value :: rest => if isDashed value then none else some (.parted name value, rest)
  | [] => none

def item? (switches : List Switch) : List String → Option (Item × List String)
  | [] => none
  | argument :: rest =>
    match argument.toList with
    | ['-', '-'] => some (.wordsOnly, rest)
    | '-' :: '-' :: letters =>
      let name := String.ofList (letters.takeWhile (· != '='))
      let attached := letters.dropWhile (· != '=')
      match switches.find? fun switch => switch.name == name with
      | none => none
      | some switch =>
        match switch.valued, attached with
        | true, [] => nextValue? name rest
        | true, _ :: value => some (.joined name (String.ofList value), rest)
        | false, [] => some (.joined name "", rest)
        | false, _ => none
    | '-' :: letter :: letters =>
      match switches.find? fun switch => switch.letter == some letter with
      | none => none
      | some switch =>
        match switch.valued, letters with
        | true, [] => nextValue? switch.name rest
        | true, '=' :: value => some (.joined switch.name (String.ofList value), rest)
        | true, value => some (.joined switch.name (String.ofList value), rest)
        | false, _ => some (.joined switch.name "", rest)
    | _ => some (.word argument, rest)

structure Part where
  options : List (String × String)
  words : List String
  pending : Option Item

namespace Part

def empty : Part := ⟨[], [], none⟩

def value? (part : Part) (name : String) : Option String :=
  (part.options.find? fun option => option.1 == name).map (·.2)

def addOption? (part : Part) (name value : String) : Option Part :=
  -- None may be given twice, and a file has a name.
  if (part.value? name).isSome || (name == "config" && value == "") then none
  else some { part with options := part.options ++ [(name, value)] }

def addWord? (part : Part) (text : String) : Option Part :=
  -- The words are names of files, too.
  if text == "" then none else some { part with words := part.words ++ [text] }

def settle? (part : Part) : Option Part :=
  let settled := { part with pending := none }
  match part.pending with
  | some (.word text) => settled.addWord? text
  | some (.joined name value) | some (.parted name value) => settled.addOption? name value
  | some .wordsOnly | none => some settled

end Part

inductive Reading where
  | part (part : Part)
  | help
  | unusable

def readAll (switches : List Switch) (limit : Nat) : Nat → Bool → Part → List String → Reading
  | 0, _, _, _ => .unusable
  | _ + 1, _, part, [] => (part.settle?).elim .unusable .part
  | fuel + 1, wordsOnly, part, argument :: rest =>
    let next := if wordsOnly then some (.word argument, rest) else item? switches (argument :: rest)
    match next with
    | none => .unusable
    | some (.wordsOnly, rest) => readAll switches limit fuel true part rest
    | some (item, rest) =>
      match part.settle?, item with
      | none, _ => .unusable
      | some part, .joined name value =>
        if name == "help" then .help
        else match part.addOption? name value with
          | none => .unusable
          | some part => readAll switches limit fuel wordsOnly part rest
      | some part, .word _ =>
        if part.words.length < limit then
          readAll switches limit fuel wordsOnly { part with pending := some item } rest
        else .unusable
      | some part, _ => readAll switches limit fuel wordsOnly { part with pending := some item } rest

inductive Command where
  | key (path : String) (follow : Bool)
  | replay (trace : String) (mode : Option String)
  | version
  deriving DecidableEq, Repr

structure Invocation where
  logLevel : String
  config : Option String
  command : Command
  deriving DecidableEq, Repr

inductive Request where
  | run (invocation : Invocation)
  | help
  | programVersion
  | unusable
  deriving DecidableEq, Repr

def helpSwitch : Switch := ⟨some 'h', "help", false⟩

def globalSwitches : List Switch :=
  [⟨some 'l', "log-level", true⟩, ⟨some 'c', "config", true⟩, helpSwitch]

/-- The options and the number of words that a command takes. -/
def commandForm? : String → Option (List Switch × Nat)
  | "key" => some (⟨none, "no-follow", false⟩ :: globalSwitches, 1)
  | "replay" => some (⟨some 'm', "mode", true⟩ :: globalSwitches, 1)
  | "version" => some (globalSwitches, 0)
  | _ => none

def commandOf? (name : String) (part : Part) : Option Command :=
  match name, part.words with
  | "key", [path] => some (.key path (part.value? "no-follow").isNone)
  | "replay", [trace] => some (.replay trace (part.value? "mode"))
  | "version", [] => some .version
  | _, _ => none

/-- Whether there is help on what the arguments name: on nothing, or on one command. -/
def hasHelp : List String → Bool
  | [] => true
  | [name] => name == "help" || (commandForm? name).isSome
  | _ => false

def finish (outer : Part) (name : String) (arguments : List String) : Request :=
  -- What is pending before the name is checked after all of them.
  match commandForm? name with
  | none => if name == "help" && hasHelp arguments then .help else .unusable
  | some (switches, limit) =>
    match readAll switches limit (arguments.length + 1) false .empty arguments with
    | .help => .help
    | .unusable => .unusable
    | .part part =>
      match outer.settle?, commandOf? name part with
      | some outer, some command =>
        let global (option : String) : Option String :=
          (part.value? option).or (outer.value? option)
        .run ⟨(global "log-level").getD "info", global "config", command⟩
      | _, _ => .unusable

/-- Reads the arguments up to the name of the command, and then those that follow it. -/
def read : Nat → Part → List String → Request
  | 0, _, _ => .unusable
  | fuel + 1, outer, arguments =>
    match item? (⟨some 'V', "version", false⟩ :: globalSwitches) arguments with
    | none => .unusable
    | some (.wordsOnly, _) => .unusable
    | some (.word name, rest) => finish outer name rest
    | some (.joined name value, rest) =>
      match outer.settle? with
      | none => .unusable
      | some outer =>
        if name == "help" then .help
        else if name == "version" then .programVersion
        else match outer.addOption? name value with
          | none => .unusable
          | some outer => read fuel outer rest
    | some (.parted name value, rest) =>
      match outer.settle? with
      | none => .unusable
      | some outer => read fuel { outer with pending := some (.parted name value) } rest

def Request.ofArguments (arguments : List String) : Request :=
  read (arguments.length + 1) .empty arguments

end Confinement.CommandLine
