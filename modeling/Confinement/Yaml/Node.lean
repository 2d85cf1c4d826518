import Confinement.Yaml.Token

/-! The tree of values that a YAML text describes.

A node may be given a name, and other places may refer to it by that name. A name stands for a
number, the count of distinct names before it, and a reference leads to the last node of its number.
-/

set_option autoImplicit false

namespace Confinement.Yaml

inductive Node where
  | void
  | alias (target : Nat)
  | scalar (anchor : Option Nat) (tag : Option Tag) (style : Style) (text : String)
  | sequence (anchor : Option Nat) (tag : Option Tag) (items : List Node)
  | mapping (anchor : Option Nat) (tag : Option Tag) (entries : List (Node × Node))
  deriving Repr, Inhabited

namespace Node

mutual

/-- How many steps it takes to go through a node: one for a leaf, and two more than its parts for a
collection. -/
def weight : Node → Nat
  | .void | .alias _ | .scalar .. => 1
  | .sequence _ _ items => 2 + weightOfItems items
  | .mapping _ _ entries => 2 + weightOfEntries entries

def weightOfItems : List Node → Nat
  | [] => 0
  | item :: rest => weight item + weightOfItems rest

def weightOfEntries : List (Node × Node) → Nat
  | [] => 0
  | (key, value) :: rest => weight key + weight value + weightOfEntries rest

end

mutual

/-- The named nodes inside of a node and itself, in the order of the text. -/
def anchored : Node → List (Nat × Node)
  | .void | .alias _ => []
  | .scalar anchor tag style text =>
    anchor.toList.map fun number => (number, .scalar anchor tag style text)
  | .sequence anchor tag items =>
    (anchor.toList.map fun number => (number, .sequence anchor tag items)) ++ anchoredItems items
  | .mapping anchor tag entries =>
    (anchor.toList.map fun number => (number, .mapping anchor tag entries)) ++
      anchoredEntries entries

def anchoredItems : List Node → List (Nat × Node)
  | [] => []
  | item :: rest => anchored item ++ anchoredItems rest

def anchoredEntries : List (Node × Node) → List (Nat × Node)
  | [] => []
  | (key, value) :: rest => anchored key ++ (anchored value ++ anchoredEntries rest)

end

def tag? : Node → Option Tag
  | .void | .alias _ => none
  | .scalar _ tag _ _ | .sequence _ tag _ | .mapping _ tag _ => tag

def ownTag? (node : Node) : Option String :=
  node.tag?.bind Tag.ownName?

end Node

abbrev Names := List (List Char × Nat)

/-- The expansions of tag handles. -/
abbrev Handles := List (List Char × Tag)

namespace Node

abbrev Step (α : Type) := α × List Token × Names

structure Properties where
  anchor : Option Nat
  tag : Option Tag

def nameNode (names : Names) (name : List Char) : Nat × Names :=
  let number := (names.map Prod.fst).eraseDups.length
  (number, (name, number) :: names)

def expandTag? (handles : Handles) (handle : List Char) (suffix : Tag) : Option Tag :=
  if handle.isEmpty then some suffix
  else (handles.find? fun entry => entry.1 = handle).map fun entry => entry.2 ++ suffix

def properties? (handles : Handles) (tokens : List Token) (names : Names) : Option (Step Properties) :=
  match tokens with
  | .anchor name :: .tag handle suffix :: rest | .tag handle suffix :: .anchor name :: rest => do
    let tag ← expandTag? handles handle suffix
    let (number, names) := nameNode names name
    some (⟨some number, some tag⟩, rest, names)
  | .anchor name :: rest =>
    let (number, names) := nameNode names name
    some (⟨some number, none⟩, rest, names)
  | .tag handle suffix :: rest => do
    let tag ← expandTag? handles handle suffix
    some (⟨none, some tag⟩, rest, names)
  | rest => some (⟨none, none⟩, rest, names)

def blank : Node :=
  .scalar none none .plain ""

def endsFlowItem : List Token → Bool
  | .flowEntry :: _ | .flowSequenceEnd :: _ | .flowMappingEnd :: _ => true
  | _ => false

mutual

def node? (handles : Handles) (block unindented : Bool) :
    Nat → List Token → Names → Option (Step Node)
  -- A block node may be a block collection, and in some places a sequence that is not indented.
  | 0, _, _ => none
  | _ + 1, .alias name :: rest, names =>
    (names.find? fun entry => entry.1 = name).map fun entry => (.alias entry.2, rest, names)
  | fuel + 1, tokens, names => do
    let (properties, tokens, names) ← properties? handles tokens names
    let { anchor, tag } := properties
    match tokens with
    | .blockEntry :: _ =>
      if unindented then do
        let (items, rest, names) ← unindentedItems? handles fuel tokens names
        some (.sequence anchor tag items, rest, names)
      else if anchor.isSome || tag.isSome then some (.scalar anchor tag .plain "", tokens, names)
      else none
    | .scalar style text :: rest =>
      some (.scalar anchor tag style (String.ofList text), rest, names)
    | .flowSequenceStart :: rest => do
      let (items, rest, names) ← flowItems? handles true fuel rest names
      some (.sequence anchor tag items, rest, names)
    | .flowMappingStart :: rest => do
      let (entries, rest, names) ← flowEntries? handles true fuel rest names
      some (.mapping anchor tag entries, rest, names)
    | .blockSequenceStart :: rest =>
      if block then do
        let (items, rest, names) ← blockItems? handles fuel rest names
        some (.sequence anchor tag items, rest, names)
      else if anchor.isSome || tag.isSome then some (.scalar anchor tag .plain "", tokens, names)
      else none
    | .blockMappingStart :: rest =>
      if block then do
        let (entries, rest, names) ← blockEntries? handles fuel rest names
        some (.mapping anchor tag entries, rest, names)
      else if anchor.isSome || tag.isSome then some (.scalar anchor tag .plain "", tokens, names)
      else none
    | _ =>
      if anchor.isSome || tag.isSome then some (.scalar anchor tag .plain "", tokens, names)
      else none

def blockItems? (handles : Handles) : Nat → List Token → Names → Option (Step (List Node))
  | 0, _, _ => none
  | fuel + 1, .blockEntry :: rest, names => do
    let (item, rest, names) ←
      match rest with
      | .blockEntry :: _ | .blockEnd :: _ => some (blank, rest, names)
      | _ => node? handles true false fuel rest names
    let (items, rest, names) ← blockItems? handles fuel rest names
    some (item :: items, rest, names)
  | _ + 1, .blockEnd :: rest, names => some ([], rest, names)
  | _ + 1, _, _ => none

def unindentedItems? (handles : Handles) : Nat → List Token → Names → Option (Step (List Node))
  | 0, _, _ => none
  | fuel + 1, .blockEntry :: rest, names => do
    let (item, rest, names) ←
      match rest with
      | .blockEntry :: _ | .key :: _ | .value :: _ | .blockEnd :: _ => some (blank, rest, names)
      | _ => node? handles true false fuel rest names
    let (items, rest, names) ← unindentedItems? handles fuel rest names
    some (item :: items, rest, names)
  | _ + 1, rest, names => some ([], rest, names)

def blockPart? (handles : Handles) : Nat → List Token → Names → Option (Step Node)
  | 0, _, _ => none
  | fuel + 1, tokens, names =>
    match tokens with
    | .key :: _ | .value :: _ | .blockEnd :: _ => some (blank, tokens, names)
    | _ => node? handles true true fuel tokens names

def blockEntries? (handles : Handles) : Nat → List Token → Names → Option (Step (List (Node × Node)))
  | 0, _, _ => none
  | _ + 1, .blockEnd :: rest, names => some ([], rest, names)
  | fuel + 1, tokens, names => do
    let (key, tokens, names) ←
      match tokens with
      | .key :: rest => blockPart? handles fuel rest names
      | _ => none
    let (value, tokens, names) ←
      match tokens with
      | .value :: rest => blockPart? handles fuel rest names
      | _ => some (blank, tokens, names)
    let (entries, tokens, names) ← blockEntries? handles fuel tokens names
    some ((key, value) :: entries, tokens, names)

def flowValue? (handles : Handles) : Nat → List Token → Names → Option (Step Node)
  | 0, _, _ => none
  | fuel + 1, .value :: rest, names =>
    if endsFlowItem rest then some (blank, rest, names)
    else node? handles false false fuel rest names
  | _ + 1, tokens, names => some (blank, tokens, names)

def flowItems? (handles : Handles) (first : Bool) :
    Nat → List Token → Names → Option (Step (List Node))
  -- An item may be a single entry of a mapping.
  | 0, _, _ => none
  | _ + 1, .flowSequenceEnd :: rest, names => some ([], rest, names)
  | fuel + 1, tokens, names => do
    let tokens ←
      if first then some tokens
      else match tokens with
        | .flowEntry :: rest => some rest
        | _ => none
    match tokens with
    | .flowSequenceEnd :: rest => some ([], rest, names)
    | .key :: rest => do
      let (key, rest, names) ←
        match rest with
        | .value :: after => some (blank, after, names)
        | .flowEntry :: after => some (blank, after, names)
        | .flowSequenceEnd :: after => some (blank, after, names)
        | _ => node? handles false false fuel rest names
      let (value, rest, names) ← flowValue? handles fuel rest names
      let (items, rest, names) ← flowItems? handles false fuel rest names
      some (.mapping none none [(key, value)] :: items, rest, names)
    | _ => do
      let (item, rest, names) ← node? handles false false fuel tokens names
      let (items, rest, names) ← flowItems? handles false fuel rest names
      some (item :: items, rest, names)

def flowEntries? (handles : Handles) (first : Bool) :
    Nat → List Token → Names → Option (Step (List (Node × Node)))
  | 0, _, _ => none
  | _ + 1, .flowMappingEnd :: rest, names => some ([], rest, names)
  | fuel + 1, tokens, names => do
    let tokens ←
      if first then some tokens
      else match tokens with
        | .flowEntry :: rest => some rest
        | _ => none
    match tokens with
    | .flowMappingEnd :: rest => some ([], rest, names)
    | .key :: rest => do
      let (key, rest, names) ←
        match rest with
        | .value :: _ | .flowEntry :: _ | .flowMappingEnd :: _ => some (blank, rest, names)
        | _ => node? handles false false fuel rest names
      let (value, rest, names) ← flowValue? handles fuel rest names
      let (entries, rest, names) ← flowEntries? handles false fuel rest names
      some ((key, value) :: entries, rest, names)
    | _ => do
      let (key, rest, names) ← node? handles false false fuel tokens names
      let (entries, rest, names) ← flowEntries? handles false fuel rest names
      some ((key, blank) :: entries, rest, names)

end

end Node

/-- A document with the nodes that its references lead to. -/
structure Graph where
  root : Node
  named : List (Nat × Node)

namespace Graph

def target? (graph : Graph) (number : Nat) : Option Node :=
  (graph.named.find? fun entry => entry.1 = number).map (·.2)

def standardHandles : Handles :=
  [(['!'], Tag.bare), (['!', '!'], Tag.standard "")]

def directives? : List Token → Bool → Handles → Option (Handles × List Token)
  | .version major minor :: rest, versioned, handles =>
    let number (digits : List Char) : Nat :=
      digits.foldl (fun n c => 10 * n + (c.toNat - '0'.toNat)) 0
    if versioned || number major != 1 || (number minor != 1 && number minor != 2) then none
    else directives? rest true handles
  | .tagDirective handle expansion :: rest, versioned, handles =>
    if handles.any fun entry => entry.1 = handle then none
    else directives? rest versioned (handles ++ [(handle, expansion)])
  | rest, _, handles => some (handles, rest)

def onlyEnds : List Token → Bool
  | [] => true
  | .documentEnd :: rest => onlyEnds rest
  | _ => false

def content? (handles : Handles) (explicit : Bool) (tokens : List Token) :
    Option (Node × List Token) :=
  let nothing := match tokens with
    | [] | .version .. :: _ | .tagDirective .. :: _ | .documentStart :: _ | .documentEnd :: _ => true
    | _ => false
  if explicit && nothing then some (Node.blank, tokens)
  else (Node.node? handles true false (4 * tokens.length + 8) tokens []).map
    fun (root, rest, _) => (root, rest)

def ofRoot (root : Node) : Graph :=
  ⟨root, root.anchored.reverse⟩

def ofTokens? (tokens : List Token) : Option Graph := do
  let started := match tokens with
    | .version .. :: _ | .tagDirective .. :: _ | .documentStart :: _ => true
    | _ => false
  if tokens.isEmpty then some (ofRoot .void)
  else
    let (given, rest) ← directives? tokens false []
    let handles := given ++ standardHandles
    let rest ←
      if started then
        match rest with
        | .documentStart :: rest => some rest
        | _ => none
      else some rest
    let (root, rest) ← content? handles started rest
    if onlyEnds rest then some (ofRoot root) else none

def ofText? (text : String) : Option Graph :=
  (Token.ofText? text).bind ofTokens?

end Graph

end Confinement.Yaml
