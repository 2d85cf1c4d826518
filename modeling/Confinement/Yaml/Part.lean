import Confinement.Document.Record
import Confinement.Yaml.Node
import Confinement.Yaml.Plain

/-! Reading from YAML documents.

What a scalar means depends on what is asked of it: the same text may be an integer for one field and
a text for another. References are followed when they are met, so a part may be read many times.
-/

set_option autoImplicit false

namespace Confinement.Yaml

open Document (Cause Decoder Found Member Segment Source Value)

/-- A part of a document, with the way to it, and how many collections may still be entered. -/
structure Part where
  graph : Graph
  node : Node
  place : List Segment
  depth : Nat

namespace Part

def root (graph : Graph) : Part :=
  ⟨graph, graph.root, [], 128⟩

/-- How many references may be followed in a document. -/
def stepLimit (graph : Graph) : Nat :=
  100 * graph.root.weight

def follow (part : Part) : Decoder Part :=
  match part.node with
  | .alias number => do
    Decoder.step
    match part.graph.target? number with
    | some node => pure { part with node, place := part.place ++ [.referent] }
    | none => Decoder.fail .endOfStream
  | _ => pure part

def scalarMeaning (tag : Option Tag) (style : Style) (text : String) :
    Except Cause Plain.Meaning :=
  let letters := text.toList
  let itself : Plain.Meaning := .value (.string text)
  let wrong (expected : String) : Except Cause Plain.Meaning :=
    .error (.invalidValue (.string text) expected)
  match tag with
  | none => .ok (if style = .plain then Plain.meaning letters else itself)
  | some tag =>
    if tag = Tag.standard "bool" then
      match Plain.bool? letters with
      | some b => .ok (.value (.bool b))
      | none => wrong "a boolean"
    else if tag = Tag.standard "int" then
      match Plain.number? letters with
      | some (.unsigned n) => .ok (.value (.unsigned n.toUInt64))
      | some (.signed n) => .ok (.value (.signed (Int64.ofInt (-(n : Int)))))
      | some (.wide n) => .ok (.wide n)
      | none => wrong "an integer"
    else if tag = Tag.standard "float" then
      match Plain.float? letters with
      | some x => .ok (.value (.float x.toBits))
      | none => wrong "a float"
    else if tag = Tag.standard "null" then
      if Plain.isNull letters then .ok (.value .unit) else wrong "null"
    else if tag.isOwn ∧ style = .plain then .ok (Plain.meaning letters)
    else .ok itself

def mismatchCause (node : Node) (expected : String) : Cause :=
  match node with
  | .void | .alias _ => .endOfStream
  | .scalar _ tag style text =>
    match scalarMeaning tag style text with
    | .ok (.value value) => .invalidType value.found expected
    | .ok (.wide n) => .invalidType (.wideInteger n) expected
    | .error cause => cause
  | .sequence .. => .invalidType .sequence expected
  | .mapping .. => .invalidType .map expected

def mismatch {α : Type} (node : Node) (expected : String) : Decoder α :=
  Decoder.fail (mismatchCause node expected)

/-- Whether a scalar may be read as a standard type. -/
def readsAs (name : String) (tag : Option Tag) (style : Style) : Bool :=
  style == .plain || (style == .literal && tag == some (Tag.standard name))

def isNothing : Node → Bool
  | .void => true
  | .scalar _ _ style text => style == .plain && text.isEmpty
  | _ => false

def integer (low high : Int) (name : String) (part : Part) : Decoder Int :=
  Decoder.within part.place do
    let { node, .. } ← part.follow
    match node with
    | .scalar _ tag style text =>
      let bounded (n : Int) : Decoder Int :=
        if low ≤ n ∧ n ≤ high then pure n else Decoder.fail (.invalidValue (.integer n) name)
      if readsAs "int" tag style then
        match Plain.number? text.toList with
        | some (.unsigned n) => bounded n
        | some (.signed n) => if low < 0 then bounded (-(n : Int)) else mismatch node name
        | _ => mismatch node name
      else mismatch node name
    | _ => mismatch node name

def bool (part : Part) : Decoder Bool :=
  Decoder.within part.place do
    let { node, .. } ← part.follow
    match node with
    | .scalar _ tag style text =>
      match if readsAs "bool" tag style then Plain.bool? text.toList else none with
      | some b => pure b
      | none => mismatch node "a boolean"
    | _ => mismatch node "a boolean"

def text (expected : String) (part : Part) : Decoder String :=
  Decoder.within part.place do
    match (← part.follow).node with
    | .scalar _ _ _ text => pure text
    | node => mismatch node expected

def optional (part : Part) : Decoder (Option Part) := do
  let part ← part.follow
  let present := some part
  match part.node with
  | .void => pure none
  | .scalar _ tag style text =>
    if style ≠ .plain then pure present
    else match tag with
      | none => pure (if text.isEmpty || Plain.isNull text.toList then none else present)
      | some tag =>
        if tag = Tag.standard "null" then
          if Plain.isNull text.toList then pure none
          else Decoder.fail (.invalidValue (.string text) "null")
        else pure present
  | _ => pure present

def placeOf (place : List Segment) : Node → List Segment
  | .scalar _ _ _ text => place ++ [.key text]
  | _ => place ++ [.unknown]

def itemParts (part : Part) (depth : Nat) (items : List Node) : List Part :=
  (items.zipIdx).map fun (node, position) =>
    { part with node, depth, place := part.place ++ [.index position] }

def entryParts (part : Part) (depth : Nat) (entry : Node × Node) : Part × Part :=
  ({ part with node := entry.1, depth },
    { part with node := entry.2, depth, place := placeOf part.place entry.1 })

def enter {α : Type} (part : Part) (visit : Nat → Decoder α) : Decoder α :=
  match part.depth with
  | 0 => Decoder.fail .tooDeep
  | depth + 1 => visit depth

def items {α : Type} (expected : String) (part : Part) (visit : List Part → Decoder α) :
    Decoder α :=
  Decoder.within part.place do
    let part ← part.follow
    match part.node with
    | .sequence _ _ items => part.enter fun depth => visit (part.itemParts depth items)
    | node => if isNothing node then visit [] else mismatch node expected

/-- An entry of a mapping as a member of a record. -/
def member (entry : Part × Part) : Member Part where
  field names := do
    let name ← entry.1.text "field identifier"
    pure (if names.contains name then some name else none)
  value := entry.2

def members {α : Type} (expected : String) (part : Part)
    (visit : List (Member Part) → Decoder α) : Decoder α :=
  Decoder.within part.place do
    let part ← part.follow
    match part.node with
    | .mapping _ _ entries =>
      part.enter fun depth => visit (entries.map fun entry => member (part.entryParts depth entry))
    | node => if isNothing node then visit [] else mismatch node expected

def known (names : List String) (name : String) : Decoder String :=
  if names.contains name then pure name else Decoder.fail (.unknownVariant name names)

def nothingElse (part : Part) : Decoder Unit :=
  Decoder.within part.place do
    match part.node with
    | .scalar _ _ style text =>
      if style = .plain ∧ (text.isEmpty ∨ Plain.isNull text.toList) then pure ()
      else Decoder.fail (.invalidValue (.string text) "null")
    | node => mismatch node "unit"

/-- A choice that is made at the part itself: a text, or a tag of the document's own before nothing.
-/
def choiceHere (names : List String) (part : Part) : Decoder String :=
  -- An unknown name in a tag has no place.
  match part.node.ownTag?, part.node with
  | some tag, _ => do
    let name ← known names tag
    part.nothingElse
    pure name
  | none, .scalar _ _ _ text => Decoder.within part.place (known names text)
  | none, .sequence .. => untagged .sequence
  | none, .mapping .. => untagged .map
  | none, .void | none, .alias _ => Decoder.fail .endOfStream
where
  untagged (found : Found) : Decoder String :=
    Decoder.within part.place
      (Decoder.fail (.invalidType found "a YAML tag starting with '!'"))

def choice (names : List String) (part : Part) : Decoder String :=
  match part.node with
  | .alias _ => Decoder.within part.place do choiceHere names (← part.follow)
  | _ => choiceHere names part

def keepNode (graph : Graph) (expected : String) :
    Nat → List Segment → Node → Decoder Value
  | depth, place, node =>
    Decoder.within place do
      let { node, place, .. } ← follow ⟨graph, node, place, depth⟩
      match node, depth with
      | .void, _ | .alias _, _ => pure .absent
      | .scalar _ tag style text, _ =>
        if node.ownTag?.isSome then Decoder.fail .keptTag
        else match scalarMeaning tag style text with
          | .ok (.value value) => pure value
          | .ok (.wide n) => Decoder.fail (.invalidType (.wideInteger n) expected)
          | .error cause => Decoder.fail cause
      | .sequence _ _ items, depth =>
        if node.ownTag?.isSome then Decoder.fail .keptTag
        else match depth with
          | 0 => Decoder.fail .tooDeep
          | depth + 1 => do
            let values ← Decoder.forEach (fun position item =>
              keepNode graph "any value" depth (place ++ [.index position]) item) 0 items
            pure (.sequence values)
      | .mapping _ _ entries, depth =>
        if node.ownTag?.isSome then Decoder.fail .keptTag
        else match depth with
          | 0 => Decoder.fail .tooDeep
          | depth + 1 => do
            let values ← Decoder.forEach (fun _ (entry : Node × Node) => do
              let key ← keepNode graph "any value" depth place entry.1
              let value ← keepNode graph "any value" depth (placeOf place entry.1) entry.2
              pure (key, value)) 0 entries
            pure (.map values)

def keep (expected : String) (part : Part) : Decoder Value :=
  keepNode part.graph expected part.depth part.place part.node

def splitTag (tag : String) (names : List String) :
    List (Part × Part) → Option String → List (Value × Value) →
      Decoder (Option String × List (Value × Value))
  | [], chosen, others => pure (chosen, others.reverse)
  | (key, value) :: rest, chosen, others => do
    let name ← key.keep s!"a type tag `{tag}` or any other value"
    let isTag := match name with
      | .string text => text == tag
      | _ => false
    if isTag then
      if chosen.isSome then Decoder.fail (.duplicateField tag)
      else do
        let chosen ← Decoder.within value.place do
          known names (← value.text "variant identifier")
        splitTag tag names rest (some chosen) others
    else do
      let content ← value.keep "any value"
      splitTag tag names rest chosen ((name, content) :: others)

def tagged (expected tag : String) (names : List String) (part : Part) :
    Decoder (String × Value) :=
  Decoder.within part.place do
    let part ← part.follow
    if part.node.ownTag?.isSome then Decoder.fail (.invalidType .enum expected)
    else match part.node with
      | .mapping _ _ entries => part.enter fun depth => do
        match ← splitTag tag names (entries.map (part.entryParts depth)) none [] with
        | (some chosen, others) => pure (chosen, .map others)
        | (none, _) => Decoder.fail (.missingField tag)
      | .sequence _ _ items => part.enter fun depth => do
        match part.itemParts depth items with
        | [] => Decoder.fail (.missingField tag)
        | first :: rest => do
          let chosen ← Decoder.within first.place do
            known names (← first.text "variant identifier")
          let others ← Decoder.forEach (fun _ item => item.keep "any value") 0 rest
          pure (chosen, .sequence others)
      | .void => Decoder.fail (.invalidType .option expected)
      | node => mismatch node expected

instance : Source Part where
  integer := integer
  bool := bool
  text := text
  optional := optional
  items := items
  members expected _ part visitMembers _ := members expected part visitMembers
  choice := choice
  tagged := tagged
  keep := keep "any value"

end Part

def Graph.read {α : Type} (graph : Graph) (decode : Part → Decoder α) :
    Except Document.Fault α :=
  (decode (.root graph)).run (Part.stepLimit graph)

end Confinement.Yaml
