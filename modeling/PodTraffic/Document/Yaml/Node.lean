import PodTraffic.Collections
import PodTraffic.Document.Yaml.Token

/-!
# YAML nodes

The documents of a stream as trees. An anchor numbers its node by how many names the document has
given before, and an alias refers to the number that its name has there; so a name that is given
again may share its number with a later name.
-/
namespace PodTraffic.Yaml

/-- What may stand before a node: the number of its anchor, and its tag. -/
structure Mark where
  anchor : Option Nat := none
  tag : Option String := none
  deriving DecidableEq, Repr

inductive Node where
  | reference (number : Nat)
  | scalar (mark : Mark) (text : String) (isPlain : Bool)
  | list (mark : Mark) (items : List Node)
  | mapping (mark : Mark) (entries : List (Node × Node))
  deriving Inhabited

namespace Node

/-- What stands where there is nothing. -/
def empty : Node := .scalar {} "" true

def anchor? : Node → Option Nat
  | reference _ => none
  | scalar mark _ _ | list mark _ | mapping mark _ => mark.anchor

mutual

/-- The nodes with an anchor by its number, in the order of their starts. -/
def anchored : Node → List (Nat × Node)
  | .list mark items =>
    (mark.anchor.map (·, .list mark items)).toList ++ anchoredItems items
  | .mapping mark entries =>
    (mark.anchor.map (·, .mapping mark entries)).toList ++ anchoredEntries entries
  | node => (node.anchor?.map (·, node)).toList

def anchoredItems : List Node → List (Nat × Node)
  | [] => []
  | item :: items => item.anchored ++ anchoredItems items

def anchoredEntries : List (Node × Node) → List (Nat × Node)
  | [] => []
  | (key, value) :: entries => key.anchored ++ value.anchored ++ anchoredEntries entries

end

mutual

/-- How large the node is: a list and a mapping count for their start and their end. -/
def weight : Node → Nat
  | .list _ items => weightItems items + 2
  | .mapping _ entries => weightEntries entries + 2
  | _ => 1

def weightItems : List Node → Nat
  | [] => 0
  | item :: items => item.weight + weightItems items

def weightEntries : List (Node × Node) → Nat
  | [] => 0
  | (key, value) :: entries => key.weight + value.weight + weightEntries entries

end

end Node

structure Reading where
  tokens : List Token
  /-- The numbers of the anchors by name. -/
  anchors : Listing Nat := []
  /-- What the handles of tags stand for. -/
  handles : List (String × String) := []

abbrev Reader := StateT Reading Option

namespace Reader

def peek : Reader (Option Token) := return (← get).tokens.head?

def next : Reader Unit := modify fun s => { s with tokens := s.tokens.drop 1 }

def fail : Reader α := StateT.lift none

def newAnchor (name : String) : Reader Nat := do
  let number := (← get).anchors.length
  modify fun s => { s with anchors := Listing.put s.anchors name number }
  return number

/-- A handle must be known. -/
def resolveTag (handle suffix : String) : Reader String := do
  if handle.isEmpty then return suffix
  match (← get).handles.lookup handle with
  | some start => return start ++ suffix
  | none => fail

/-- The anchor and the tag before a node, in any order. -/
def mark : Reader Mark := do
  match (← get).tokens with
  | .anchor a :: .tag handle suffix :: _ | .tag handle suffix :: .anchor a :: _ =>
    next; next
    let tag ← resolveTag handle suffix
    return ⟨some (← newAnchor a), some tag⟩
  | .anchor a :: _ => next; return { anchor := some (← newAnchor a) }
  | .tag handle suffix :: _ => next; return { tag := some (← resolveTag handle suffix) }
  | _ => return {}

/-- A mark that is not empty may stand before nothing. -/
def markedEmpty (mark : Mark) : Reader Node :=
  if mark == {} then fail else return .scalar mark "" true

/-- On a scalar the tag that is a mark alone is none. -/
def scalar (mark : Mark) (text : String) (isPlain : Bool) : Node :=
  .scalar { mark with tag := mark.tag.filter (· != "!") } text isPlain

mutual

/-- A node; `block` tells whether block collections may stand here, `entries` whether a sequence
may stand here without indentation of its own. -/
def node (fuel : Nat) (block entries : Bool) : Reader Node :=
  match fuel with
  | 0 => fail
  | fuel + 1 => do
    match ← peek with
    | some (.reference name) =>
      next
      match (← get).anchors.lookup name with
      | some number => return .reference number
      | none => fail
    | _ => content fuel block entries (← mark)

/-- What stands after the mark. -/
def content (fuel : Nat) (block entries : Bool) (mark : Mark) : Reader Node :=
  match fuel with
  | 0 => fail
  | fuel + 1 => do
    match ← peek with
    | some (.scalar text isPlain) => next; return scalar mark text isPlain
    | some .flowSequence => next; return .list mark (← flowItems fuel true)
    | some .flowMapping => next; return .mapping mark (← flowEntries fuel true)
    | some .entry => if entries then return .list mark (← looseItems fuel) else markedEmpty mark
    | some .blockSequence =>
      if block then next; return .list mark (← blockItems fuel) else markedEmpty mark
    | some .blockMapping =>
      if block then next; return .mapping mark (← blockEntries fuel) else markedEmpty mark
    | _ => markedEmpty mark

/-- A node, or the empty one where one of `stops` comes at once. -/
def nodeUnless (fuel : Nat) (stops : List Token) (block entries : Bool) : Reader Node :=
  match fuel with
  | 0 => fail
  | fuel + 1 => do
    match ← peek with
    | none => fail
    | some t => if stops.contains t then return .empty else node fuel block entries

/-- The node after a colon, if there is one. -/
def valueUnless (fuel : Nat) (stops : List Token) (block entries : Bool) : Reader Node :=
  match fuel with
  | 0 => fail
  | fuel + 1 => do
    if (← peek) = some .value then
      next
      nodeUnless fuel stops block entries
    else return .empty

def blockItems (fuel : Nat) : Reader (List Node) :=
  match fuel with
  | 0 => fail
  | fuel + 1 => do
    match ← peek with
    | some .entry =>
      next
      let item ← nodeUnless fuel [.entry, .blockEnd] true false
      return item :: (← blockItems fuel)
    | some .blockEnd => next; return []
    | _ => fail

def looseItems (fuel : Nat) : Reader (List Node) :=
  match fuel with
  | 0 => fail
  | fuel + 1 => do
    match ← peek with
    | some .entry =>
      next
      let item ← nodeUnless fuel [.entry, .key, .value, .blockEnd] true false
      return item :: (← looseItems fuel)
    | _ => return []

def blockEntries (fuel : Nat) : Reader (List (Node × Node)) :=
  match fuel with
  | 0 => fail
  | fuel + 1 => do
    match ← peek with
    | some .blockEnd => next; return []
    | some .key =>
      next
      let key ← nodeUnless fuel [.key, .value, .blockEnd] true true
      let value ← valueUnless fuel [.key, .value, .blockEnd] true true
      return (key, value) :: (← blockEntries fuel)
    | _ => fail

/-- A key that is marked by itself may be empty; the token that shows this is taken with it. -/
def flowItems (fuel : Nat) (first : Bool) : Reader (List Node) :=
  match fuel with
  | 0 => fail
  | fuel + 1 => do
    if (← peek) = some .flowSequenceEnd then
      next
      return []
    if !first then
      if (← peek) = some .comma then next else fail
    match ← peek with
    | some .flowSequenceEnd => next; return []
    | some .key =>
      next
      let stops := [.value, .comma, .flowSequenceEnd]
      let isEmpty := (← peek).any stops.contains
      let key ← nodeUnless fuel stops false false
      if isEmpty then next
      let value ← valueUnless fuel [.comma, .flowSequenceEnd] false false
      return .mapping {} [(key, value)] :: (← flowItems fuel false)
    | _ =>
      let item ← node fuel false false
      return item :: (← flowItems fuel false)

def flowEntries (fuel : Nat) (first : Bool) : Reader (List (Node × Node)) :=
  match fuel with
  | 0 => fail
  | fuel + 1 => do
    if (← peek) = some .flowMappingEnd then
      next
      return []
    if !first then
      if (← peek) = some .comma then next else fail
    match ← peek with
    | some .flowMappingEnd => next; return []
    | some .key =>
      next
      let key ← nodeUnless fuel [.value, .comma, .flowMappingEnd] false false
      let value ← valueUnless fuel [.comma, .flowMappingEnd] false false
      return (key, value) :: (← flowEntries fuel false)
    | _ =>
      let key ← node fuel false false
      return (key, .empty) :: (← flowEntries fuel false)

end

/-- The handles that every document has unless it gives them another sense. -/
def commonHandles : List (String × String) := [("!", "!"), ("!!", "tag:yaml.org,2002:")]

/-- The directives of a document, each at most once; yields whether there are any. -/
def directives (fuel : Nat) (versioned : Bool) (handles : List (String × String)) : Reader Bool :=
  match fuel with
  | 0 => fail
  | fuel + 1 => do
    match ← peek with
    | some (.version major minor) =>
      next
      if versioned || major != 1 || !(minor == 1 || minor == 2) then fail
      directives fuel true handles
    | some (.tagHandle handle start) =>
      next
      if handles.any (·.1 == handle) then fail
      directives fuel versioned ((handle, start) :: handles)
    | _ =>
      modify fun s => { s with anchors := [], handles := handles ++ commonHandles }
      return versioned || !handles.isEmpty

def dropEnds (fuel : Nat) : Reader Unit :=
  match fuel with
  | 0 => fail
  | fuel + 1 => do
    if (← peek) = some .documentEnd then
      next
      dropEnds fuel

/-- Whether a token ends a document that holds nothing so far. -/
def endsDocument : Option Token → Bool
  | none | some .documentStart | some .documentEnd | some (.version _ _) | some (.tagHandle _ _) =>
    true
  | _ => false

/-- Every document but the first begins with its mark, and only such a document may be empty. -/
def documents (fuel : Nat) (first : Bool) : Reader (List Node) :=
  match fuel with
  | 0 => fail
  | fuel + 1 => do
    if !first then dropEnds fuel
    match ← peek with
    | none => return []
    | some _ =>
      let directed ← directives fuel false []
      let marked := (← peek) = some .documentStart
      if marked then next
      else if !first || directed then fail
      let root ←
        if marked && endsDocument (← peek) then pure .empty else node fuel true false
      if (← peek) = some .documentEnd then next
      return root :: (← documents fuel false)

end Reader

/-- The documents of a stream. -/
def nodes? (text : String) : Option (List Node) := do
  let tokens ← tokens? text
  (·.1) <$> (Reader.documents (8 * tokens.length + 8) true).run { tokens }

end PodTraffic.Yaml
