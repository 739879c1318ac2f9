import Gatehouse.Yaml.Lexer

/-!
# Nodes

A document is a tree of scalars, sequences and mappings. Nodes may bear tags and anchors; an alias
stands for the node that bears its anchor, the latest before it. An alias inside of the very node
that it stands for has no end.
-/

namespace Gatehouse.Yaml

structure Scalar where
  text : String
  style : Style := .plain
  tag : Option String := none
  deriving DecidableEq, Repr

inductive Node
  | scalar (s : Scalar)
  | sequence (tag : Option String) (items : List Node)
  | mapping (tag : Option String) (entries : List (Node × Node))
  | alias (target : Node)
  /-- An alias inside of the node that it stands for. -/
  | endless
  deriving Inhabited

/-- The scalar that is left out. -/
def Node.empty : Node := .scalar { text := "" }

mutual

/-- How many marks it takes to write a node: one for a scalar or an alias, two around all others. -/
def Node.weight : Node → Nat
  | .scalar _ | .alias _ | .endless => 1
  | .sequence _ items => 2 + Node.itemsWeight items
  | .mapping _ entries => 2 + Node.entriesWeight entries

def Node.itemsWeight : List Node → Nat
  | [] => 0
  | n :: rest => n.weight + Node.itemsWeight rest

def Node.entriesWeight : List (Node × Node) → Nat
  | [] => 0
  | (k, v) :: rest => k.weight + v.weight + Node.entriesWeight rest

end

inductive Stream
  | empty
  | document (root : Node)

structure Builder where
  tokens : List Token
  /-- The anchors in order, with their nodes as far as these are complete. -/
  anchors : Array (String × Option Node) := #[]
  /-- The handles of tags and what they stand for. -/
  handles : List (String × String) := []

namespace Builder

abbrev Build := StateT Builder Option

def peek : Build (Option Token) := do return (← get).tokens.head?

def drop : Build Unit := modify fun b => { b with tokens := b.tokens.drop 1 }

def sees (ts : List Token) : Build Bool := do return (← peek).any ts.contains

def fail {α : Type} : Build α := failure

/-- The full form of a tag. -/
def resolveTag (handle rest : String) : Build String := do
  if handle = "" then return rest
  match (← get).handles.lookup handle with
  | some start => return start ++ rest
  | none => fail

/-- An anchor or a tag, in either order. -/
structure Marks where
  anchor : Option String := none
  tag : Option (String × String) := none

def readMark (m : Marks) : Build Marks := do
  match ← peek with
  | some (.anchor name) =>
    if m.anchor.isNone then drop; return { m with anchor := some name } else return m
  | some (.tag handle rest) =>
    if m.tag.isNone then drop; return { m with tag := some (handle, rest) } else return m
  | _ => return m

def readMarks : Build Marks := do readMark (← readMark {})

/-- Notes an anchor; its node is not complete yet. -/
def openAnchor (name : Option String) : Build (Option Nat) := do
  match name with
  | none => return none
  | some name =>
    let b ← get
    set { b with anchors := b.anchors.push (name, none) }
    return some b.anchors.size

/-- Completes the node of an anchor. -/
def closeAnchor (place : Option Nat) (n : Node) : Build Node := do
  match place with
  | none => return n
  | some i =>
    modify fun b => { b with anchors := b.anchors.modify i fun a => (a.1, some n) }
    return n

def resolveAlias (name : String) : Build Node := do
  match (← get).anchors.toList.reverse.lookup name with
  | none => fail
  | some none => return .endless
  | some (some n) => return .alias n

mutual

/-- A node. Blocks may begin outside of brackets only; `indentless` tells whether a sequence may
begin without a block of its own. -/
def node : (fuel : Nat) → (block indentless : Bool) → Build Node
  | 0, _, _ => fail
  | fuel + 1, block, indentless => do
    match ← peek with
    | some (.alias name) => do
      drop
      resolveAlias name
    | _ => do
      let marks ← readMarks
      let tag ← match marks.tag with
        | none => pure none
        | some (handle, rest) => pure (some (← resolveTag handle rest))
      let place ← openAnchor marks.anchor
      match ← peek with
      | some .blockEntry =>
        if indentless then closeAnchor place (.sequence tag (← indentlessItems fuel))
        else bare marks tag place
      | some (.scalar text style) => do
        drop
        closeAnchor place (.scalar ⟨text, style, tag⟩)
      | some .flowSequenceStart => do
        drop
        closeAnchor place (.sequence tag (← flowItems fuel true))
      | some .flowMappingStart => do
        drop
        closeAnchor place (.mapping tag (← flowEntries fuel true))
      | some .blockSequenceStart =>
        if block then
          drop
          closeAnchor place (.sequence tag (← blockItems fuel))
        else bare marks tag place
      | some .blockMappingStart =>
        if block then
          drop
          closeAnchor place (.mapping tag (← blockEntries fuel))
        else bare marks tag place
      | _ => bare marks tag place

/-- A node that is nothing but its marks. -/
def bare (marks : Marks) (tag : Option String) (place : Option Nat) : Build Node :=
  if marks.anchor.isSome ∨ tag.isSome then closeAnchor place (.scalar { text := "", tag }) else fail

/-- A node, or the empty scalar before one of some tokens. -/
def nodeBefore (fuel : Nat) (block indentless : Bool) (ends : List Token) : Build Node :=
  match fuel with
  | 0 => fail
  | fuel + 1 => do if ← sees ends then return .empty else node fuel block indentless

def blockItems : (fuel : Nat) → Build (List Node)
  | 0 => fail
  | fuel + 1 => do
    match ← peek with
    | some .blockEntry => do
      drop
      let n ← nodeBefore fuel true false [.blockEntry, .blockEnd]
      return n :: (← blockItems fuel)
    | some .blockEnd => do
      drop
      return []
    | _ => fail

/-- The items of a sequence that has no block of its own. -/
def indentlessItems : (fuel : Nat) → Build (List Node)
  | 0 => fail
  | fuel + 1 => do
    match ← peek with
    | some .blockEntry => do
      drop
      let n ← nodeBefore fuel true false [.blockEntry, .key, .value, .blockEnd]
      return n :: (← indentlessItems fuel)
    | _ => return []

/-- The value of an entry, if there is one. -/
def valueBefore (fuel : Nat) (block indentless : Bool) (ends : List Token) : Build Node :=
  match fuel with
  | 0 => fail
  | fuel + 1 => do
    if ← sees [.value] then
      drop
      nodeBefore fuel block indentless ends
    else return .empty

def blockEntries : (fuel : Nat) → Build (List (Node × Node))
  | 0 => fail
  | fuel + 1 => do
    match ← peek with
    | some .key => do
      drop
      let k ← nodeBefore fuel true true [.key, .value, .blockEnd]
      let v ← valueBefore fuel true true [.key, .value, .blockEnd]
      return (k, v) :: (← blockEntries fuel)
    | some .blockEnd => do
      drop
      return []
    | _ => fail

def comma (first : Bool) : Build Unit := do
  if ¬ first then
    if ← sees [.flowEntry] then drop else fail

/-- The items of a sequence in brackets. An entry of a mapping may stand for a mapping. -/
def flowItems : (fuel : Nat) → (first : Bool) → Build (List Node)
  | 0, _ => fail
  | fuel + 1, first => do
    if ← sees [.flowSequenceEnd] then
      drop
      return []
    comma first
    match ← peek with
    | some .flowSequenceEnd => do
      drop
      return []
    | some .key => do
      drop
      let ends := [Token.value, .flowEntry, .flowSequenceEnd]
      let bareKey ← sees ends
      let k ← nodeBefore fuel false false ends
      if bareKey then drop
      let v ← valueBefore fuel false false [.flowEntry, .flowSequenceEnd]
      return .mapping none [(k, v)] :: (← flowItems fuel false)
    | _ => do
      let n ← node fuel false false
      return n :: (← flowItems fuel false)

def flowEntries : (fuel : Nat) → (first : Bool) → Build (List (Node × Node))
  | 0, _ => fail
  | fuel + 1, first => do
    if ← sees [.flowMappingEnd] then
      drop
      return []
    comma first
    match ← peek with
    | some .flowMappingEnd => do
      drop
      return []
    | some .key => do
      drop
      let k ← nodeBefore fuel false false [.value, .flowEntry, .flowMappingEnd]
      let v ← valueBefore fuel false false [.flowEntry, .flowMappingEnd]
      return (k, v) :: (← flowEntries fuel false)
    | _ => do
      let k ← node fuel false false
      return (k, .empty) :: (← flowEntries fuel false)

end

def standardHandles : List (String × String) := [("!", "!"), ("!!", "tag:yaml.org,2002:")]

/-- The directives before a document: at most one version, of the format's own, and each handle at
most once. -/
def directives : (fuel : Nat) → (versioned : Bool) → (handles : List (String × String)) → Build Bool
  | 0, _, _ => fail
  | fuel + 1, versioned, handles => do
    match ← peek with
    | some (.version major minor) => do
      if versioned ∨ major ≠ 1 ∨ ¬ (minor = 1 ∨ minor = 2) then fail
      drop
      directives fuel true handles
    | some (.handle name start) => do
      if (handles.lookup name).isSome then fail
      drop
      directives fuel versioned (handles ++ [(name, start)])
    | _ => do
      modify fun b => { b with handles := handles ++ standardHandles }
      return versioned ∨ handles ≠ []

def dropEnds : (fuel : Nat) → Build Unit
  | 0 => return
  | fuel + 1 => do
    if ← sees [.documentEnd] then
      drop
      dropEnds fuel

def root (fuel : Nat) : Build Node := do
  match ← peek with
  | none | some .documentStart | some .documentEnd | some (.version ..) | some (.handle ..) =>
    return .empty
  | _ => node fuel true false

/-- The document of a text, of which there may be no more than one. -/
def stream (fuel : Nat) : Build Stream := do
  if (← peek).isNone then return .empty
  let declared ← directives fuel false []
  let explicit ← sees [.documentStart]
  if declared ∧ ¬ explicit then fail
  let n ←
    if explicit then do
      drop
      root fuel
    else node fuel true false
  dropEnds fuel
  if (← peek).isSome then fail
  return .document n

end Builder

def Stream.ofText? (text : String) : Option Stream := do
  let tokens ← Lexer.tokens? text.toList
  let (s, _) ← (Builder.stream (4 * tokens.length + 8)).run { tokens }
  return s

end Gatehouse.Yaml
