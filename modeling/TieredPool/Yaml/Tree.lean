import TieredPool.Yaml.Scan

/-!
# The tree of a YAML text

A YAML text holds one document at most: a tree of scalars, sequences and mappings. The tree is read
off the tokens by recursive descent, with a collection's entries in the order of the text. Nodes may
have tags, and anchors by which aliases refer to them.

An alias names the node that bears its anchor, by a number: how many different anchors there were
before it. An anchor that is used again takes a new number, which the next new anchor may take as
well; a number stands for the last node that bears it, even for one that comes after the alias.

`Tree.ofText?` is the tree of a text, if the text holds one.
-/

namespace TieredPool.Yaml

/-- What stands before a node. -/
structure Properties where
  tag : Option Tag := none
  /-- The number of the node's anchor. -/
  anchor : Option Nat := none
deriving DecidableEq, Repr

/-- What a YAML document says. A scalar is its text, and whether it stands without quotes. -/
inductive Tree where
  | scalar (properties : Properties) (text : String) (plain : Bool)
  | sequence (properties : Properties) (items : List Tree)
  | mapping (properties : Properties) (entries : List (Tree × Tree))
  /-- An alias: the node that bears an anchor. -/
  | reference (anchor : Nat)

namespace Tree

/-! ## Nodes -/

/-- The number of the node's anchor. -/
def anchor? : Tree → Option Nat
  | scalar p .. | sequence p _ | mapping p _ => p.anchor
  | reference _ => none

mutual

/-- All nodes of a tree, each before those inside it. -/
def nodes : Tree → List Tree
  | scalar p text plain => [scalar p text plain]
  | reference anchor => [reference anchor]
  | sequence p items => sequence p items :: nodesOfItems items
  | mapping p entries => mapping p entries :: nodesOfEntries entries

def nodesOfItems : List Tree → List Tree
  | [] => []
  | item :: items => nodes item ++ nodesOfItems items

def nodesOfEntries : List (Tree × Tree) → List Tree
  | [] => []
  | (key, value) :: entries => nodes key ++ (nodes value ++ nodesOfEntries entries)

end

/-- How many marks a node takes in the text: a collection has a start and an end. -/
def marks : Tree → Nat
  | scalar .. | reference _ => 1
  | sequence .. | mapping .. => 2

/-- The nodes with anchors, the last one first. -/
def anchored (nodes : List Tree) : List (Nat × Tree) :=
  (nodes.filterMap fun node => node.anchor?.map fun anchor => (anchor, node)).reverse

/-! ## Reading -/

/-- Where nothing is written. -/
def nothing : Tree := .scalar {} "" true

/-- What is known while a document is read. -/
structure Progress where
  tokens : List Token
  /-- The anchors so far, each with its number. -/
  anchors : List (String × Nat) := []
  handles : Tag.Handles := Tag.commonHandles

/-- Reading off the tokens, which may fail. -/
abbrev Reading := StateT Progress (Except Problem)

def take : Reading Unit := modify fun p => { p with tokens := p.tokens.tail }

def next? : Reading (Option Token) := do return (← get).tokens.head?

def nextIn (ts : List Token) : Reading Bool := do return (← next?).any fun t => ts.contains t

/-- What collections may stand in a place besides those in brackets: none, those by indentation, or
with them a sequence whose dashes are indented no further than its key. -/
inductive Surroundings where
  | flow
  | block
  | key
deriving DecidableEq

/-- Gives an anchor its number. -/
def number (name : String) : Reading Nat := do
  let p ← get
  let number := p.anchors.length
  set { p with anchors := (name, number) :: p.anchors.filter fun a => a.1 ≠ name }
  return number

/-- Takes the anchor before a node, if there is one. -/
def takeAnchor : Reading (Option Nat) := do
  let some (.anchor name) ← next? | return none
  take
  some <$> number name

/-- Takes the tag before a node, if there is one. -/
def takeTag : Reading (Option Tag) := do
  let some (.tag handle rest) ← next? | return none
  take
  return some (← Tag.resolve (← get).handles handle rest)

/-- Takes the anchor and the tag before a node, in any order. -/
def takeProperties : Reading Properties := do
  match ← takeAnchor with
  | some anchor => return ⟨← takeTag, some anchor⟩
  | none =>
    let tag ← takeTag
    return ⟨tag, ← takeAnchor⟩

/-- Takes the comma before an entry, unless that is the first. -/
def takeSeparator (first : Bool) : Reading Unit := do
  if first then return
  if !(← nextIn [.separator]) then throw .expectedSeparator
  take

/-- A node of which nothing is written but its properties. There must be some. -/
def empty (p : Properties) : Reading Tree :=
  if p = {} then throw .expectedContent else return .scalar p "" true

mutual

/-- Reads a tree of so many levels at most. A call that takes no token itself is followed by one
that does, so twice as much fuel as there are tokens is enough. -/
def readTree (around : Surroundings) (levels : Nat) : (fuel : Nat) → Reading Tree
  | 0 => throw .tooDeep
  | fuel + 1 => do
    if let some (.reference name) ← next? then
      take
      let some anchor := (← get).anchors.lookup name | throw .unknownAlias
      return .reference anchor
    let p ← takeProperties
    match ← next?, levels with
    | some (.scalar text plain), _ =>
      take
      return .scalar p text plain
    | some .flowSequenceStart, levels + 1 =>
      take
      return .sequence p (← readFlowItems levels true fuel)
    | some .flowMappingStart, levels + 1 =>
      take
      return .mapping p (← readFlowEntries levels true fuel)
    | some .blockSequenceStart, levels + 1 =>
      if around = .flow then throw .expectedContent
      take
      return .sequence p (← readItems levels fuel)
    | some .blockMappingStart, levels + 1 =>
      if around = .flow then throw .expectedContent
      take
      return .mapping p (← readEntries levels fuel)
    | some .flowSequenceStart, 0 | some .flowMappingStart, 0
    | some .blockSequenceStart, 0 | some .blockMappingStart, 0 => throw .tooDeep
    | some .entry, levels =>
      if around ≠ .key then empty p
      else
        match levels with
        | 0 => throw .tooDeep
        | levels + 1 => return .sequence p (← readUnindentedItems levels fuel)
    | _, _ => empty p
termination_by structural fuel => fuel

/-- Reads what follows a dash or a mark, unless nothing is written before one of these tokens. -/
def readUnless (ends : List Token) (around : Surroundings) (levels : Nat) :
    (fuel : Nat) → Reading Tree
  | 0 => throw .tooDeep
  | fuel + 1 => do
    if ← nextIn ends then return nothing
    readTree around levels fuel
termination_by structural fuel => fuel

/-- Reads the items of a sequence by indentation, up to its end. -/
def readItems (levels : Nat) : (fuel : Nat) → Reading (List Tree)
  | 0 => throw .tooDeep
  | fuel + 1 => do
    match ← next? with
    | some .entry =>
      take
      let item ← readUnless [.entry, .blockEnd] .block levels fuel
      return item :: (← readItems levels fuel)
    | some .blockEnd =>
      take
      return []
    | _ => throw .expectedEntry
termination_by structural fuel => fuel

/-- Reads the items of a sequence that is indented no further than its key. -/
def readUnindentedItems (levels : Nat) : (fuel : Nat) → Reading (List Tree)
  | 0 => throw .tooDeep
  | fuel + 1 => do
    if !(← nextIn [.entry]) then return []
    take
    let item ← readUnless [.entry, .key, .value, .blockEnd] .block levels fuel
    return item :: (← readUnindentedItems levels fuel)
termination_by structural fuel => fuel

/-- Reads the entries of a mapping by indentation, up to its end. -/
def readEntries (levels : Nat) : (fuel : Nat) → Reading (List (Tree × Tree))
  | 0 => throw .tooDeep
  | fuel + 1 => do
    match ← next? with
    | some .key =>
      take
      let key ← readUnless [.key, .value, .blockEnd] .key levels fuel
      let value ← readValue [.key, .value, .blockEnd] .key levels fuel
      return (key, value) :: (← readEntries levels fuel)
    | some .blockEnd =>
      take
      return []
    | _ => throw .expectedKey
termination_by structural fuel => fuel

/-- Reads a value after its mark; without the mark there is none. -/
def readValue (ends : List Token) (around : Surroundings) (levels : Nat) :
    (fuel : Nat) → Reading Tree
  | 0 => throw .tooDeep
  | fuel + 1 => do
    if !(← nextIn [.value]) then return nothing
    take
    readUnless ends around levels fuel
termination_by structural fuel => fuel

/-- Reads the key after its mark in a sequence in brackets. Where none is written, the token that
shows so is taken with it. -/
def readFlowKey (levels : Nat) : (fuel : Nat) → Reading Tree
  | 0 => throw .tooDeep
  | fuel + 1 => do
    if ← nextIn [.value, .separator, .flowSequenceEnd] then
      take
      return nothing
    readTree .flow levels fuel
termination_by structural fuel => fuel

/-- Reads the items of a sequence in brackets, up to its end. An entry with a mark of its own is a
mapping of one entry. -/
def readFlowItems (levels : Nat) (first : Bool) : (fuel : Nat) → Reading (List Tree)
  | 0 => throw .tooDeep
  | fuel + 1 => do
    if !(← nextIn [.flowSequenceEnd]) then takeSeparator first
    match ← next?, levels with
    | some .flowSequenceEnd, _ =>
      take
      return []
    | some .key, inner + 1 =>
      take
      let key ← readFlowKey inner fuel
      let value ← readValue [.separator, .flowSequenceEnd] .flow inner fuel
      return .mapping {} [(key, value)] :: (← readFlowItems levels false fuel)
    | _, _ =>
      let item ← readTree .flow levels fuel
      return item :: (← readFlowItems levels false fuel)
termination_by structural fuel => fuel

/-- Reads the entries of a mapping in braces, up to its end. -/
def readFlowEntries (levels : Nat) (first : Bool) : (fuel : Nat) → Reading (List (Tree × Tree))
  | 0 => throw .tooDeep
  | fuel + 1 => do
    if !(← nextIn [.flowMappingEnd]) then takeSeparator first
    match ← next? with
    | some .flowMappingEnd =>
      take
      return []
    | some .key =>
      take
      let key ← readUnless [.value, .separator, .flowMappingEnd] .flow levels fuel
      let value ← readValue [.separator, .flowMappingEnd] .flow levels fuel
      return (key, value) :: (← readFlowEntries levels false fuel)
    | _ =>
      let key ← readTree .flow levels fuel
      return (key, nothing) :: (← readFlowEntries levels false fuel)
termination_by structural fuel => fuel

end

/-- Collections are nested no deeper than this. -/
def levelLimit : Nat := 128

/-- Reads the directives before a document: one version at most, and handles that differ. -/
def readDirectives (versioned : Bool) (handles : Tag.Handles) :
    List Token → Except Problem (Tag.Handles × List Token)
  | .version major minor :: rest => do
    if versioned then throw .repeatedDirective
    if major ≠ 1 || (minor ≠ 1 && minor ≠ 2) then throw .wrongVersion
    readDirectives true handles rest
  | .handle name start :: rest => do
    if (handles.lookup name).isSome then throw .repeatedDirective
    readDirectives versioned ((name, start) :: handles) rest
  | tokens => .ok (handles, tokens)

def isBetweenDocuments : Token → Bool
  | .version .. | .handle .. | .documentStart | .documentEnd => true
  | _ => false

/-- Reads the document at the start of the tokens, if there is one. -/
def readDocument (fuel : Nat) : Reading (Option Tree) := do
  let p ← get
  if p.tokens.isEmpty then return none
  let (handles, tokens) ← readDirectives false [] p.tokens
  set { p with tokens, handles := handles ++ Tag.commonHandles }
  if tokens.head? = some .documentStart then
    take
    if (← next?).all isBetweenDocuments then return none
  else if tokens.length < p.tokens.length then throw .badDirective
  some <$> readTree .block levelLimit fuel

/-- The tree of the one document of the tokens, if there is one. -/
def ofTokens? (tokens : List Token) : Except Problem (Option Tree) := do
  let (tree, p) ← (readDocument (3 * tokens.length + 3)).run { tokens }
  if (p.tokens.dropWhile (· == .documentEnd)).isEmpty then return tree
  throw .severalDocuments

def ofText? (text : String) : Except Problem (Option Tree) := do
  ofTokens? (← Token.ofText text)

end Tree

end TieredPool.Yaml
