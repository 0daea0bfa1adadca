import Amalgam.Yaml.Resolve
import Amalgam.Yaml.Scan
/-!
# Nodes of a YAML document

The graph that tokens describe. A node is known by its place in the graph, so that an alias can lead to a node a second
time, and even to one that it is part of. Every node has a tag: the one it was given, or the one that follows from its
kind and, for a plain scalar, from its text.
-/

namespace Amalgam.Yaml

/-- What a node holds; parts are given by their places. -/
inductive Content
  | scalar (text : String)
  | sequence (items : List Nat)
  | mapping (pairs : List (Nat × Nat))
deriving DecidableEq, Repr, Inhabited

structure Node where
  tag : String
  content : Content
deriving DecidableEq, Repr, Inhabited

/-- Nodes by their places. -/
abbrev Graph := Array Node

/-- The tokens still to read and what has been read of the document so far. -/
structure Reading where
  tokens : List Token
  /-- Why there are no more tokens than these. -/
  fault : Option Fault
  handles : List (String × String) := []
  anchors : List (String × Nat) := []
  nodes : Graph := #[]

/-- A part of reading that may meet a fault. -/
abbrev Reader := StateT Reading (Except Fault)

namespace Reader

/-- The next token; the fault that ended scanning is met here. -/
def head : Reader Token := do
  let r ← get
  match r.tokens with
  | t :: _ => return t
  | [] => throw (r.fault.getD .malformed)

def advance : Reader Unit :=
  modify fun r => { r with tokens := r.tokens.drop 1 }

def isAt (ts : List Token) : Reader Bool :=
  return ts.contains (← head)

def place (tag : String) (content : Content) : Reader Nat :=
  modifyGet fun r => (r.nodes.size, { r with nodes := r.nodes.push ⟨tag, content⟩ })

/-- A new node for what stands where nothing is written. -/
def nothing : Reader Nat :=
  place (standard "null") (.scalar "")

def name (anchor : Option String) (node : Nat) : Reader Unit :=
  modify fun r => { r with anchors := (anchor.map fun a => (a, node)).toList ++ r.anchors }

def fill (node : Nat) (content : Content) : Reader Unit :=
  modify fun r => { r with nodes := r.nodes.modify node fun n => { n with content := content } }

end Reader

open Reader

/-- An anchor and a tag in either order. -/
def properties : Reader (Option String × Option (Option String × String)) := do
  match ← head with
  | .anchor a =>
    advance
    match ← head with
    | .tag h s =>
      advance
      return (some a, some (h, s))
    | _ => return (some a, none)
  | .tag h s =>
    advance
    match ← head with
    | .anchor a =>
      advance
      return (some a, some (h, s))
    | _ => return (none, some (h, s))
  | _ => return (none, none)

def fullTag (handles : List (String × String)) : Option (Option String × String) → Except Fault (Option String)
  | none => .ok none
  | some (none, suffix) => .ok (some suffix)
  | some (some handle, suffix) =>
    match handles.lookup handle with
    | some start => .ok (some (start ++ suffix))
    | none => .error .malformed

def scalarTag (tag : Option String) (plain : Bool) (text : String) : String :=
  match tag with
  | none => if plain then implicitTag text else standard "str"
  | some t => if t = "!" then implicitTag text else t

def collectionTag (tag : Option String) (kind : String) : String :=
  match tag with
  | none => standard kind
  | some t => if t = "!" then standard kind else t

def maxNesting : Nat := 485

mutual

/-- One node at a level of nesting. In a block, collections may be given by indentation; as the value of a key, a sequence
need not be indented. -/
def node (inBlock unindented : Bool) (level : Nat) : (fuel : Nat) → Reader Nat
  | 0 => throw .malformed
  | fuel + 1 => do
    if maxNesting < level then throw .tooDeep
    match ← head with
    | .alias name =>
      advance
      match (← get).anchors.lookup name with
      | some n => return n
      | none => throw .malformed
    | _ =>
      let (anchor, written) ← properties
      let r ← get
      let tag ← fullTag r.handles written
      let start ← head
      if (anchor.bind fun a => r.anchors.lookup a).isSome then throw .malformed
      content inBlock unindented level anchor tag start fuel
termination_by structural fuel => fuel

/-- The content of a node, from its first token on; its anchor can be used inside of it when it is a collection. -/
def content (inBlock unindented : Bool) (level : Nat) (anchor tag : Option String) (start : Token) : (fuel : Nat) → Reader Nat
  | 0 => throw .malformed
  | fuel + 1 => do
    match start with
    | .scalar text plain =>
      advance
      let n ← place (scalarTag tag plain (String.ofList text)) (.scalar (String.ofList text))
      name anchor n
      return n
    | .flowSequenceStart =>
      let n ← place (collectionTag tag "seq") (.sequence [])
      name anchor n
      advance
      fill n (.sequence (← flowItems true (level + 1) fuel))
      return n
    | .flowMappingStart =>
      let n ← place (collectionTag tag "map") (.mapping [])
      name anchor n
      advance
      fill n (.mapping (← flowPairs true (level + 1) fuel))
      return n
    | _ =>
      if unindented && start = .blockEntry then
        let n ← place (collectionTag tag "seq") (.sequence [])
        name anchor n
        fill n (.sequence (← looseItems (level + 1) fuel))
        return n
      else if inBlock && start = .blockSequenceStart then
        let n ← place (collectionTag tag "seq") (.sequence [])
        name anchor n
        advance
        fill n (.sequence (← blockItems (level + 1) fuel))
        return n
      else if inBlock && start = .blockMappingStart then
        let n ← place (collectionTag tag "map") (.mapping [])
        name anchor n
        advance
        fill n (.mapping (← blockPairs (level + 1) fuel))
        return n
      else if anchor.isSome || tag.isSome then
        let n ← place (scalarTag tag true "") (.scalar "")
        name anchor n
        return n
      else throw .malformed
termination_by structural fuel => fuel

/-- The entries of an indented sequence. -/
def blockItems (level : Nat) : (fuel : Nat) → Reader (List Nat)
  | 0 => throw .malformed
  | fuel + 1 => do
    match ← head with
    | .blockEntry =>
      advance
      let n ← if ← isAt [.blockEntry, .blockEnd] then nothing else node true false level fuel
      return n :: (← blockItems level fuel)
    | .blockEnd =>
      advance
      return []
    | _ => throw .malformed
termination_by structural fuel => fuel

/-- The entries of a sequence that is not indented. -/
def looseItems (level : Nat) : (fuel : Nat) → Reader (List Nat)
  | 0 => throw .malformed
  | fuel + 1 => do
    match ← head with
    | .blockEntry =>
      advance
      let n ← if ← isAt [.blockEntry, .key, .value, .blockEnd] then nothing else node true false level fuel
      return n :: (← looseItems level fuel)
    | _ => return []
termination_by structural fuel => fuel

def blockPart (mark : Token) (level : Nat) : (fuel : Nat) → Reader Nat
  | 0 => throw .malformed
  | fuel + 1 => do
    if ← isAt [mark] then
      advance
      if ← isAt [.key, .value, .blockEnd] then nothing else node true true level fuel
    else nothing
termination_by structural fuel => fuel

def blockPairs (level : Nat) : (fuel : Nat) → Reader (List (Nat × Nat))
  | 0 => throw .malformed
  | fuel + 1 => do
    match ← head with
    | .key =>
      let k ← blockPart .key level fuel
      let v ← blockPart .value level fuel
      return (k, v) :: (← blockPairs level fuel)
    | .blockEnd =>
      advance
      return []
    | _ => throw .malformed
termination_by structural fuel => fuel

/-- A binding in brackets from its mark on. -/
def flowPair (close : Token) (level : Nat) : (fuel : Nat) → Reader (Nat × Nat)
  | 0 => throw .malformed
  | fuel + 1 => do
    advance
    let k ← if ← isAt [.value, .flowEntry, close] then nothing else node false false level fuel
    if ← isAt [.value] then
      advance
      let v ← if ← isAt [.flowEntry, close] then nothing else node false false level fuel
      return (k, v)
    else return (k, ← nothing)
termination_by structural fuel => fuel

/-- The entries of a bracketed sequence; an entry may be a single binding. -/
def flowItems (first : Bool) (level : Nat) : (fuel : Nat) → Reader (List Nat)
  | 0 => throw .malformed
  | fuel + 1 => do
    if ← isAt [.flowSequenceEnd] then
      advance
      return []
    if !first then
      if ← isAt [.flowEntry] then advance else throw .malformed
    match ← head with
    | .key =>
      let pair ← flowPair .flowSequenceEnd (level + 1) fuel
      let n ← place (standard "map") (.mapping [pair])
      return n :: (← flowItems false level fuel)
    | .flowSequenceEnd =>
      advance
      return []
    | _ =>
      let n ← node false false level fuel
      return n :: (← flowItems false level fuel)
termination_by structural fuel => fuel

def flowPairs (first : Bool) (level : Nat) : (fuel : Nat) → Reader (List (Nat × Nat))
  | 0 => throw .malformed
  | fuel + 1 => do
    if ← isAt [.flowMappingEnd] then
      advance
      return []
    if !first then
      if ← isAt [.flowEntry] then advance else throw .malformed
    match ← head with
    | .key =>
      let pair ← flowPair .flowMappingEnd level fuel
      return pair :: (← flowPairs false level fuel)
    | .flowMappingEnd =>
      advance
      return []
    | _ =>
      let k ← node false false level fuel
      let v ← nothing
      return (k, v) :: (← flowPairs false level fuel)
termination_by structural fuel => fuel

end

/-! ### Documents -/

/-- Handles that every document knows. -/
def standardHandles : List (String × String) := [("!", "!"), ("!!", "tag:yaml.org,2002:")]

/-- The directives before a document: at most one version, and each handle once. -/
def directives : (fuel : Nat) → (seenVersion : Bool) → (handles : List (String × String)) →
    Reader (List (String × String))
  | 0, _, _ => throw .malformed
  | fuel + 1, seen, handles => do
    match ← head with
    | .versionDirective major =>
      advance
      if seen || major != 1 then throw .malformed
      directives fuel true handles
    | .tagDirective handle start =>
      advance
      if (handles.lookup handle).isSome then throw .malformed
      directives fuel seen (handles ++ [(handle, start)])
    | .otherDirective =>
      advance
      directives fuel seen handles
    | _ => return handles ++ standardHandles

def skipEnds : (fuel : Nat) → Reader Unit
  | 0 => throw .malformed
  | fuel + 1 => do
    if ← isAt [.documentEnd] then
      advance
      skipEnds fuel

/-- Requires that no second document follows. -/
def lastDocument (fuel : Nat) : Reader Unit := do
  skipEnds fuel
  if !(← isAt [.streamEnd]) then
    let _ ← directives fuel false []
    throw .malformed

/-- Whether a token starts a document with a mark or with directives. -/
def startsMarked : Token → Bool
  | .versionDirective _ | .tagDirective _ _ | .otherDirective | .documentStart => true
  | _ => false

/-- The root of the only document of a text, if there is one. -/
def document (fuel : Nat) : Reader (Option Nat) := do
  let start ← head
  if start = .streamEnd then return none
  if startsMarked start then
    let handles ← directives fuel false []
    modify fun r => { r with handles := handles }
    if !(← isAt [.documentStart]) then throw .malformed
    advance
  else modify fun r => { r with handles := standardHandles }
  let first ← head
  let root ←
    if startsMarked start && (startsMarked first || first = .documentEnd || first = .streamEnd) then nothing
    else node true false 1 fuel
  lastDocument fuel
  return some root

/-- The graph of the only document of a text and the place of its root. -/
def compose (text : List Char) : Except Fault (Option (Graph × Nat)) := do
  let ts := tokens text
  let (root, r) ← (document (4 * ts.list.length + 8)).run { tokens := ts.list, fault := ts.fault }
  return root.map fun n => (r.nodes, n)

end Amalgam.Yaml
