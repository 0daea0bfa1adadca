import Amalgam.Yaml.Merge
import Amalgam.Yaml.ScalarValue
/-!
# Values of YAML documents

What each node stands for, by its tag. A scalar has its value at once. A collection is first made empty and gets its parts
later, after everything that was made before it: so a document is gone through level by level, the first fault found is
that of the highest level, and a collection can be part of itself. A tag that is not known makes the document malformed,
and so does a tag that does not fit its node.

`load` stands for the `safe_load` of PyYAML 6.0 and `write` for its `dump` in block style, and both follow that release
where it departs from YAML 1.1. The results take three facts from the two, all about the default configuration: what is
written for it (`Config.write_defaultYaml`), and what that text and its JSON are read as (`Config.load_defaultYaml`,
`Config.load_defaultJson`).
-/

namespace Amalgam.Yaml

open Amalgam.Number Amalgam.Text

/-- What has been made of a node; the parts of a collection are given by their places. -/
inductive Object
  | plain (v : Value)
  | list (items : List Nat)
  | tuple (items : List Nat)
  | set (items : List Nat)
  | map (fields : List (Nat × Nat))
deriving Repr, Inhabited

/-- How a collection is put together. -/
inductive Kind
  | list
  | map
  | set
  | pairs
deriving DecidableEq, Repr

def Kind.ofTag? (tag : String) : Option Kind :=
  [(standard "seq", list), (standard "map", map), (standard "set", set), (standard "omap", pairs),
    (standard "pairs", pairs)].lookup tag

/-- A collection before it has its parts. -/
def Kind.empty : Kind → Object
  | list => .list []
  | map => .map []
  | set => .set []
  | pairs => .list []

/-- The place of the one object that all marks for no number stand for. -/
def noNumber : Nat := 0

structure Loading where
  nodes : Graph
  objects : Array Object := #[.plain (.float .nan)]
  /-- The objects of the nodes that have one. -/
  made : Array (Option Nat)
  /-- Collections without their parts, the last one first: the kind, the node and the object. -/
  waiting : List (Kind × Nat × Nat) := []

abbrev Loader := StateT Loading (Except Fault)

namespace Loading

def objectAt (l : Loading) (o : Nat) : Object :=
  l.objects.getD o default

def canBeKey (l : Loading) (o : Nat) : Bool :=
  match l.objectAt o with
  | .plain v => v.canBeKey
  | .tuple _ => true
  | _ => false

/-- Whether two objects are one key: an object is the same key as itself, be it no number. -/
def sameKey (l : Loading) (a b : Nat) : Bool :=
  a = b ||
    match l.objectAt a, l.objectAt b with
    | .plain x, .plain y => x.sameKey y
    | _, _ => false

def put (l : Loading) (key value : Nat) : List (Nat × Nat) → List (Nat × Nat)
  | [] => [(key, value)]
  | (k, v) :: rest => if l.sameKey k key then (k, value) :: rest else (k, v) :: l.put key value rest

end Loading

namespace Loader

def place (object : Object) : Loader Nat :=
  modifyGet fun l => (l.objects.size, { l with objects := l.objects.push object })

def setObject (o : Nat) (object : Object) : Loader Unit :=
  modify fun l => { l with objects := l.objects.setIfInBounds o object }

/-- The text of a node under a tag for scalars: a mapping stands for its default value. -/
def scalarText (g : Graph) : (fuel : Nat) → (n : Nat) → Except Fault String
  | 0, _ => .error .tooDeep
  | fuel + 1, n =>
    match (g.nodeAt n).content with
    | .scalar text => .ok text
    | .sequence _ => .error .malformed
    | .mapping pairs =>
      match pairs.find? fun p => (g.nodeAt p.1).tag = standard "value" with
      | some (_, value) => scalarText g fuel value
      | none => .error .malformed

def makeScalar (n : Nat) : Loader Nat := do
  let g := (← get).nodes
  let tag := (g.nodeAt n).tag
  match scalarValue? tag with
  | none => throw .malformed
  | some value =>
    let text ← scalarText g (g.size + 1) n
    if tag = standard "timestamp" && g.isMapping n then throw (.notText "list")
    if tag = standard "float" && isNoNumber text.toList then return noNumber
    place (.plain (← value text))

/-- The object of a node; a collection is made empty. -/
def make (n : Nat) : Loader Nat := do
  let l ← get
  match l.made.getD n none with
  | some o => return o
  | none =>
    let o ← match Kind.ofTag? (l.nodes.nodeAt n).tag with
      -- Its parts come later, so a collection can be found in itself.
      | some kind => do
        let o ← place kind.empty
        modify fun l => { l with waiting := (kind, n, o) :: l.waiting }
        pure o
      | none => makeScalar n
    modify fun l => { l with made := l.made.setIfInBounds n (some o) }
    return o

/-- The bindings of a mapping after merging. -/
def bindings (n : Nat) : Loader (List (Nat × Nat)) := do
  let l ← get
  if !l.nodes.isMapping n then throw .malformed
  let g ← l.nodes.settle n
  set { l with nodes := g }
  (g.pairsOf n).foldlM (fun fields p => do
    let key ← make p.1
    if !(← get).canBeKey key then throw .malformed
    let value ← make p.2
    return (← get).put key value fields) []

def entries (n : Nat) : Loader (List Nat) := do
  match ((← get).nodes.nodeAt n).content with
  | .sequence items => return items
  | _ => throw .malformed

def singlePair (n : Nat) : Loader Nat := do
  match ((← get).nodes.nodeAt n).content with
  | .mapping [(k, v)] =>
    let key ← make k
    let value ← make v
    place (.tuple [key, value])
  | _ => throw .malformed

def complete (kind : Kind) (n o : Nat) : Loader Unit := do
  match kind with
  | .list => setObject o (.list (← (← entries n).mapM make))
  | .map => setObject o (.map (← bindings n))
  | .set => setObject o (.set ((← bindings n).map Prod.fst))
  | .pairs => setObject o (.list (← (← entries n).mapM singlePair))

/-- Completes collections, level by level, until none is waiting. -/
def completeAll : (fuel : Nat) → Loader Unit
  | 0 => throw .tooDeep
  | fuel + 1 => do
    let level := (← get).waiting.reverse
    if !level.isEmpty then
      modify fun l => { l with waiting := [] }
      level.forM fun (kind, n, o) => complete kind n o
      completeAll fuel

end Loader

/-! ### Unfolding -/

/-- Members of a set in the order in which they are shown: whole numbers by their remainders by the number of places, which
is a power of two and more than twice their count; others as they came. -/
def setOrder (items : List Value) : List Value :=
  let whole? : Value → Option Int
    | .int n => some n
    | .bool b => some (if b then 1 else 0)
    | _ => none
  let places : Int := if items.length < 5 then 8 else Nat.pow 2 ((2 * items.length).log2 + 1)
  if items.all fun v => (whole? v).isSome then
    items.mergeSort fun a b => (whole? a).getD 0 % places ≤ (whole? b).getD 0 % places
  else items

/-- The value of an object inside of others; one of those is not gone into again. -/
def Loading.unfold (l : Loading) : (fuel : Nat) → (around : List Nat) → (o : Nat) → Value
  | 0, _, _ => .null
  | fuel + 1, around, o =>
    let inside := l.unfold fuel (o :: around)
    match l.objectAt o with
    | .plain v => v
    | .list items => if around.contains o then .enclosing false else .list (items.map inside)
    | .tuple items => .tuple (items.map inside)
    | .set items => .set (setOrder (items.map inside))
    | .map fields =>
      if around.contains o then .enclosing true else .map (fields.map fun f => (inside f.1, inside f.2))

/-- The value of an object that is a mapping with its bindings unfolded by `inner`. -/
def Loading.unfoldFields (l : Loading) (inner : Nat → Value) (o : Nat) : Value :=
  match l.objectAt o with
  | .map fields => .map (fields.map fun f => (l.unfold 1 [] f.1, inner f.2))
  | _ => inner o

/-- The value of the root. What the bindings of its bindings hold is unfolded on its own, because it is used on its own. -/
def Loading.value (l : Loading) (root : Nat) : Value :=
  let whole := l.unfold (l.objects.size + 1) []
  let held (o : Nat) : Value := match l.objectAt o with
    | .map _ => l.unfoldFields whole o
    | _ => whole o
  match l.objectAt root with
  | .map _ => l.unfoldFields held root
  | _ => whole root

/-- The value of the only document of a text; a text without one has none. -/
def load (text : List Char) : Except Fault Value := do
  match ← compose text with
  | none => return .null
  | some (nodes, root) =>
    let loader : Loader Nat := do
      let o ← Loader.make root
      Loader.completeAll (nodes.size + 1)
      return o
    let (o, l) ← loader.run { nodes := nodes, made := Array.replicate nodes.size none }
    return l.value o

end Amalgam.Yaml
