import Amalgam.Yaml.Node
/-!
# Merging mappings

A mapping may ask for the bindings of others, by a key with the merge mark. They are put before its own, so that its own
win, and the key that asked for them is gone. The mappings merged are settled in the same way first, and stay settled
wherever else they are used. On the way, a key that is the mark for a default value becomes an ordinary text.
-/

namespace Amalgam.Yaml

/-- A step that changes a graph and may meet a fault. -/
abbrev Change := StateT Graph (Except Fault)

namespace Graph

def nodeAt (g : Graph) (n : Nat) : Node :=
  g.getD n default

/-- The bindings of a mapping; any other node has none. -/
def pairsOf (g : Graph) (n : Nat) : List (Nat × Nat) :=
  match (g.nodeAt n).content with
  | .mapping pairs => pairs
  | _ => []

def isMapping (g : Graph) (n : Nat) : Bool :=
  match (g.nodeAt n).content with
  | .mapping _ => true
  | _ => false

def setPairs (g : Graph) (n : Nat) (pairs : List (Nat × Nat)) : Graph :=
  g.modify n fun node => { node with content := .mapping pairs }

def pairCount (g : Graph) : Nat :=
  g.foldl (fun n node => match node.content with
    | .mapping pairs => n + pairs.length
    | _ => n) 0

/-- Gives a key that is the mark for a default value the tag of a text. -/
def plainKey (g : Graph) (key : Nat) : Graph :=
  g.modify key fun node => if node.tag = standard "value" then { node with tag := standard "str" } else node

/-- Settles a mapping from one of its bindings on, having gathered some bindings to put first. Each binding that asks for
others is taken out before they are looked at, so a mapping may even ask for itself. -/
def settleFrom : (fuel : Nat) → (n start : Nat) → (gathered : List (Nat × Nat)) → Change Unit
  | 0, _, _, _ => throw .malformed
  | fuel + 1, n, start, gathered => do
    let g ← get
    let pairs := g.pairsOf n
    let own := (pairs.drop start).takeWhile fun p => (g.nodeAt p.1).tag != standard "merge"
    set (own.foldl (fun g p => plainKey g p.1) g)
    let next := start + own.length
    match pairs.drop next with
    | [] => if !gathered.isEmpty then modify fun g => g.setPairs n (gathered ++ pairs)
    | (_, source) :: rest =>
      modify fun g => g.setPairs n (pairs.take next ++ rest)
      let settled (m : Nat) : Change (List (Nat × Nat)) := do
        if !(← get).isMapping m then throw .malformed
        settleFrom fuel m 0 []
        return (← get).pairsOf m
      -- Of several mappings the earlier wins: it comes behind the others.
      let more ← match ((← get).nodeAt source).content with
        | .sequence items => do pure (← items.mapM settled).reverse.flatten
        | _ => settled source
      settleFrom fuel n next (gathered ++ more)

/-- Settles a mapping. Every step takes a binding away before it goes on. -/
def settle (g : Graph) (n : Nat) : Except Fault Graph := do
  let (_, g) ← (settleFrom (g.pairCount + 1) n 0 []).run g
  return g

end Graph

end Amalgam.Yaml
