import Amalgam.Console.Literal.Computed
import Amalgam.Console.Literal.Grammar
import Std.Data.HashMap
/-!
# Reading expressions

Tokens are read by the rules of the grammar. The reader looks at tokens one after the other, and a fault that ends them is
met when it looks there. When a text turns out to be no expression it is read once more with an eye for mistakes, and the
first complaint is the reason; without one the syntax is just invalid. A grave fault among the tokens not looked at yet goes
before either.
-/

namespace Amalgam.Console.Literal

/-- A reason to stop reading: from the tokens, or from a form. -/
inductive Stop
  | tokens (message : String)
  | form (message : String) (reached : Nat)
deriving DecidableEq, Repr

/-- Where a reading stands: its place among the tokens, how many it has looked at, whether it looks for mistakes, and the
outcomes that are kept. It finds faults of expressions inside strings by another reading. -/
structure State where
  tokens : Array Token
  ending : Ending
  inner : List Char → Option String
  place : Nat := 0
  reached : Nat := 0
  mistakes : Bool := false
  kept : Std.HashMap (Rule × Nat) (Option (List Tree × Nat)) := {}

abbrev Reading := StateT State (Except Stop)

namespace Reading

def peek : Reading Token := do
  let s ← get
  match s.tokens[s.place]? with
  | some t =>
    set { s with reached := max s.reached (s.place + 1) }
    return t
  | none =>
    match s.ending with
    | .plain message _ => throw (.tokens message)
    | .grave message => throw (.tokens message)
    | .complete => throw (.form "invalid syntax" s.reached)

/-- Stops with a message. -/
def stop {α : Type} (message : String) : Reading α := do
  throw (.form message (← get).reached)

def goTo (place : Nat) : Reading Unit :=
  modify fun s => { s with place }

def token (test : Token → Bool) (tree : Token → List Tree) : Reading (Option (List Tree)) := do
  let t ← peek
  if test t then
    modify fun s => { s with place := s.place + 1 }
    return some (tree t)
  else return none

def allOf (read : Form → Reading (Option (List Tree))) : List Form → Reading (Option (List Tree))
  | [] => return some []
  | f :: rest => do
    match ← read f with
    | none => return none
    | some ts => return (← allOf read rest).map (ts ++ ·)

def anyOf (read : Form → Reading (Option (List Tree))) : List Form → Reading (Option (List Tree))
  | [] => return none
  | f :: rest => do
    let place := (← get).place
    match f with
    -- Once its first part has matched, the choices after it are not tried.
    | .commit first after =>
      match ← read first with
      | some ts => return (← read after).map (ts ++ ·)
      | none =>
        goTo place
        anyOf read rest
    | .complain g message =>
      match ← read g with
      | some ts =>
        let s ← get
        match message ((s.tokens[s.place - 1]?.map Token.level).getD 0) ts with
        | some m => stop m
        | none => return none
      | none =>
        goTo place
        anyOf read rest
    | f =>
      match ← read f with
      | some ts => return some ts
      | none =>
        goTo place
        anyOf read rest

/-- The tails of a chain, as many as follow. -/
def tailOf (read : Form → Reading (Option (List Tree))) (before : List Tree) :
    List (Shape × Form) → Reading (Option (List Tree))
  | [] => return none
  | (shape, f) :: rest => do
    let place := (← get).place
    match ← read f with
    | some ts => return some [.node shape (before ++ ts)]
    | none =>
      goTo place
      tailOf read before rest

/-- Strings side by side become one tree. -/
def joinStrings (ts : List Tree) : List (List Char) :=
  ts.flatMap fun
    | .strings texts => texts
    | _ => []

mutual

def read : (fuel : Nat) → Form → Reading (Option (List Tree))
  | 0, _ => return none
  | fuel + 1, f => do
    match f with
    | .mark text => token (fun t => t.kind = .mark && t.text = text.toList) fun _ => []
    | .kind .name => token (·.kind = .name) fun t => [.name (String.ofList t.text)]
    | .kind .number =>
      match ← token (·.kind = .number) fun t => [.number t.text] with
      | some [.number text] =>
        match numberFault? text with
        | some message => stop message
        | none => return some [.number text]
      | other => return other
    | .kind .string => token (·.kind = .string) fun t => [.strings [t.text]]
    | .kind k => token (·.kind = k) fun _ => []
    | .softWord => token (fun t => t.kind = .name && ["_", "case", "match"].contains (String.ofList t.text)) fun _ => []
    | .all parts => allOf (read fuel) parts
    | .any choices => anyOf (read fuel) choices
    | .opt g =>
      let place := (← get).place
      match ← read fuel g with
      | some ts => return some ts
      | none =>
        goTo place
        return some []
    | .many g =>
      let place := (← get).place
      match ← read fuel g with
      | some ts => return (← read fuel (.many g)).map (ts ++ ·)
      | none =>
        goTo place
        return some []
    | .ahead g =>
      let place := (← get).place
      let seen ← read fuel g
      goTo place
      return seen.map fun _ => []
    | .lacking g =>
      let place := (← get).place
      let seen ← read fuel g
      goTo place
      return if seen.isSome then none else some []
    | .node shape g => return (← read fuel g).map fun ts => [.node shape ts]
    | .chain first tails =>
      match ← read fuel first with
      | some ts => extend fuel tails ts
      | none => return none
    | .commit first after =>
      match ← read fuel first with
      | some ts => return (← read fuel after).map (ts ++ ·)
      | none => return none
    | .complain g message => anyOf (read fuel) [.complain g message]
    | .mistaken r => if (← get).mistakes then apply fuel r else return none
    | .quietly g =>
      let mistakes := (← get).mistakes
      modify fun s => { s with mistakes := false }
      let seen ← read fuel g
      modify fun s => { s with mistakes }
      return seen
    | .rule r => apply fuel r

def extend : (fuel : Nat) → List (Shape × Form) → List Tree → Reading (Option (List Tree))
  | 0, _, ts => return some ts
  | fuel + 1, tails, ts => do
    match ← tailOf (read fuel) ts tails with
    | some longer => extend fuel tails longer
    | none => return some ts

/-- Reads by a rule, or recalls its outcome. -/
def apply : (fuel : Nat) → Rule → Reading (Option (List Tree))
  | 0, _ => return none
  | fuel + 1, r => do
    let s ← get
    match if r.isKept then s.kept[(r, s.place)]? else none with
    | some outcome =>
      match outcome with
      | some (ts, after) =>
        goTo after
        return some ts
      | none => return none
    | none =>
      let outcome ← read fuel r.form
      let outcome ← if r = .strings then
          match outcome.map joinStrings with
          | some texts =>
            match stringsFault? s.inner texts with
            | some message => stop message
            | none => pure (some [Tree.strings texts])
          | none => pure none
        else pure outcome
      if r.isKept then
        modify fun now => { now with kept := now.kept.insert (r, s.place) (outcome.map fun ts => (ts, now.place)) }
      return outcome

end

end Reading

/-- The message for a text whose reading stopped or failed with one, with tokens left that were not looked at. -/
def unreadMessage (ts : Tokens) (reached : Nat) (always : Bool) (message : String) : String :=
  match ts.ending with
  | .grave graver => graver
  | .plain _ (some (bracket, line)) =>
    match ts.tokens[reached - 1]? with
    | some last =>
      if line < last.line && (always || !(reached = ts.tokens.length && last.seesEnd)) then neverClosed bracket else message
    | none => message
  | _ => message

/-- The tree of a form that a text begins with, or the reason why it does not. A reason that is not a grave fault of the
tokens begins with some words. -/
def treeOf (inner : List Char → Option String) (words : String) (f : Form) (cs : List Char) : Except String Tree :=
  let ts := Tokens.ofText cs
  let fuel := 200 * (ts.tokens.length + 2)
  let start : State := { tokens := ts.tokens.toArray, ending := ts.ending, inner }
  let worded (message : String) : String := if ts.ending = .grave message then message else words ++ message
  let stopped : Stop → String
    | .tokens message => worded message
    | .form message reached => worded (unreadMessage ts reached false message)
  match (Reading.read fuel f).run start with
  | .error reason => .error (stopped reason)
  | .ok (some (tree :: _), _) => .ok tree
  | .ok (_, first) =>
    match (Reading.read fuel f).run { start with mistakes := true, reached := first.reached } with
    | .error reason => .error (stopped reason)
    | .ok (_, second) =>
      let indented := (ts.tokens[first.reached - 1]?.map fun t => decide (t.kind = .indent)).getD false
      .error (worded (if indented then "unexpected indent" else unreadMessage ts second.reached true "invalid syntax"))

/-- The fault of an expression in a string, to a depth of strings inside strings. -/
def innerFault? : (depth : Nat) → List Char → Option String
  | 0, _ => none
  | depth + 1, cs =>
    match treeOf (innerFault? depth) "f-string: " (.rule .starExpressions) cs with
    | .error reason => some reason
    | .ok _ => none

/-- The expression that a text is, or the reason why it is none: nothing may follow it but line ends. Strings inside strings
are shorter, so the length of the text is depth enough. -/
def expression (cs : List Char) : Except String Tree :=
  treeOf (innerFault? cs.length) "" (.all [.rule .expressions, .many (.kind .newline), .kind .finish]) cs

end Amalgam.Console.Literal
