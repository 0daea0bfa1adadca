import Amalgam.CommandLine.Grammar
import Amalgam.Number.Total
/-!
# Reading arguments

First every argument is classed by itself: an option of the grammar, something that looks like an option but is none, or a
plain argument. Then they are read from left to right. Plain arguments go to as many of the positionals as possible, an
option takes its value from the argument after it, and what nobody takes is left over.
-/

namespace Amalgam.CommandLine

open Amalgam.Text

variable {σ : Type}

/-! ### Classing -/

/-- What an argument is by itself. A text can be attached to an option, after an equals sign or directly. -/
inductive Class (σ : Type)
  | plain
  | option (spec : OptionSpec σ) (name : String) (attached : Option (List Char))
  | unknown

/-- An argument with its class. -/
structure Token (σ : Type) where
  text : String
  kind : Class σ

def Token.isPlain (t : Token σ) : Bool :=
  match t.kind with
  | .plain => true
  | _ => false

/-- A minus sign before digits, with or without a point among them. -/
def isNegativeNumber (s : String) : Bool :=
  match s.toList with
  | '-' :: rest =>
    let rest := if rest.getLast? = some '\n' then rest.dropLast else rest
    let isDigits (cs : List Char) := cs.all fun c => (decimalValue? c).isSome
    match splitFirst '.' rest with
    | none => !rest.isEmpty && isDigits rest
    | some (whole, fraction) => isDigits whole && !fraction.isEmpty && isDigits fraction
  | _ => false

/-- The options that an argument with one or two minus signs can mean: a long option by the start of its name, a short one
with its value directly after it. -/
def candidates (g : Grammar σ) (s : String) : List (String × Option (List Char)) :=
  match s.toList with
  | '-' :: '-' :: _ =>
    if g.abbreviates then
      let start := s.toList.takeWhile (· != '=')
      let attached := (splitFirst '=' s.toList).map Prod.snd
      (g.optionNames.filter fun n => start.isPrefixOf n.toList).map fun n => (n, attached)
    else []
  | '-' :: letter :: rest =>
    g.optionNames.filterMap fun n =>
      if n.toList = ['-', letter] then some (n, some rest)
      else if s.toList.isPrefixOf n.toList then some (n, none) else none
  | _ => []

def classOfName (g : Grammar σ) (name : String) (attached : Option (List Char)) : Class σ :=
  match g.option? name with
  | some spec => .option spec name attached
  | none => .unknown

/-- The class of an argument that could be an option. -/
def classOfCandidates (g : Grammar σ) (s : String) : Except Complaint (Class σ) :=
  match candidates g s with
  | [(name, attached)] => .ok (classOfName g name attached)
  -- A negative number or a text with a blank only looks like an option.
  | [] => .ok (if isNegativeNumber s || s.toList.contains ' ' then .plain else .unknown)
  | several => .error (.ambiguous s (several.map Prod.fst))

def classify (g : Grammar σ) (s : String) : Except Complaint (Class σ) :=
  if s.toList.head? != some '-' then .ok .plain
  else if (g.option? s).isSome then .ok (classOfName g s none)
  else if s.toList.length = 1 then .ok .plain
  else
    match splitFirst '=' s.toList with
    | some (name, value) =>
      if (g.option? (String.ofList name)).isSome then .ok (classOfName g (String.ofList name) (some value))
      else classOfCandidates g s
    | none => classOfCandidates g s

/-! ### Options -/

/-- Options read from one argument: those that are complete, and one that may still want its value. -/
structure Bunch (σ : Type) where
  taken : List (OptionSpec σ × Option String) := []
  wanting : Option (OptionSpec σ) := none

/-- Reads what is attached to an option: its value, or further options of one letter each. A letter that is no option makes
the argument unacceptable, as with argparse before its releases 3.11.9 and 3.12.3; from these on, such letters are left
over. -/
def unbundle (g : Grammar σ) (spec : OptionSpec σ) (isShort : Bool) (text : List Char) : Except Complaint (Bunch σ) :=
  match spec.effect with
  | .value .. => .ok { taken := [(spec, some (String.ofList text))] }
  | _ =>
    match text with
    | [] => .error (.ignoredExplicit spec.title "")
    | letter :: more =>
      match if isShort then g.option? (String.ofList ['-', letter]) else none with
      | none => .error (.ignoredExplicit spec.title (String.ofList text))
      | some next =>
        match more with
        | [] => .ok { taken := [(spec, none)], wanting := some next }
        | letters => (unbundle g next true letters).map fun b => { b with taken := (spec, none) :: b.taken }

/-- Reads an option and, if it wants one, a value from the arguments after it; also says how many of those it used. -/
def readOption (g : Grammar σ) (spec : OptionSpec σ) (name : String) (attached : Option (List Char))
    (following : List (Token σ)) : Except Complaint (Bunch σ × Nat) := do
  let bunch ← match attached with
    | some text => unbundle g spec ((name.toList.drop 1).head? != some '-') text
    | none => pure { wanting := some spec }
  match bunch.wanting with
  | none => return (bunch, 0)
  | some wanting =>
    match wanting.effect with
    | .value .. =>
      match following with
      | next :: _ =>
        if next.isPlain then return ({ bunch with taken := bunch.taken ++ [(wanting, some next.text)] }, 1)
        else throw (.expectedOne wanting.title)
      | [] => throw (.expectedOne wanting.title)
    | _ => return ({ bunch with taken := bunch.taken ++ [(wanting, none)] }, 0)

def applyOption (g : Grammar σ) (state : σ) (taken : OptionSpec σ × Option String) : Except Stop σ :=
  match taken.1.effect, taken.2 with
  | .value choices store, some v =>
    if choices.isEmpty || choices.contains v then .ok (store v state)
    else .error (g.refuse (.invalidChoice taken.1.title v choices))
  | .value .., none => .ok state
  | .switch set, _ => .ok (set state)
  | .help, _ => .error (.help g.helpText)
  | .version, _ => .error .version

/-! ### Positionals -/

/-- How many of the next arguments a positional may take, the most first; `plain` marks the plain ones. -/
def Arity.counts (a : Arity) (plain : List Bool) : List Nat :=
  let run := (plain.takeWhile id).length
  match a with
  | one => if run = 0 then [] else [1]
  | optional => if run = 0 then [0] else [1, 0]
  | many => (List.range (run + 1)).reverse
  -- A command takes everything behind it, options too: they are for its own grammar.
  | command => if run = 0 then [] else (List.range' 1 plain.length).reverse

/-- Shares of the next arguments for all of some positionals, each as large as the ones after it allow. -/
def shares : List Arity → List Bool → Option (List Nat)
  | [], _ => some []
  | a :: rest, plain => (a.counts plain).findSome? fun n => (shares rest (plain.drop n)).map fun ns => n :: ns

/-- Shares for as many of the first positionals as possible. -/
def longestShares (arities : List Arity) (plain : List Bool) : List Nat :=
  ((List.range arities.length).reverse.findSome? fun n => shares (arities.take (n + 1)) plain).getD []

/-- What has been read so far. -/
structure Progress (σ : Type) where
  state : σ
  left : List (Positional σ)
  extras : List String := []

/-- Hands arguments to positionals by their shares. -/
def hand (g : Grammar σ) : List (Positional σ × Nat) → List (Token σ) → σ → Except Stop σ
  | [], _, state => .ok state
  | (p, n) :: rest, tokens, state =>
    let args := (tokens.take n).map Token.text
    match args.head? with
    | some first =>
      if p.choices.isEmpty || p.choices.contains first then hand g rest (tokens.drop n) (p.store args state)
      else .error (g.refuse (.invalidChoice p.name first p.choices))
    | none => hand g rest (tokens.drop n) (p.store args state)

/-- Hands the next arguments to positionals; also says how many were taken. -/
def place (g : Grammar σ) (tokens : List (Token σ)) (p : Progress σ) : Except Stop (Progress σ × Nat) := do
  let counts := longestShares (p.left.map Positional.arity) (tokens.map Token.isPlain)
  let state ← hand g (p.left.zip counts) tokens p.state
  return ({ p with state := state, left := p.left.drop counts.length }, Number.total counts)

/-! ### Reading -/

def walk (g : Grammar σ) (tokens : List (Token σ)) (p : Progress σ) : Except Stop (Progress σ) :=
  match tokens with
  | [] => return (← place g [] p).1
  | token :: rest =>
    match token.kind with
    | .unknown => walk g rest { p with extras := p.extras ++ [token.text] }
    | .option spec name attached =>
      match readOption g spec name attached rest with
      | .error complaint => .error (g.refuse complaint)
      | .ok (bunch, used) =>
        match bunch.taken.foldlM (applyOption g) p.state with
        | .error stop => .error stop
        | .ok state => walk g (rest.drop used) { p with state := state }
    | .plain =>
      match place g (token :: rest) p with
      | .error stop => .error stop
      -- No positional wants the argument, so it is left over.
      | .ok (p, 0) => walk g rest { p with extras := p.extras ++ [token.text] }
      | .ok (p, n + 1) => walk g (rest.drop n) p
termination_by tokens.length

/-- Reads arguments by a grammar into a record; also gives what nobody took. -/
def Grammar.read (g : Grammar σ) (start : σ) (arguments : List String) : Except Stop (σ × List String) := do
  let tokens ← arguments.mapM fun s => ((classify g s).map fun c => ⟨s, c⟩).mapError g.refuse
  let p ← walk g tokens { state := start, left := g.positionals }
  match (p.left.filter fun q => q.arity = .one).map Positional.name with
  | [] => return (p.state, p.extras)
  | missing => throw (g.refuse (.required missing))

end Amalgam.CommandLine
