import Amalgam.Text.Quoted
/-!
# Grammars of arguments

What a command takes: options, which may stand anywhere, and positional arguments, which are told apart by their order.
A grammar fills a record of its own type; each option and argument says how. Reading stops early when help or the version
is asked for, or when an argument cannot be accepted.
-/

namespace Amalgam.CommandLine

open Amalgam.Text

/-- How many arguments a positional takes. -/
inductive Arity
  | one
  | optional
  | many
  /-- The name of a command, and everything after it. -/
  | command
deriving DecidableEq, Repr

/-- What an option does. -/
inductive Effect (σ : Type)
  /-- Takes a value, one of the choices if there are any. -/
  | value (choices : List String) (store : String → σ → σ)
  | switch (set : σ → σ)
  | help
  | version

/-- An option with all its names. -/
structure OptionSpec (σ : Type) where
  names : List String
  effect : Effect σ

/-- A positional argument. -/
structure Positional (σ : Type) where
  name : String
  arity : Arity
  choices : List String := []
  store : List String → σ → σ

/-- What a command takes. -/
structure Grammar (σ : Type) where
  program : String
  usage : String
  /-- What the help says below the usage. -/
  details : String
  options : List (OptionSpec σ)
  positionals : List (Positional σ)
  /-- Whether long options may be abbreviated. -/
  abbreviates : Bool := true

/-- Why an argument is not accepted. -/
inductive Complaint
  | ambiguous (option : String) (candidates : List String)
  | expectedOne (name : String)
  | ignoredExplicit (name text : String)
  | invalidChoice (name value : String) (choices : List String)
  | required (names : List String)
  | unrecognized (arguments : List String)
deriving DecidableEq, Repr

def Complaint.message : Complaint → String
  | ambiguous option candidates => "ambiguous option: " ++ option ++ " could match " ++ joined ", " candidates
  | expectedOne name => "argument " ++ name ++ ": expected one argument"
  | ignoredExplicit name text => "argument " ++ name ++ ": ignored explicit argument " ++ quoted text
  | invalidChoice name value choices =>
    "argument " ++ name ++ ": invalid choice: " ++ quoted value ++ " (choose from " ++
      joined ", " (choices.map quoted) ++ ")"
  | required names => "the following arguments are required: " ++ joined ", " names
  | unrecognized arguments => "unrecognized arguments: " ++ joined " " arguments

/-- Why reading arguments ends without a result. -/
inductive Stop
  | help (text : String)
  | version
  | refused (usage program : String) (complaint : Complaint)
deriving DecidableEq, Repr

def OptionSpec.title {σ : Type} (o : OptionSpec σ) : String :=
  joined "/" o.names

namespace Grammar

variable {σ : Type}

def option? (g : Grammar σ) (name : String) : Option (OptionSpec σ) :=
  g.options.find? fun o => o.names.contains name

def optionNames (g : Grammar σ) : List String :=
  g.options.flatMap OptionSpec.names

def helpText (g : Grammar σ) : String :=
  g.usage ++ "\n" ++ g.details

def refuse (g : Grammar σ) (complaint : Complaint) : Stop :=
  .refused g.usage g.program complaint

end Grammar

end Amalgam.CommandLine
