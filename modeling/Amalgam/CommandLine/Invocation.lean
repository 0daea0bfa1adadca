import Amalgam.CommandLine.Forward
import Amalgam.CommandLine.Help
import Amalgam.CommandLine.Reading
/-!
# Invocations

What a command line asks for. Global options come first, then a command with options of its own. The two commands that run
a tool forward to it whatever they do not take for themselves, in the order in which it was typed, and after that
everything behind the first `--`, untouched; the other commands accept nothing they do not know.
-/

namespace Amalgam.CommandLine

/-! ### Options of the commands -/

/-- Options before the command, and the command with the arguments after it. -/
structure GlobalOptions where
  config : Option String := none
  verbose : Bool := false
  plain : Bool := false
  machineReadable : Bool := false
  command : List String := []
deriving DecidableEq, Repr

/-- What a command that runs a tool works on. -/
structure ToolOptions where
  source : Option String := none
  table : Option String := none
  output : Option String := none
  dryRun : Bool := false
  toolArguments : List String := []
deriving DecidableEq, Repr

/-- Where a configuration file is created, and how. -/
structure InitOptions where
  path : String := "bundlecxx.json"
  format : String := "json"
deriving DecidableEq, Repr

/-! ### Grammars -/

def helpOption {σ : Type} : OptionSpec σ :=
  ⟨["-h", "--help"], .help⟩

def globalGrammar : Grammar GlobalOptions where
  program := "bundle-cxx"
  usage := Help.topUsage
  details := Help.topDetails
  options :=
    [helpOption,
     ⟨["--config"], .value [] fun v o => { o with config := some v }⟩,
     ⟨["--verbose", "-v"], .switch fun o => { o with verbose := true }⟩,
     ⟨["--no-rich"], .switch fun o => { o with plain := true }⟩,
     ⟨["--machine-readable"], .switch fun o => { o with machineReadable := true }⟩,
     ⟨["--version"], .version⟩]
  positionals :=
    [{ name := "command", arity := .command, choices := ["list-symbols", "bundle", "status", "config"],
       store := fun args o => { o with command := args } }]

def tableOption : OptionSpec ToolOptions :=
  ⟨["-c", "--csv"], .value [] fun v o => { o with table := some v }⟩

def toolPositionals : List (Positional ToolOptions) :=
  [{ name := "source", arity := .optional, store := fun args o => { o with source := args.head? } },
   { name := "tool_args", arity := .many, store := fun args o => { o with toolArguments := args } }]

def listingGrammar : Grammar ToolOptions where
  program := "bundle-cxx list-symbols"
  usage := Help.listingUsage
  details := Help.listingDetails
  options := [helpOption, tableOption]
  positionals := toolPositionals
  abbreviates := false

def bundlingGrammar : Grammar ToolOptions where
  program := "bundle-cxx bundle"
  usage := Help.bundlingUsage
  details := Help.bundlingDetails
  options :=
    [helpOption, tableOption,
     ⟨["-o", "--output"], .value [] fun v o => { o with output := some v }⟩,
     ⟨["--dry-run"], .switch fun o => { o with dryRun := true }⟩]
  positionals := toolPositionals
  abbreviates := false

def statusGrammar : Grammar String where
  program := "bundle-cxx status"
  usage := Help.statusUsage
  details := Help.statusDetails
  options := [helpOption, ⟨["--format"], .value ["text", "json"] fun v _ => v⟩]
  positionals := []

def configGrammar : Grammar (List String) where
  program := "bundle-cxx config"
  usage := Help.configUsage
  details := Help.configDetails
  options := [helpOption]
  positionals :=
    [{ name := "config_action", arity := .command, choices := ["show", "init", "validate"], store := fun args _ => args }]

def showGrammar : Grammar Unit where
  program := "bundle-cxx config show"
  usage := Help.showUsage
  details := Help.showDetails
  options := [helpOption]
  positionals := []

def initGrammar : Grammar InitOptions where
  program := "bundle-cxx config init"
  usage := Help.initUsage
  details := Help.initDetails
  options :=
    [helpOption, ⟨["--path"], .value [] fun v o => { o with path := v }⟩,
     ⟨["--format"], .value ["json", "yaml"] fun v o => { o with format := v }⟩]
  positionals := []

def validateGrammar : Grammar String where
  program := "bundle-cxx config validate"
  usage := Help.validateUsage
  details := Help.validateDetails
  options := [helpOption]
  positionals := [{ name := "config_file", arity := .one, store := fun args _ => args.headD "" }]

/-! ### Invocations -/

/-- What is to be done. -/
inductive Task
  | listSymbols (options : ToolOptions)
  | bundle (options : ToolOptions)
  | status (asJson : Bool)
  | showConfig
  | initConfig (options : InitOptions)
  | validateConfig (file : String)
deriving DecidableEq, Repr

def Task.command : Task → String
  | listSymbols _ => "list-symbols"
  | bundle _ => "bundle"
  | status _ => "status"
  | showConfig | initConfig _ | validateConfig _ => "config"

/-- A task under global options. -/
structure Invocation where
  config : Option String
  verbose : Bool
  plain : Bool
  machineReadable : Bool
  task : Task
deriving DecidableEq, Repr

/-- Everything before the first `--`, and everything behind it. -/
def splitForwarded (arguments : List String) : List String × List String :=
  (arguments.takeWhile (· != "--"), (arguments.dropWhile (· != "--")).drop 1)

/-- The arguments for a tool: what was left over in the order in which it was typed, then the forwarded ones. -/
def ToolOptions.forward (o : ToolOptions) (typed extras forwardedArguments : List String) : ToolOptions :=
  { o with toolArguments := forwarded typed o.toolArguments extras ++ forwardedArguments }

/-- A task that takes no further arguments. -/
def closed (task : Task) (extras : List String) : Except Stop Task :=
  if extras.isEmpty then .ok task else .error (globalGrammar.refuse (.unrecognized extras))

def configTask (arguments extras forwardedArguments : List String) : Except Stop Task := do
  let (action, more) ← configGrammar.read [] arguments
  let extras := extras ++ more
  match action with
  | "show" :: rest => do
    let (_, more) ← showGrammar.read () rest
    closed .showConfig (extras ++ more ++ forwardedArguments)
  | "init" :: rest => do
    let (options, more) ← initGrammar.read {} rest
    closed (.initConfig options) (extras ++ more ++ forwardedArguments)
  | "validate" :: rest => do
    let (file, more) ← validateGrammar.read "" rest
    closed (.validateConfig file) (extras ++ more ++ forwardedArguments)
  | _ => do
    let _ ← closed .showConfig (extras ++ forwardedArguments)
    throw (.help configGrammar.helpText)

def taskOf (typed command extras forwardedArguments : List String) : Except Stop Task :=
  match command with
  | "list-symbols" :: rest => do
    let (options, more) ← listingGrammar.read {} rest
    return .listSymbols (options.forward typed (extras ++ more) forwardedArguments)
  | "bundle" :: rest => do
    let (options, more) ← bundlingGrammar.read {} rest
    return .bundle (options.forward typed (extras ++ more) forwardedArguments)
  | "status" :: rest => do
    let (format, more) ← statusGrammar.read "text" rest
    closed (.status (format == "json")) (extras ++ more ++ forwardedArguments)
  | "config" :: rest => configTask rest extras forwardedArguments
  | _ => throw (.help globalGrammar.helpText)

def Invocation.ofArguments (arguments : List String) : Except Stop Invocation := do
  let (typed, forwardedArguments) := splitForwarded arguments
  let (options, extras) ← globalGrammar.read {} typed
  let task ← taskOf typed options.command extras forwardedArguments
  return {
    config := options.config
    verbose := options.verbose
    plain := options.plain
    machineReadable := options.machineReadable
    task := task }

end Amalgam.CommandLine
