/-!
# Help texts

The usage line of every command and what its help says below that line.
-/

namespace Amalgam.CommandLine.Help

def topUsage : String :=
  "usage: bundle-cxx [-h] [--config CONFIG] [--verbose] [--no-rich] [--machine-readable] [--version] \x7blist-symbols,bundle,status,config\x7d ...\n"

def topDetails : String :=
  "Rename C/C++ symbols to avoid collisions, then amalgamate source files.\n" ++
  "\n" ++
  "positional arguments:\n" ++
  "  \x7blist-symbols,bundle,status,config\x7d\n" ++
  "                        Available commands\n" ++
  "    list-symbols        Generate a Symbols CSV file from the source file\n" ++
  "    bundle              Bundle the source file by renaming symbols and amalgamating\n" ++
  "    status              Show external tool availability\n" ++
  "    config              Manage configuration\n" ++
  "\n" ++
  "options:\n" ++
  "  -h, --help            show this help message and exit\n" ++
  "  --config CONFIG       Path to configuration file\n" ++
  "  --verbose, -v         Enable verbose output and debug logging\n" ++
  "  --no-rich             Disable rich terminal output (use plain text)\n" ++
  "  --machine-readable    Output in machine-readable format (JSON)\n" ++
  "  --version             show program's version number and exit\n" ++
  "\n" ++
  "Example:\n" ++
  "  # Generate a Symbols CSV file from a source file.\n" ++
  "  $ bundle-cxx list-symbols mysource.cxx --csv mysource_symbols.csv -DMYSOURCE_IMPLEMENTATION\n" ++
  "\n" ++
  "  # Now edit `mysource_symbols.csv` to rename symbols as needed.\n" ++
  "  # The `filename_line` in the CSV indicates where each symbol is defined.\n" ++
  "  # The `kind_display_name` is the original symbol kind and name.\n" ++
  "  # The `new_display_name` is where you can specify the new name for the symbol.\n" ++
  "\n" ++
  "  # Finally, bundle the source file using the edited Symbols CSV file.\n" ++
  "  $ bundle-cxx bundle mysource.cxx -c mysource_symbols.csv -o mysource_bundled.cxx\n" ++
  "\n" ++
  "Arguments after \"--\" are forwarded untouched. Use it for tool arguments that\n" ++
  "start like a bundle-cxx option, e.g. `-cfoo`, which would otherwise be read\n" ++
  "as `--csv foo`:\n" ++
  "  $ bundle-cxx bundle mysource.cxx -c mysource_symbols.csv -- -cfoo\n"

def listingUsage : String :=
  "usage: bundle-cxx list-symbols [-h] [-c CSV] [source] [tool_args ...]\n"

def listingDetails : String :=
  "positional arguments:\n" ++
  "  source             C/C++ source file to parse\n" ++
  "  tool_args          Additional arguments for libclang (e.g. -DFOO)\n" ++
  "\n" ++
  "options:\n" ++
  "  -h, --help         show this help message and exit\n" ++
  "  -c CSV, --csv CSV  Symbols CSV file path (default: <source-stem>_symbols.csv)\n"

def bundlingUsage : String :=
  "usage: bundle-cxx bundle [-h] [-c CSV] [-o OUTPUT] [--dry-run] [source] [tool_args ...]\n"

def bundlingDetails : String :=
  "positional arguments:\n" ++
  "  source                C/C++ source file to bundle\n" ++
  "  tool_args             Additional arguments for amalgamate\n" ++
  "\n" ++
  "options:\n" ++
  "  -h, --help            show this help message and exit\n" ++
  "  -c CSV, --csv CSV     Symbols CSV file path\n" ++
  "  -o OUTPUT, --output OUTPUT\n" ++
  "                        Output file path (default: <source-stem>_bundled<ext>)\n" ++
  "  --dry-run             Show planned renames without modifying files or running amalgamate\n"

def statusUsage : String :=
  "usage: bundle-cxx status [-h] [--format \x7btext,json\x7d]\n"

def statusDetails : String :=
  "options:\n" ++
  "  -h, --help            show this help message and exit\n" ++
  "  --format \x7btext,json\x7d  Output format\n"

def configUsage : String :=
  "usage: bundle-cxx config [-h] \x7bshow,init,validate\x7d ...\n"

def configDetails : String :=
  "positional arguments:\n" ++
  "  \x7bshow,init,validate\x7d  Configuration actions\n" ++
  "    show                Show current configuration\n" ++
  "    init                Create a default configuration file\n" ++
  "    validate            Validate a configuration file\n" ++
  "\n" ++
  "options:\n" ++
  "  -h, --help            show this help message and exit\n"

def showUsage : String :=
  "usage: bundle-cxx config show [-h]\n"

def showDetails : String :=
  "options:\n" ++
  "  -h, --help  show this help message and exit\n"

def initUsage : String :=
  "usage: bundle-cxx config init [-h] [--path PATH] [--format \x7bjson,yaml\x7d]\n"

def initDetails : String :=
  "options:\n" ++
  "  -h, --help            show this help message and exit\n" ++
  "  --path PATH           Configuration file path\n" ++
  "  --format \x7bjson,yaml\x7d  Configuration file format\n"

def validateUsage : String :=
  "usage: bundle-cxx config validate [-h] config_file\n"

def validateDetails : String :=
  "positional arguments:\n" ++
  "  config_file  Configuration file to validate\n" ++
  "\n" ++
  "options:\n" ++
  "  -h, --help   show this help message and exit\n"

end Amalgam.CommandLine.Help
