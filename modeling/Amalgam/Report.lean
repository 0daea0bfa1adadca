import Amalgam.Bundle.Result
import Amalgam.Json.Writer
import Amalgam.Number.Total
import Amalgam.Symbols.Table
/-!
# Reports

Results as text for people and as JSON for programs.
-/

namespace Amalgam.Report

open Amalgam.Text Amalgam.Symbols

def optionalText : Option String → Value
  | some s => .text s
  | none => .null

def texts (items : List String) : Value :=
  .list (items.map .text)

/-- Warnings below a heading, if there are any. -/
def warningLines (warnings : List String) : List String :=
  if warnings.isEmpty then [] else "\nWarnings:" :: warnings.map fun w => "  " ++ w

/-! ### Bundling -/

def renamesValue (renames : Renames) : Value :=
  .map (renames.map fun (file, counts) =>
    (.text file, .map (counts.map fun (name, n) => (.text name, .int n))))

def bundleValue (r : BundleResult) : Value :=
  .map
    [(.text "success", .bool r.success), (.text "dry_run", .bool r.dryRun),
     (.text "output_path", optionalText r.outputPath), (.text "renames", renamesValue r.renames),
     (.text "restored_files", texts r.restoredFiles), (.text "errors", texts r.errors),
     (.text "warnings", texts r.warnings), (.text "metadata", .map r.metadata)]

def plannedLine : Value → String
  | .map fields =>
    "    " ++ ((Fields.get? fields "symbol").map Value.shown).getD "" ++ " -> " ++
      ((Fields.get? fields "new_name").map Value.shown).getD ""
  | _ => ""

def plannedLines : Value × Value → List String
  | (file, .list renames) => ("  " ++ file.shown) :: renames.map plannedLine
  | (file, _) => ["  " ++ file.shown]

def planned (r : BundleResult) : Fields :=
  match Fields.get? r.metadata "planned" with
  | some (.map fields) => fields
  | _ => []

def bundleText (r : BundleResult) (withWarnings : Bool) : String :=
  let body :=
    if !r.success then "Bundle failed" :: r.errors.map fun e => "Error: " ++ e
    else if r.dryRun then
      ("Dry run: " ++ numeral (planned r).length ++ " file(s) would be renamed") :: (planned r).flatMap plannedLines
    else
      let replaced := Number.total (r.renames.map fun f => Number.total (f.2.map Prod.snd))
      ["Bundled source written to " ++ (optionalText r.outputPath).shown,
        "Files renamed: " ++ numeral r.renames.length ++ " (" ++ numeral replaced ++ " replacements)",
        "Files restored: " ++ numeral r.restoredFiles.length]
  joined "\n" (body ++ if withWarnings then warningLines r.warnings else [])

/-! ### Listing -/

def listingValue (r : ListingResult) : Except Number.IntegerFault Value := do
  let groups ← groupByFile r.symbols
  let files := (groups.map Prod.fst).mergeSort fun a b => !(b < a)
  return .map
    [(.text "success", .bool r.success), (.text "symbols_path", optionalText r.symbolsPath),
     (.text "symbol_count", .int r.symbols.length), (.text "files", texts files), (.text "errors", texts r.errors),
     (.text "warnings", texts r.warnings), (.text "metadata", .map r.metadata)]

def listingText (r : ListingResult) : Except Number.IntegerFault String := do
  if r.success then
    let groups ← groupByFile r.symbols
    return joined "\n"
      ["Symbols written to " ++ (optionalText r.symbolsPath).shown,
        "Symbols listed: " ++ numeral r.symbols.length ++ " in " ++ numeral groups.length ++ " file(s)"]
  else return joined "\n" ("Listing symbols failed" :: r.errors.map fun e => "Error: " ++ e)

def json (style : Json.Style) (v : Value) : String :=
  match Json.write style v with
  | .ok s => s
  | .error _ => ""

end Amalgam.Report
