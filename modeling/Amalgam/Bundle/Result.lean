import Amalgam.Symbols.Entry
import Amalgam.Value
/-!
# Results

What the two workflows report: whether they succeeded, what they did, and what went wrong.
-/

namespace Amalgam

open Amalgam.Symbols

/-- The result of listing symbols. -/
structure ListingResult where
  success : Bool
  symbolsPath : Option String := none
  symbols : List Entry := []
  errors : List String := []
  warnings : List String := []
  metadata : Fields := []
deriving Repr

/-- How often each name was replaced in each file, files and names in the order in which they were renamed. -/
abbrev Renames := List (String × List (String × Nat))

/-- The result of bundling. -/
structure BundleResult where
  success : Bool
  outputPath : Option String := none
  renames : Renames := []
  restoredFiles : List String := []
  dryRun : Bool := false
  errors : List String := []
  warnings : List String := []
  metadata : Fields := []
deriving Repr

end Amalgam
