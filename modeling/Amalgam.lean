import Amalgam.Backup
import Amalgam.Bundle.Bundler
import Amalgam.Bundle.Result
import Amalgam.Calendar
import Amalgam.CommandLine.Forward
import Amalgam.CommandLine.Grammar
import Amalgam.CommandLine.Help
import Amalgam.CommandLine.Invocation
import Amalgam.CommandLine.Reading
import Amalgam.CommandLine.Run
import Amalgam.Config.Environment
import Amalgam.Config.Fault
import Amalgam.Config.Load
import Amalgam.Config.Merge
import Amalgam.Config.Save
import Amalgam.Config.Settings
import Amalgam.Config.Validate
import Amalgam.Console.Cells
import Amalgam.Console.Literal
import Amalgam.Console.Literal.Computed
import Amalgam.Console.Literal.Grammar
import Amalgam.Console.Literal.Reader
import Amalgam.Console.Literal.Strings
import Amalgam.Console.Literal.Token
import Amalgam.Console.Markup
import Amalgam.Console.Printer
import Amalgam.Console.Style
import Amalgam.Console.StyledText
import Amalgam.Console.Table
import Amalgam.Console.Wrap
import Amalgam.Failure
import Amalgam.FileSystem
import Amalgam.Json.Reader
import Amalgam.Json.Writer
import Amalgam.Main
import Amalgam.Merger
import Amalgam.Number.Binary64
import Amalgam.Number.Decimal
import Amalgam.Number.Digit
import Amalgam.Number.Integer
import Amalgam.Number.Total
import Amalgam.Path
import Amalgam.Rename.File
import Amalgam.Rename.Pass
import Amalgam.Rename.Word
import Amalgam.Report
import Amalgam.Symbols.Csv
import Amalgam.Symbols.Entry
import Amalgam.Symbols.File
import Amalgam.Symbols.Name
import Amalgam.Symbols.Source
import Amalgam.Symbols.Table
import Amalgam.Text.Base64
import Amalgam.Text.Charts.Chinese
import Amalgam.Text.Charts.HongKong
import Amalgam.Text.Charts.Japanese
import Amalgam.Text.Charts.Korean
import Amalgam.Text.Charts.Taiwanese
import Amalgam.Text.Class
import Amalgam.Text.Encoding
import Amalgam.Text.Escape
import Amalgam.Text.Glyph
import Amalgam.Text.LetterCase
import Amalgam.Text.Multibyte
import Amalgam.Text.Multibyte.Chinese
import Amalgam.Text.Multibyte.Iso2022
import Amalgam.Text.Multibyte.Japanese
import Amalgam.Text.Multibyte.Korean
import Amalgam.Text.Pages
import Amalgam.Text.Quoted
import Amalgam.Text.Ranges.Alphanumeric
import Amalgam.Text.Ranges.CellWidth
import Amalgam.Text.Ranges.Digit
import Amalgam.Text.Ranges.Identifier
import Amalgam.Text.Ranges.LetterCase
import Amalgam.Text.Ranges.Printable
import Amalgam.Text.Repertoire
import Amalgam.Text.Scheme
import Amalgam.Text.Slice
import Amalgam.Text.Utf7
import Amalgam.Tool
import Amalgam.Value
import Amalgam.World
import Amalgam.Yaml.Load
import Amalgam.Yaml.Merge
import Amalgam.Yaml.Node
import Amalgam.Yaml.Resolve
import Amalgam.Yaml.Scalar
import Amalgam.Yaml.ScalarValue
import Amalgam.Yaml.Scan
import Amalgam.Yaml.Token
import Amalgam.Yaml.Writer
import Amalgam.Proofs.FileSystem.Locate
import Amalgam.Proofs.FileSystem.Change
import Amalgam.Proofs.Backup.Site
import Amalgam.Proofs.World.Running
import Amalgam.Proofs.Backup.Passes
import Amalgam.Proofs.Bundle.Stages
import Amalgam.Proofs.Backup.Session
import Amalgam.Proofs.Rename.File
import Amalgam.Proofs.Bundle.Session
import Amalgam.Proofs.Bundle.Restoration
import Amalgam.Proofs.Backup.Frame
import Amalgam.Proofs.Bundle.Frame
import Amalgam.Proofs.Symbols.Grouping
import Amalgam.Proofs.Bundle.MergerView
import Amalgam.Proofs.Bundle.Runs
import Amalgam.Proofs.Backup.Vacancy
import Amalgam.Proofs.Symbols.Csv
import Amalgam.Proofs.Symbols.Table
import Amalgam.Proofs.Symbols.WellHeaded
import Amalgam.Proofs.Text.Utf8
import Amalgam.Proofs.Symbols.File
import Amalgam.Proofs.Backup.Undo
import Amalgam.Proofs.Bundle.Output
import Amalgam.Proofs.Rename.Report
import Amalgam.Proofs.Bundle.DryRun
import Amalgam.Proofs.Value.Bindings
import Amalgam.Proofs.Value.Result
import Amalgam.Proofs.Json.Document
import Amalgam.Proofs.Config.Accepted
import Amalgam.Proofs.Config.Refusal
import Amalgam.Proofs.Config.DeepMerge
import Amalgam.Proofs.Symbols.Location
import Amalgam.Proofs.Bundle.TableFaults
import Amalgam.Proofs.Bundle.LeftInPlace
import Amalgam.Proofs.Bundle.Recovery
import Amalgam.Proofs.Number.Digits
import Amalgam.Proofs.Number.Binary64
import Amalgam.Proofs.Value.Depth
import Amalgam.Proofs.Json.Grammar
import Amalgam.Proofs.Json.Reading
import Amalgam.Proofs.Json.Numerals
import Amalgam.Proofs.Json.Writing
import Amalgam.Proofs.Json.RoundTrip
import Amalgam.Proofs.Config.Saved
import Amalgam.Proofs.World.Printing
import Amalgam.Proofs.CommandLine.Silence
import Amalgam.Proofs.CommandLine.Documents
import Amalgam.Proofs.CommandLine.MachineReadable
import Amalgam.Proofs.Rename.Parts
import Amalgam.Proofs.Rename.Spans
import Amalgam.Proofs.Symbols.Name
import Amalgam.Proofs.Rename.Sequence
import Amalgam.Proofs.Rename.Locality
import Amalgam.Proofs.Rename.AtOnce
import Amalgam.Proofs.Rename.Clean
import Amalgam.Proofs.Symbols.Extraction
import Amalgam.Proofs.Text.RawBytes
import Amalgam.Proofs.Text.LineEnds
import Amalgam.Proofs.Rename.Reversal
import Amalgam.Proofs.Rename.Bytes
import Amalgam.Proofs.Rename.LineEnds
import Amalgam.Proofs.Backup.Rollback
import Amalgam.Proofs.Backup.SilentExit
import Amalgam.Proofs.Bundle.Listing
import Amalgam.Proofs.CommandLine.Forwarding
import Amalgam.Proofs.CommandLine.Separator
import Amalgam.Proofs.Backup.Independence
import Amalgam.Proofs.Bundle.Preconditions
import Amalgam.Proofs.Bundle.Consistency
import Amalgam.Proofs.Symbols.Partition
import Amalgam.Proofs.Symbols.Listed
import Amalgam.Proofs.Console.Layout
import Amalgam.Proofs.Console.Escaping
import Amalgam.Proofs.Console.Output
import Amalgam.Proofs.CommandLine.ExitStatus
import Amalgam.Proofs.Value.Equality
import Amalgam.Proofs.Config.Formats
import Amalgam.Proofs.CommandLine.Commands
import Amalgam.Proofs.CommandLine.Creation
