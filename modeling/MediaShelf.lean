import MediaShelf.Text.Blank
import MediaShelf.Text.Ascii
import MediaShelf.Text.Search
import MediaShelf.Text.Numeral
import MediaShelf.Text.CaseMap
import MediaShelf.Json.Parser
import MediaShelf.Json.Printer
import MediaShelf.Json.Record
import MediaShelf.Date
import MediaShelf.Path
import MediaShelf.Catalog.Codec
import MediaShelf.Script.Argument
import MediaShelf.Script.TokenValue
import MediaShelf.Script.Program
import MediaShelf.Storage.VolumeTable
import MediaShelf.Placement.Resolve
import MediaShelf.Library.Scripted
import MediaShelf.Library.PlanStream
import MediaShelf.Storage.Tree
import MediaShelf.Settings.Loading
import MediaShelf.Library.Loading
import MediaShelf.Main
import MediaShelf.Proofs.Placement.Decision
import MediaShelf.Proofs.Library.PlanStream
import MediaShelf.Proofs.Script.LineGrammar
import MediaShelf.Proofs.Text.Replacement
import MediaShelf.Proofs.Script.Extension
import MediaShelf.Proofs.Script.Outcome
import MediaShelf.Proofs.Script.Renaming
import MediaShelf.Proofs.Placement.Answer
import MediaShelf.Proofs.Placement.Fallback
import MediaShelf.Proofs.Json.Printed
import MediaShelf.Proofs.Date
import MediaShelf.Proofs.Json.Omission
import MediaShelf.Proofs.Catalog.RoundTrip
import MediaShelf.Proofs.Catalog.Links
import MediaShelf.Proofs.Storage.VolumeTable
import MediaShelf.Proofs.Placement.Agreement
import MediaShelf.Proofs.Library.References
import MediaShelf.Proofs.Placement.Volumes
import MediaShelf.Proofs.Placement.Trouble
import MediaShelf.Proofs.Placement.Room
import MediaShelf.Proofs.Placement.SpaceChecks
import MediaShelf.Proofs.Text.Rows
import MediaShelf.Proofs.Script.Compilation
import MediaShelf.Proofs.Library.Scripted
import MediaShelf.Proofs.Script.LinePrinting
import MediaShelf.Proofs.CommandLine.Preparation
import MediaShelf.Proofs.CommandLine.Agreement
import MediaShelf.Proofs.Catalog.Repeats
import MediaShelf.Proofs.Path.Spelling
import MediaShelf.Proofs.Script.Guard
import MediaShelf.Proofs.Placement.Spelling
import MediaShelf.Proofs.CommandLine.Lines
import MediaShelf.Proofs.Script.NormalForm
import MediaShelf.Proofs.Script.Presence
import MediaShelf.Proofs.Script.Substitution
import MediaShelf.Proofs.Script.Leftover
import MediaShelf.Proofs.Catalog.BothWays
import MediaShelf.Proofs.Script.Literal
import MediaShelf.Proofs.Script.Comparison
import MediaShelf.Proofs.Script.Negation
import MediaShelf.Proofs.Script.Bound
import MediaShelf.Proofs.Library.Deferral
import MediaShelf.Proofs.Script.EpisodeNumber
import MediaShelf.Proofs.Script.EpisodeRange
import MediaShelf.Proofs.Script.EpisodeTitle
import MediaShelf.Proofs.Storage.Innermost
import MediaShelf.Proofs.Settings.Sections
import MediaShelf.Proofs.Settings.Layering
import MediaShelf.Proofs.Catalog.KindSpelling
