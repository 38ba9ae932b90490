import PathVersions.Main
import PathVersions.SourcePath
import PathVersions.Proofs.Path.Segments
import PathVersions.Proofs.Path.Stripping
import PathVersions.Proofs.Pattern.Search
import PathVersions.Proofs.Pattern.Remainder
import PathVersions.Proofs.Pattern.Closing
import PathVersions.Proofs.Pattern.BracketClosing
import PathVersions.Proofs.Pattern.Enclosure
import PathVersions.Proofs.Grammar.Marks
import PathVersions.Proofs.Pattern.MarkedSize
import PathVersions.Proofs.Grammar.Validity
import PathVersions.Proofs.Pattern.FirstBranch
import PathVersions.Proofs.Grammar.WholeSegments
import PathVersions.Proofs.Path.Root
import PathVersions.Proofs.Toml.WrittenText
import PathVersions.Proofs.Toml.WrittenDocument
import PathVersions.Proofs.Toml.Keeping
import PathVersions.Proofs.Config.Described
import PathVersions.Proofs.Config.RoundTrip
import PathVersions.Proofs.Config.Rendered
import PathVersions.Proofs.Config.Shown
import PathVersions.Proofs.Pattern.Language
import PathVersions.Proofs.Pattern.Rearranged
import PathVersions.Proofs.Pattern.Bordered
import PathVersions.Proofs.Grammar.Language
import PathVersions.Proofs.Utf8.RawText
import PathVersions.Proofs.Utf8.Order
import PathVersions.Proofs.Config.Loading
import PathVersions.Proofs.Path.Truncation
import PathVersions.Proofs.Command.NameMap
import PathVersions.Proofs.Command.Registry
import PathVersions.Proofs.Command.Registrations
import PathVersions.Proofs.Command.Answers
import PathVersions.Proofs.Command.Execution
import PathVersions.Proofs.Command.ValidConfigurations
import PathVersions.Proofs.Command.Overview
import PathVersions.Proofs.Command.Invocation
import PathVersions.Proofs.Cli.Positions
import PathVersions.Proofs.Cli.Outcomes
import PathVersions.Proofs.Cli.PathCommands
import PathVersions.Proofs.Text.Hex
import PathVersions.Proofs.Json.Literal
import PathVersions.Proofs.Files.Paths
import PathVersions.Proofs.Config.Directory
import PathVersions.Proofs.Number.Canonical
import PathVersions.Proofs.Toml.Regular
import PathVersions.Proofs.Config.Settings
import PathVersions.Proofs.Config.Agreement
import PathVersions.Proofs.Json.Validity
import PathVersions.Proofs.Config.Published
import PathVersions.Proofs.Path.FirstVersion
import PathVersions.Proofs.Pattern.Runs
import PathVersions.Proofs.Grammar.DefaultPattern
import PathVersions.Proofs.Path.Widening
import PathVersions.Proofs.Path.Concatenation
import PathVersions.Proofs.Files.Resolution
import PathVersions.Proofs.Config.Fallback
