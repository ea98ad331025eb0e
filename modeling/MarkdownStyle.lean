import MarkdownStyle.Command.Check
import MarkdownStyle.Command.Run
import MarkdownStyle.Command.Structure
import MarkdownStyle.Config.File
import MarkdownStyle.Config.Loaded
import MarkdownStyle.Console.Print
import MarkdownStyle.Files.Collect
import MarkdownStyle.Files.Lint
import MarkdownStyle.Linter
import MarkdownStyle.Main
import MarkdownStyle.Proofs.Command.Arguments
import MarkdownStyle.Proofs.Command.Check
import MarkdownStyle.Proofs.Command.Outline
import MarkdownStyle.Proofs.Command.Switch
import MarkdownStyle.Proofs.Config.House
import MarkdownStyle.Proofs.Config.Key
import MarkdownStyle.Proofs.Config.Layer
import MarkdownStyle.Proofs.Config.Resolution
import MarkdownStyle.Proofs.Console.Markup
import MarkdownStyle.Proofs.Decimal.Rounding
import MarkdownStyle.Proofs.Edit
import MarkdownStyle.Proofs.Files.Collect
import MarkdownStyle.Proofs.Files.Fix
import MarkdownStyle.Proofs.Files.Listing
import MarkdownStyle.Proofs.Files.Tree
import MarkdownStyle.Proofs.Fix.Accepted
import MarkdownStyle.Proofs.Fix.BlankLine
import MarkdownStyle.Proofs.Fix.Change
import MarkdownStyle.Proofs.Fix.Clean
import MarkdownStyle.Proofs.Fix.DashItem
import MarkdownStyle.Proofs.Fix.Fence
import MarkdownStyle.Proofs.Fix.Fixpoint
import MarkdownStyle.Proofs.Fix.Ink
import MarkdownStyle.Proofs.Fix.Linter
import MarkdownStyle.Proofs.Fix.Mending
import MarkdownStyle.Proofs.Fix.Replay
import MarkdownStyle.Proofs.Fix.Report
import MarkdownStyle.Proofs.Fix.Scan
import MarkdownStyle.Proofs.Line.Block
import MarkdownStyle.Proofs.Line.Break
import MarkdownStyle.Proofs.Line.Concat
import MarkdownStyle.Proofs.Line.Fence
import MarkdownStyle.Proofs.Line.Form
import MarkdownStyle.Proofs.Line.Grammar
import MarkdownStyle.Proofs.Line.Heading
import MarkdownStyle.Proofs.Line.Pass
import MarkdownStyle.Proofs.Line.Reading
import MarkdownStyle.Proofs.Line.Search
import MarkdownStyle.Proofs.Linter.Builtin
import MarkdownStyle.Proofs.Linter.Isolation
import MarkdownStyle.Proofs.Linter.Order
import MarkdownStyle.Proofs.Linter.Run
import MarkdownStyle.Proofs.Linter.Session
import MarkdownStyle.Proofs.Lookup
import MarkdownStyle.Proofs.Opacity
import MarkdownStyle.Proofs.Reference.Clamp
import MarkdownStyle.Proofs.Reference.CodeSpan
import MarkdownStyle.Proofs.Reference.Label
import MarkdownStyle.Proofs.Reference.Placement
import MarkdownStyle.Proofs.Reference.Scan
import MarkdownStyle.Proofs.Reference.Written
import MarkdownStyle.Proofs.Rule.Indent
import MarkdownStyle.Proofs.Rule.InlineMarkup
import MarkdownStyle.Proofs.Rule.Options
import MarkdownStyle.Proofs.Rule.SentenceCase
import MarkdownStyle.Proofs.Rule.Site
import MarkdownStyle.Proofs.Structure.Cover
import MarkdownStyle.Proofs.Structure.Partition
import MarkdownStyle.Proofs.Structure.Section
import MarkdownStyle.Proofs.Text.Breaks
import MarkdownStyle.Proofs.Text.Lines
import MarkdownStyle.Proofs.Text.Respell
import MarkdownStyle.Proofs.Text.Scan
import MarkdownStyle.Proofs.Text.Utf8
import MarkdownStyle.Reference.Placement
import MarkdownStyle.Rule.Listed
import MarkdownStyle.Session
import MarkdownStyle.Structure.Section
import MarkdownStyle.Yaml.Read
