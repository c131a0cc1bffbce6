import OutlineWiki.Builder
import OutlineWiki.Command.Arguments
import OutlineWiki.Command.Error
import OutlineWiki.Command.Flag
import OutlineWiki.Command.Log
import OutlineWiki.Command.Panel
import OutlineWiki.Command.Run
import OutlineWiki.Document.Decode
import OutlineWiki.Document.Encode
import OutlineWiki.Document.Failure
import OutlineWiki.Document.Identity
import OutlineWiki.Document.Kind
import OutlineWiki.Document.Node
import OutlineWiki.Document.PlainText
import OutlineWiki.Document.Source
import OutlineWiki.Fault
import OutlineWiki.Files.Fault
import OutlineWiki.Files.Path
import OutlineWiki.Files.Tree
import OutlineWiki.Json.Basic
import OutlineWiki.Json.Fault
import OutlineWiki.Json.Grammar
import OutlineWiki.Json.Reader
import OutlineWiki.Json.Writer
import OutlineWiki.Main
import OutlineWiki.Markup.Marks
import OutlineWiki.Markup.State
import OutlineWiki.Markup.Table
import OutlineWiki.Markup.Write
import OutlineWiki.Markup.Writer
import OutlineWiki.Number.Binary64
import OutlineWiki.Number.Digits
import OutlineWiki.Number.Shortest
import OutlineWiki.Options
import OutlineWiki.Output.Given
import OutlineWiki.Output.Target
import OutlineWiki.Renderer
import OutlineWiki.Settings.Discover
import OutlineWiki.Settings.Format
import OutlineWiki.Settings.Load
import OutlineWiki.Settings.Timestamp
import OutlineWiki.Settings.Value
import OutlineWiki.Table.Cookie
import OutlineWiki.Table.Layout
import OutlineWiki.Table.Lines
import OutlineWiki.Table.MeasureLog
import OutlineWiki.Table.Rows
import OutlineWiki.Table.WidthCache
import OutlineWiki.Text.Blank
import OutlineWiki.Text.CodeSet
import OutlineWiki.Text.DecimalDigit
import OutlineWiki.Text.Halves
import OutlineWiki.Text.Lines
import OutlineWiki.Text.Lowercase
import OutlineWiki.Text.Printable
import OutlineWiki.Text.Quoted
import OutlineWiki.Text.Width
import OutlineWiki.Text.WidthTables
import OutlineWiki.Toml.Reader
import OutlineWiki.Toml.Table
import OutlineWiki.Workbench
import OutlineWiki.Yaml.Reader
import OutlineWiki.Yaml.Scalar
import OutlineWiki.Yaml.Text
import OutlineWiki.Proofs.JsonScalars
import OutlineWiki.Proofs.JsonValues
import OutlineWiki.Proofs.JsonReadings
import OutlineWiki.Proofs.JsonScalarTexts
import OutlineWiki.Proofs.JsonGrammar
import OutlineWiki.Proofs.TreeObjects
import OutlineWiki.Proofs.TreeReadings
import OutlineWiki.Proofs.TreeSources
import OutlineWiki.Proofs.NumericValues
import OutlineWiki.Proofs.AcceptedTrees
import OutlineWiki.Proofs.ParsingStages
import OutlineWiki.Proofs.LongNumbers
import OutlineWiki.Proofs.LoadingStages
import OutlineWiki.Proofs.Agreement
import OutlineWiki.Proofs.NodeAgreement
import OutlineWiki.Proofs.InlineText
import OutlineWiki.Proofs.OneLine
import OutlineWiki.Proofs.TableText
import OutlineWiki.Proofs.LayoutsMade
import OutlineWiki.Proofs.Widths
import OutlineWiki.Proofs.TableLines
import OutlineWiki.Proofs.ColumnAlignment
import OutlineWiki.Proofs.RendererReuse
import OutlineWiki.Proofs.IndependentBlocks
import OutlineWiki.Proofs.TableMoments
import OutlineWiki.Proofs.MemoryTurns
import OutlineWiki.Proofs.TablePlaces
import OutlineWiki.Proofs.TurnAgreement
import OutlineWiki.Proofs.NestedWidths
import OutlineWiki.Proofs.TableVisits
import OutlineWiki.Proofs.NestedTables
import OutlineWiki.Proofs.Ink
import OutlineWiki.Proofs.StrayRows
import OutlineWiki.Proofs.KeptInk
import OutlineWiki.Proofs.TotalRendering
import OutlineWiki.Proofs.KeptText
import OutlineWiki.Proofs.LayoutCells
import OutlineWiki.Proofs.KeylessText
import OutlineWiki.Proofs.FreshKeys
import OutlineWiki.Proofs.SharedRows
import OutlineWiki.Proofs.LineBlocks
import OutlineWiki.Proofs.TableDocuments
import OutlineWiki.Proofs.UnsharedCopies
import OutlineWiki.Proofs.TextHalves
import OutlineWiki.Proofs.FirstOf
import OutlineWiki.Proofs.SettingsGiven
import OutlineWiki.Proofs.SettingsFound
import OutlineWiki.Proofs.FlagUses
import OutlineWiki.Proofs.OptionSources
import OutlineWiki.Proofs.CommandFiles
import OutlineWiki.Proofs.ListForms
import OutlineWiki.Proofs.SameSteps
import OutlineWiki.Proofs.ItemTexts
import OutlineWiki.Proofs.ListNumbering
import OutlineWiki.Proofs.WidthHistory
import OutlineWiki.Proofs.LayoutMeaning
import OutlineWiki.Proofs.LinkedSteps
import OutlineWiki.Proofs.LinkedNodes
import OutlineWiki.Proofs.TablesWithoutColumns
import OutlineWiki.Proofs.BufferedVisits
import OutlineWiki.Proofs.VisitDiscipline
import OutlineWiki.Proofs.LenientReading
import OutlineWiki.Proofs.MeasuredText
import OutlineWiki.Proofs.PaddedText
import OutlineWiki.Proofs.RowsReadBack
import OutlineWiki.Proofs.JoinedTexts
import OutlineWiki.Proofs.PlainTextLeaves
import OutlineWiki.Proofs.NestedDocuments
import OutlineWiki.Proofs.VerbatimCode
import OutlineWiki.Proofs.KeptBreaks
import OutlineWiki.Proofs.MemberOrder
import OutlineWiki.Proofs.Words
