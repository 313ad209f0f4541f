import Microtemplate.Settings.Reader
import Microtemplate.Template.Compiled
import Microtemplate.Files.Basic
import Microtemplate.Files.Directory
import Microtemplate.Json.Entries
import Microtemplate.Report
import Microtemplate.Command.Arguments
import Microtemplate.Command.Failure
import Microtemplate.Command.Request
import Microtemplate.Command.Run
import Microtemplate.Main
import Microtemplate.Proofs.Template.Tiling
import Microtemplate.Proofs.Regex.Groups
import Microtemplate.Proofs.Regex.Reading
import Microtemplate.Proofs.Regex.ClassReading
import Microtemplate.Proofs.Regex.ExpressionReading
import Microtemplate.Proofs.Regex.Numbering
import Microtemplate.Proofs.Template.Combination
import Microtemplate.Proofs.Template.RegionSearch
import Microtemplate.Proofs.Template.DelimiterScan
import Microtemplate.Proofs.Script.Lexing
import Microtemplate.Proofs.Script.StringSpelling
import Microtemplate.Proofs.Script.Closing
import Microtemplate.Proofs.Script.Gaps
import Microtemplate.Proofs.Script.GapEnds
import Microtemplate.Proofs.Script.TokenReaders
import Microtemplate.Proofs.Script.TokenEnds
import Microtemplate.Proofs.Script.Cutting
import Microtemplate.Proofs.Script.JsonText
import Microtemplate.Proofs.Script.Running
import Microtemplate.Proofs.Template.Appending
import Microtemplate.Proofs.Template.Rendering
import Microtemplate.Proofs.Template.Segments
import Microtemplate.Proofs.Script.Following
import Microtemplate.Proofs.Script.ExpressionFollowing
import Microtemplate.Proofs.Script.StatementFollowing
import Microtemplate.Proofs.Template.Parts
import Microtemplate.Proofs.Template.PartReading
import Microtemplate.Proofs.Template.Composition
import Microtemplate.Proofs.Script.Sparing
import Microtemplate.Proofs.Script.TokenSpans
import Microtemplate.Proofs.Script.SparingExpressions
import Microtemplate.Proofs.Script.SparingStatements
import Microtemplate.Proofs.Template.GivenText
import Microtemplate.Proofs.Template.SparedNames
import Microtemplate.Proofs.Script.CallNesting
import Microtemplate.Proofs.Script.Grammar
import Microtemplate.Proofs.Script.GrammarReading
import Microtemplate.Proofs.Script.TreeHeight
import Microtemplate.Proofs.Template.ProgramHeight
import Microtemplate.Proofs.Script.ProperTree
import Microtemplate.Proofs.Script.Canonical
import Microtemplate.Proofs.Script.Rereading
import Microtemplate.Proofs.Script.RereadingStatements
import Microtemplate.Proofs.Script.CanonicalReading
import Microtemplate.Proofs.Template.LoopText
import Microtemplate.Proofs.Template.LoopRendering
import Microtemplate.Proofs.Script.Renaming
import Microtemplate.Proofs.Script.Pairing
import Microtemplate.Proofs.Script.PairedBuiltins
import Microtemplate.Proofs.Script.PairedEvaluation
import Microtemplate.Proofs.Script.Keeping
import Microtemplate.Proofs.Script.PreparedTrees
import Microtemplate.Proofs.Script.ConstantBindings
import Microtemplate.Proofs.Script.Hoisting
import Microtemplate.Proofs.Decimal.Nearest
import Microtemplate.Proofs.Decimal.Shortest
import Microtemplate.Proofs.Json.Numbers
import Microtemplate.Proofs.Json.Reading
import Microtemplate.Proofs.Json.Proper
import Microtemplate.Proofs.Script.Stringify
import Microtemplate.Proofs.Script.WrittenData
import Microtemplate.Proofs.Script.OutputText
import Microtemplate.Proofs.Command.AllOrNothing
import Microtemplate.Proofs.Command.SinkRuns
import Microtemplate.Proofs.Script.Advancing
import Microtemplate.Proofs.Script.AdvancingReaders
import Microtemplate.Proofs.Script.FaultPlaces
import Microtemplate.Proofs.Script.ReportPlaces
import Microtemplate.Proofs.Template.BoundVariable
import Microtemplate.Proofs.Script.OutputMoments
import Microtemplate.Proofs.Template.AppendedText
import Microtemplate.Proofs.Script.Resolution
import Microtemplate.Proofs.Script.Cycles
import Microtemplate.Proofs.Script.ArrayText
import Microtemplate.Proofs.Script.OperatorChains
import Microtemplate.Proofs.Template.ChainText
import Microtemplate.Proofs.Script.Mirroring
import Microtemplate.Proofs.Script.UnreadField
import Microtemplate.Proofs.Script.WordStarts
import Microtemplate.Proofs.Template.SurroundingNames
import Microtemplate.Proofs.Template.UnrelatedFields
import Microtemplate.Proofs.Settings.Layers
import Microtemplate.Proofs.Settings.Literals
import Microtemplate.Proofs.Text.Escaping
import Microtemplate.Proofs.Script.PropertyWriting
import Microtemplate.Proofs.Script.GapReplacing
import Microtemplate.Proofs.Script.Iteration
import Microtemplate.Proofs.Decimal.Exact
import Microtemplate.Proofs.Decimal.Figures
import Microtemplate.Proofs.Decimal.Radix
import Microtemplate.Proofs.Decimal.Written
import Microtemplate.Proofs.Decimal.Fixed
import Microtemplate.Proofs.Decimal.Layouts
import Microtemplate.Proofs.Script.NumberMethods
import Microtemplate.Proofs.Script.NumberTokens
import Microtemplate.Proofs.Script.NumberReading
import Microtemplate.Proofs.Text.Search
import Microtemplate.Proofs.Script.Replacement
import Microtemplate.Proofs.Script.Equality
import Microtemplate.Proofs.Script.Searching
import Microtemplate.Proofs.Text.UnitOrder
import Microtemplate.Proofs.Decimal.Order
import Microtemplate.Proofs.Script.Relations
import Microtemplate.Proofs.Text.Places
import Microtemplate.Proofs.Script.LastingText
import Microtemplate.Proofs.Script.Positions
import Microtemplate.Proofs.Text.Splitting
import Microtemplate.Proofs.Script.Splitting
import Microtemplate.Proofs.Template.PrintFunctions
