import GrammarForge.BuildScript.Compile
import GrammarForge.BuildScript.DirectiveSink
import GrammarForge.BuildScript.OutputStream
import GrammarForge.Code.Condition
import GrammarForge.Code.Layout
import GrammarForge.Code.Names
import GrammarForge.Code.Units
import GrammarForge.CommandLine.Arguments
import GrammarForge.CommandLine.Check
import GrammarForge.CommandLine.Commands
import GrammarForge.CommandLine.Config
import GrammarForge.CommandLine.ConfigText
import GrammarForge.CommandLine.Generate
import GrammarForge.CommandLine.Program
import GrammarForge.FileSystem
import GrammarForge.Generation.Analysis
import GrammarForge.Generation.Host
import GrammarForge.Generation.Plan
import GrammarForge.Generation.Recorder
import GrammarForge.Grammar.Basic
import GrammarForge.Grammar.Body
import GrammarForge.Grammar.Braces
import GrammarForge.Grammar.Environment
import GrammarForge.Grammar.Error
import GrammarForge.Grammar.Expr
import GrammarForge.Grammar.File
import GrammarForge.Grammar.Quoted
import GrammarForge.Grammar.Scan
import GrammarForge.Grammar.Token
import GrammarForge.LogicalName
import GrammarForge.Main
import GrammarForge.Path
import GrammarForge.Processing.Attempt
import GrammarForge.Processing.Diagnostic
import GrammarForge.Processing.Options
import GrammarForge.Processing.Processor
import GrammarForge.Processing.Queue
import GrammarForge.Processing.Rounds
import GrammarForge.Store.Basic
import GrammarForge.Store.BufferedFile
import GrammarForge.Store.Directory
import GrammarForge.Store.Emission
import GrammarForge.Store.Memory
import GrammarForge.Store.Scripted
import GrammarForge.SystemError
import GrammarForge.Text.Blank
import GrammarForge.Text.CodeRun
import GrammarForge.Text.Escaped
import GrammarForge.Text.Identifier
import GrammarForge.Text.LetterCase
import GrammarForge.Text.LetterCaseTable
import GrammarForge.Text.Split
import GrammarForge.Text.Utf8
import GrammarForge.Text.VisibleTable
import GrammarForge.Text.Words
import GrammarForge.Toml.Document
import GrammarForge.Toml.Moment
import GrammarForge.Toml.Number
import GrammarForge.Toml.Quoted
import GrammarForge.Toml.Token
import GrammarForge.Toml.Value
import GrammarForge.Proofs.Grammar.BodyReading
import GrammarForge.Proofs.Grammar.FileReading
import GrammarForge.Proofs.Generation.KeptRules
import GrammarForge.Proofs.Generation.LaterRules
import GrammarForge.Proofs.Grammar.AcceptedFiles
import GrammarForge.Proofs.Grammar.NormalForm
import GrammarForge.Proofs.Grammar.PrintedText
import GrammarForge.Proofs.Grammar.BalancedBraces
import GrammarForge.Proofs.Grammar.RoundTrip
import GrammarForge.Proofs.Code.Remarks
import GrammarForge.Proofs.Code.Identifiers
import GrammarForge.Proofs.Code.Lexemes
import GrammarForge.Proofs.Code.Reading
import GrammarForge.Proofs.Code.Spelling
import GrammarForge.Proofs.Code.Functions
import GrammarForge.Proofs.Code.Execution
import GrammarForge.Proofs.Grammar.Meaning
import GrammarForge.Proofs.Code.Soundness
import GrammarForge.Proofs.Code.Completeness
import GrammarForge.Proofs.Code.GeneratedParsers
import GrammarForge.Proofs.Text.Parts
import GrammarForge.Proofs.FileSystem.Parents
import GrammarForge.Proofs.FileSystem.Walks
import GrammarForge.Proofs.FileSystem.Reading
import GrammarForge.Proofs.Store.MemoryHistory
import GrammarForge.Proofs.Processing.Reports
import GrammarForge.Proofs.Processing.Requests
import GrammarForge.Proofs.Processing.Directories
import GrammarForge.Proofs.Processing.FirstRequests
import GrammarForge.Proofs.Processing.Isolation
import GrammarForge.Proofs.CommandLine.CheckedFiles
import GrammarForge.Proofs.LogicalName.Components
import GrammarForge.Proofs.FileSystem.Places
import GrammarForge.Proofs.FileSystem.Growth
import GrammarForge.Proofs.Store.BufferedFiles
import GrammarForge.Proofs.Store.DirectoryFiles
import GrammarForge.Proofs.Processing.RequestChains
import GrammarForge.Proofs.Processing.DirectoryRuns
import GrammarForge.Proofs.Processing.SharedPaths
import GrammarForge.Proofs.Generation.Plans
import GrammarForge.Proofs.Generation.CallTraces
import GrammarForge.Proofs.FileSystem.Entries
import GrammarForge.Proofs.Store.Sessions
import GrammarForge.Proofs.Store.Agreement
import GrammarForge.Proofs.Store.SameAnswers
import GrammarForge.Proofs.Processing.AttemptTraces
import GrammarForge.Proofs.Processing.GrammarLists
import GrammarForge.Proofs.Code.CommentedCode
import GrammarForge.Proofs.Code.NamesInCode
import GrammarForge.Proofs.Code.ParserReading
import GrammarForge.Proofs.Code.TypesReading
import GrammarForge.Proofs.Generation.References
import GrammarForge.Proofs.Code.DistinctNames
import GrammarForge.Proofs.Generation.DistinctDeclarations
import GrammarForge.Proofs.Processing.RoundLoop
import GrammarForge.Proofs.Processing.Regeneration
import GrammarForge.Proofs.BuildScript.PrintedLines
import GrammarForge.Proofs.BuildScript.LimitedOutput
import GrammarForge.Proofs.FileSystem.Errors
import GrammarForge.Proofs.Grammar.SyntaxErrors
import GrammarForge.Proofs.LogicalName.NameErrors
import GrammarForge.Proofs.Generation.Messages
import GrammarForge.Proofs.Processing.DiagnosticLines
import GrammarForge.Proofs.BuildScript.OutputLines
import GrammarForge.Proofs.Grammar.ScannedPieces
import GrammarForge.Proofs.Grammar.MovedTokens
import GrammarForge.Proofs.Grammar.JoinedFiles
import GrammarForge.Proofs.Grammar.RuleSpans
import GrammarForge.Proofs.Store.AgreeingStores
import GrammarForge.Proofs.Processing.IndependentGrammars
import GrammarForge.Proofs.Store.DiscardedRequests
import GrammarForge.Proofs.Processing.RunsIntoSources
import GrammarForge.Proofs.Grammar.NestedBraces
import GrammarForge.Proofs.Grammar.TokenShapes
import GrammarForge.Proofs.Grammar.TokenPlaces
import GrammarForge.Proofs.Grammar.SpacedWords
import GrammarForge.Proofs.Grammar.ErrorPlaces
import GrammarForge.Proofs.Generation.AnalysisPasses
import GrammarForge.Proofs.Grammar.BodyNames
import GrammarForge.Proofs.Grammar.BytePositions
import GrammarForge.Proofs.Grammar.ByteScanner
import GrammarForge.Proofs.Grammar.Descent
import GrammarForge.Proofs.Grammar.DescentBodies
import GrammarForge.Proofs.Grammar.DescentFiles
import GrammarForge.Proofs.Grammar.TotalParsing
import GrammarForge.Proofs.Grammar.EndOfFile
import GrammarForge.Proofs.Text.WordBreaks
import GrammarForge.Proofs.Text.SingleWords
import GrammarForge.Proofs.Code.UsableNames
import GrammarForge.Proofs.LogicalName.ModulePaths
import GrammarForge.Proofs.Processing.UnitCollisions
import GrammarForge.Proofs.LogicalName.Decomposition
import GrammarForge.Proofs.Store.Bookkeeping
import GrammarForge.Proofs.Processing.SelfCheck
import GrammarForge.Proofs.CommandLine.GrammarSettings
