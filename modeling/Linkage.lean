import Linkage.Arguments
import Linkage.Binary64
import Linkage.Bundle
import Linkage.Classification
import Linkage.Execution
import Linkage.Failure
import Linkage.FileTree
import Linkage.Grammar
import Linkage.Graph
import Linkage.Graph.View
import Linkage.Host
import Linkage.Ignore
import Linkage.Ignore.Glob
import Linkage.Ignore.Pattern
import Linkage.Invocation
import Linkage.Json
import Linkage.Json.Merge
import Linkage.Json.Printer
import Linkage.Json.Reader
import Linkage.Literal
import Linkage.Log
import Linkage.Main
import Linkage.ModuleFile
import Linkage.Path
import Linkage.Pool
import Linkage.Project
import Linkage.Proofs.CharacterBytes
import Linkage.Proofs.CommentInsertion
import Linkage.Proofs.ContentChange
import Linkage.Proofs.CookedLiterals
import Linkage.Proofs.DeepPlaces
import Linkage.Proofs.DirectoryPatterns
import Linkage.Proofs.DistinctKeys
import Linkage.Proofs.DistinctProbes
import Linkage.Proofs.EdgeSoundness
import Linkage.Proofs.ErrorSearch
import Linkage.Proofs.ExportDecision
import Linkage.Proofs.FileCollection
import Linkage.Proofs.FileRemoval
import Linkage.Proofs.FileSurvey
import Linkage.Proofs.FlagPlacement
import Linkage.Proofs.Footprint
import Linkage.Proofs.GlobLanguage
import Linkage.Proofs.GraphStatus
import Linkage.Proofs.HidingLines
import Linkage.Proofs.IgnoreLines
import Linkage.Proofs.IgnoreVerdict
import Linkage.Proofs.LexicalCandidates
import Linkage.Proofs.LiteralPatterns
import Linkage.Proofs.MergeProvenance
import Linkage.Proofs.NameReading
import Linkage.Proofs.NamesKept
import Linkage.Proofs.NearestRoot
import Linkage.Proofs.NestedCode
import Linkage.Proofs.NodeInvariants
import Linkage.Proofs.NodeParts
import Linkage.Proofs.NormalPath
import Linkage.Proofs.OctalEscapes
import Linkage.Proofs.PartReading
import Linkage.Proofs.PathText
import Linkage.Proofs.PathsBelow
import Linkage.Proofs.PlaceLookup
import Linkage.Proofs.PoolProgress
import Linkage.Proofs.PoolRun
import Linkage.Proofs.ProjectFiles
import Linkage.Proofs.ProjectRoot
import Linkage.Proofs.PrunedSubtrees
import Linkage.Proofs.RefusedPaths
import Linkage.Proofs.Resolution
import Linkage.Proofs.ResolveAgreement
import Linkage.Proofs.ResolverSearch
import Linkage.Proofs.Respect
import Linkage.Proofs.SettingsLayers
import Linkage.Proofs.SettingsShown
import Linkage.Proofs.Settling
import Linkage.Proofs.ShiftedTrees
import Linkage.Proofs.SpanTexts
import Linkage.Proofs.StatementFailure
import Linkage.Proofs.StatementRun
import Linkage.Proofs.StatementYield
import Linkage.Proofs.SurveyIsolation
import Linkage.Proofs.SurveyOrder
import Linkage.Proofs.SurveyPartition
import Linkage.Proofs.TextOrder
import Linkage.Proofs.Translation
import Linkage.Proofs.TransportTags
import Linkage.Proofs.TreeFiles
import Linkage.Proofs.TypedSettings
import Linkage.Proofs.ViewReading
import Linkage.Resolver
import Linkage.Setting
import Linkage.Settings
import Linkage.Settings.Resolver
import Linkage.Source
import Linkage.Span
import Linkage.Statement
import Linkage.Statement.Annotation
import Linkage.Statement.Definition
import Linkage.Statement.Export
import Linkage.Statement.Expression
import Linkage.Statement.Import
import Linkage.Statement.Reading
import Linkage.Survey
import Linkage.SyntaxTree
import Linkage.Text
import Linkage.Text.Blank
import Linkage.Text.Digit
import Linkage.Text.LetterCase
import Linkage.Text.Numeral
import Linkage.Text.Printable
import Linkage.Text.Quoted
import Linkage.Text.Utf8
import Linkage.Token
import Linkage.Token.Leaf
import Linkage.Token.Lexer
import Linkage.Token.Trivia
import Linkage.Traced
