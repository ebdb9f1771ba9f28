import ResultLint.Text.Blank
import ResultLint.Text.Letter
import ResultLint.Text.Visible
import ResultLint.Text.Double
import ResultLint.Text.Pattern
import ResultLint.Text.Similarity
import ResultLint.Dictionary
import ResultLint.Path
import ResultLint.Language
import ResultLint.Workspace
import ResultLint.Arena
import ResultLint.Arena.Usage
import ResultLint.Arena.Outline
import ResultLint.TypeName
import ResultLint.Annotation
import ResultLint.Annotation.Text
import ResultLint.Marker
import ResultLint.Properties
import ResultLint.Config.Value
import ResultLint.Config.Basic
import ResultLint.Config.Glob
import ResultLint.Config.Yaml.Token
import ResultLint.Config.Yaml.Token.Scalar
import ResultLint.Config.Yaml.Token.Stream
import ResultLint.Config.Yaml.Node
import ResultLint.Config.Yaml
import ResultLint.Config.Toml
import ResultLint.Config.Json
import ResultLint.Config.File
import ResultLint.Ignore.Glob
import ResultLint.Ignore.Rules
import ResultLint.Discovery
import ResultLint.Policy
import ResultLint.Finding
import ResultLint.Source
import ResultLint.Syntax
import ResultLint.Java.Syntax
import ResultLint.Java.Token
import ResultLint.Repair
import ResultLint.Java.Reader
import ResultLint.Java.Repair
import ResultLint.Java.Grammar
import ResultLint.Java.Parse
import ResultLint.Kotlin.Syntax
import ResultLint.Kotlin.Token
import ResultLint.Kotlin.Reader
import ResultLint.Kotlin.Grammar
import ResultLint.Recovery
import ResultLint.Kotlin.TopLevel
import ResultLint.SourceUnit
import ResultLint.Java.SourceUnit
import ResultLint.Kotlin.SourceUnit
import ResultLint.SourceFile
import ResultLint.Project
import ResultLint.Resolution
import ResultLint.Analysis
import ResultLint.Report.Document
import ResultLint.Report
import ResultLint.CommandLine.Flag
import ResultLint.CommandLine.Help
import ResultLint.CommandLine.Parse
import ResultLint.Run
import ResultLint.Main
import ResultLint.Proofs.Arena.Walk
import ResultLint.Proofs.Arena.Shape
import ResultLint.Proofs.Lowering
import ResultLint.Proofs.Java.Shape
import ResultLint.Proofs.Java.DiscardedCalls
import ResultLint.Proofs.Kotlin.Shape
import ResultLint.Proofs.Kotlin.Subtrees
import ResultLint.Proofs.Kotlin.BranchValues
import ResultLint.Proofs.Findings.Order
import ResultLint.Proofs.Analysis.Exemptions
import ResultLint.Proofs.Analysis.Reported
import ResultLint.Proofs.Arena.Growth
import ResultLint.Proofs.Lowering.Sound
import ResultLint.Proofs.Lowering.Spans
import ResultLint.Proofs.Lowering.Rules
import ResultLint.Proofs.Java.Sound
import ResultLint.Proofs.Kotlin.Sound
import ResultLint.Proofs.Lowering.Units
import ResultLint.Proofs.Lowering.Files
import ResultLint.Proofs.Project.Tables
import ResultLint.Proofs.Resolution.Markers
import ResultLint.Proofs.Resolution.Candidates
import ResultLint.Proofs.Arena.Rounds
import ResultLint.Proofs.Marker.Exemption
import ResultLint.Proofs.Marker.Effective
import ResultLint.Proofs.Dictionary.OfList
import ResultLint.Proofs.Annotation.Written
import ResultLint.Proofs.Annotation.Groups
import ResultLint.Proofs.Config.Patterns
import ResultLint.Proofs.Lowering.Arity
import ResultLint.Proofs.Dictionary.Lookup
import ResultLint.Proofs.Properties.Reading
import ResultLint.Proofs.Properties.Escapes
import ResultLint.Proofs.Properties.Written
import ResultLint.Proofs.Annotation.Names
import ResultLint.Proofs.Config.Roots
import ResultLint.Proofs.Lowering.Sites
import ResultLint.Proofs.Java.ReceiverTypes
import ResultLint.Proofs.Kotlin.ReceiverTypes
import ResultLint.Proofs.Lowering.ReceiverTypes
