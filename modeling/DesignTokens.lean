import DesignTokens.Catalog.Color
import DesignTokens.Catalog.Image
import DesignTokens.CommandLine.Arguments
import DesignTokens.CommandLine.Call
import DesignTokens.CommandLine.Help
import DesignTokens.CommandLine.Request
import DesignTokens.Config.Document
import DesignTokens.Config.Key
import DesignTokens.Failure.Problem
import DesignTokens.Failure.Report
import DesignTokens.Files.Action
import DesignTokens.Files.Path
import DesignTokens.Files.Tree
import DesignTokens.Generate.Basic
import DesignTokens.Generate.ColorSet
import DesignTokens.Generate.ImageSet
import DesignTokens.Generate.Manifest
import DesignTokens.Generate.Run
import DesignTokens.Generate.Section
import DesignTokens.Generate.TemplatedFile
import DesignTokens.Keyed
import DesignTokens.Main
import DesignTokens.Naming
import DesignTokens.Number.Binary64
import DesignTokens.Number.Decimal
import DesignTokens.Number.Digits
import DesignTokens.Number.Layout
import DesignTokens.Stage.Basic
import DesignTokens.Stage.Rgba
import DesignTokens.Stage.Sort
import DesignTokens.Template.Bundled
import DesignTokens.Template.Calculate
import DesignTokens.Template.Calls
import DesignTokens.Template.Display
import DesignTokens.Template.Engine
import DesignTokens.Template.Evaluate
import DesignTokens.Template.Expression
import DesignTokens.Template.Fault
import DesignTokens.Template.Filters
import DesignTokens.Template.Grammar
import DesignTokens.Template.Lexical
import DesignTokens.Template.Node
import DesignTokens.Template.Parse
import DesignTokens.Template.Render
import DesignTokens.Template.Scope
import DesignTokens.Template.Source
import DesignTokens.Template.Suggestion
import DesignTokens.Template.Tests
import DesignTokens.Text.Blank
import DesignTokens.Text.Case
import DesignTokens.Text.CaseTable
import DesignTokens.Text.EditDistance
import DesignTokens.Text.Numeric
import DesignTokens.Text.Spelled
import DesignTokens.Text.Split
import DesignTokens.Token.Document
import DesignTokens.Token.Entry
import DesignTokens.Token.Load
import DesignTokens.Value.Basic
import DesignTokens.Value.Decode
import DesignTokens.Value.Encode
import DesignTokens.Yaml.Cursor
import DesignTokens.Yaml.Document
import DesignTokens.Yaml.Fault
import DesignTokens.Yaml.Node
import DesignTokens.Yaml.Property
import DesignTokens.Yaml.Scalar
import DesignTokens.Yaml.Scan
import DesignTokens.Yaml.Schema
import DesignTokens.Yaml.Token
import DesignTokens.Proofs.Failure.Report
import DesignTokens.Proofs.Template.Suggestion
import DesignTokens.Proofs.Catalog.Appearances
import DesignTokens.Proofs.Catalog.Combine
import DesignTokens.Proofs.Catalog.Image
import DesignTokens.Proofs.Catalog.Names
import DesignTokens.Proofs.Catalog.Words
import DesignTokens.Proofs.Config.Key
import DesignTokens.Proofs.Failure.Blame
import DesignTokens.Proofs.Files.Copies
import DesignTokens.Proofs.Generate.Blame
import DesignTokens.Proofs.Generate.ColorChannels
import DesignTokens.Proofs.Generate.ColorFailures
import DesignTokens.Proofs.Generate.ColorFolders
import DesignTokens.Proofs.Generate.Documents
import DesignTokens.Proofs.Generate.Footprint
import DesignTokens.Proofs.Generate.ImageFolders
import DesignTokens.Proofs.Generate.ImageManifests
import DesignTokens.Proofs.Generate.Replay
import DesignTokens.Proofs.Number.Order
import DesignTokens.Proofs.Stage.Alpha
import DesignTokens.Proofs.Stage.Comparison
import DesignTokens.Proofs.Stage.Integers
import DesignTokens.Proofs.Stage.Renaming
import DesignTokens.Proofs.Template.DeclarationLines
import DesignTokens.Proofs.Template.Identifiers
import DesignTokens.Proofs.Token.PrefixedNames
