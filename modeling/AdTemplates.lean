import AdTemplates.Combinations
import AdTemplates.CommandLine.Arguments
import AdTemplates.CommandLine.Logging
import AdTemplates.CommandLine.Report
import AdTemplates.Config.Error
import AdTemplates.Config.KeyPath
import AdTemplates.Config.Loader
import AdTemplates.Config.Setting
import AdTemplates.Config.Settings
import AdTemplates.Config.Source
import AdTemplates.Config.Traversal
import AdTemplates.Config.Value
import AdTemplates.Count
import AdTemplates.Document
import AdTemplates.Entries
import AdTemplates.FileTree
import AdTemplates.Format.Basic
import AdTemplates.Format.Delimited
import AdTemplates.Format.JsonLines
import AdTemplates.Format.Registry
import AdTemplates.IoError
import AdTemplates.Main
import AdTemplates.Number.Binary64
import AdTemplates.Number.Integer
import AdTemplates.Number.Shortest
import AdTemplates.Output
import AdTemplates.Path
import AdTemplates.Record
import AdTemplates.Run
import AdTemplates.Section
import AdTemplates.Template.Basic
import AdTemplates.Template.Token
import AdTemplates.Text.CaseRange
import AdTemplates.Text.Lines
import AdTemplates.Text.LowerCase
import AdTemplates.Text.Quoted
import AdTemplates.Text.UpperCase
import AdTemplates.Text.Utf8
import AdTemplates.Text.Whitespace
import AdTemplates.Yaml.Node.Basic
import AdTemplates.Yaml.Node.Reader
import AdTemplates.Yaml.Token.Basic
import AdTemplates.Yaml.Token.BlockText
import AdTemplates.Yaml.Token.Cursor
import AdTemplates.Yaml.Token.Directive
import AdTemplates.Yaml.Token.FlowText
import AdTemplates.Yaml.Token.Indicator
import AdTemplates.Yaml.Token.Nesting
import AdTemplates.Yaml.Token.Stream
import AdTemplates.Proofs.Combinations.Calls
import AdTemplates.Proofs.Combinations.Counts
import AdTemplates.Proofs.Combinations.Cursor
import AdTemplates.Proofs.Combinations.Drain
import AdTemplates.Proofs.Combinations.Ending
import AdTemplates.Proofs.Combinations.Progress
import AdTemplates.Proofs.Combinations.Reading
import AdTemplates.Proofs.Combinations.SizeHint
import AdTemplates.Proofs.Combinations.Turns
import AdTemplates.Proofs.Combinations.Walk
import AdTemplates.Proofs.CommandLine.Arrangement
import AdTemplates.Proofs.CommandLine.Spelling
import AdTemplates.Proofs.Config.Alike
import AdTemplates.Proofs.Config.Candidates
import AdTemplates.Proofs.Config.Defaults
import AdTemplates.Proofs.Config.File
import AdTemplates.Proofs.Config.Layer
import AdTemplates.Proofs.Config.Leaves
import AdTemplates.Proofs.Config.Order
import AdTemplates.Proofs.Config.Override
import AdTemplates.Proofs.Config.Placement
import AdTemplates.Proofs.Config.Precedence
import AdTemplates.Proofs.Config.Reading
import AdTemplates.Proofs.Config.Setting
import AdTemplates.Proofs.Document.Bytes
import AdTemplates.Proofs.Document.Content
import AdTemplates.Proofs.Document.Faults
import AdTemplates.Proofs.Document.Joining
import AdTemplates.Proofs.Document.Printing
import AdTemplates.Proofs.Document.Sections
import AdTemplates.Proofs.Document.Strictness
import AdTemplates.Proofs.FileTree.Create
import AdTemplates.Proofs.FileTree.Destination
import AdTemplates.Proofs.Format.JsonLines
import AdTemplates.Proofs.Format.Registry
import AdTemplates.Proofs.Format.Rows
import AdTemplates.Proofs.Format.Table
import AdTemplates.Proofs.Json.Token
import AdTemplates.Proofs.Json.Value
import AdTemplates.Proofs.Output.DefaultPath
import AdTemplates.Proofs.Output.FormatName
import AdTemplates.Proofs.Path.Components
import AdTemplates.Proofs.Path.FileName
import AdTemplates.Proofs.Path.LastComponent
import AdTemplates.Proofs.Path.Pieces
import AdTemplates.Proofs.Run.Default
import AdTemplates.Proofs.Run.Flags
import AdTemplates.Proofs.Run.Order
import AdTemplates.Proofs.Run.Output
import AdTemplates.Proofs.Run.Sources
import AdTemplates.Proofs.Run.Stages
import AdTemplates.Proofs.Section.Shape
import AdTemplates.Proofs.Template.Casing
import AdTemplates.Proofs.Template.Dependence
import AdTemplates.Proofs.Template.Lexemes
import AdTemplates.Proofs.Template.Printing
import AdTemplates.Proofs.Template.Reading
import AdTemplates.Proofs.Template.Substitution
import AdTemplates.Proofs.Text.ByteOrder
import AdTemplates.Proofs.Text.Capital
import AdTemplates.Proofs.Text.Lines
import AdTemplates.Proofs.Text.Scan
import AdTemplates.Proofs.Text.Utf8
import AdTemplates.Proofs.Text.Whitespace
