import CallDiagram.CallSite.Listing
import CallDiagram.CallSite.Order
import CallDiagram.CallSite.Reading
import CallDiagram.CommandLine.Arguments
import CallDiagram.CommandLine.Option
import CallDiagram.CommandLine.Run
import CallDiagram.Diagram.Basic
import CallDiagram.Diagram.Format
import CallDiagram.Diagram.Markup
import CallDiagram.Diagram.Mermaid
import CallDiagram.Diagram.Number
import CallDiagram.Diagram.Participant
import CallDiagram.Diagram.PlantUml
import CallDiagram.Diagram.Saving
import CallDiagram.Document
import CallDiagram.Entry
import CallDiagram.FileTree
import CallDiagram.Hierarchy.Catalogue
import CallDiagram.Hierarchy.Indexed
import CallDiagram.Hierarchy.Item
import CallDiagram.Hierarchy.Provider
import CallDiagram.Hierarchy.Recorded
import CallDiagram.Index.Build
import CallDiagram.Index.Collect
import CallDiagram.Index.Graph
import CallDiagram.Index.Module
import CallDiagram.Index.Resolve
import CallDiagram.Main
import CallDiagram.Path
import CallDiagram.Proofs.Diagram.Numbering
import CallDiagram.Proofs.Diagram.Registry
import CallDiagram.Proofs.Traversal.Diagram
import CallDiagram.Proofs.Traversal.Nesting
import CallDiagram.Proofs.Traversal.Outline
import CallDiagram.Proofs.Traversal.Walk
import CallDiagram.Sandbox
import CallDiagram.Session
import CallDiagram.Settings.Basic
import CallDiagram.Settings.EnvFile
import CallDiagram.Settings.Load
import CallDiagram.Settings.Value
import CallDiagram.Skip
import CallDiagram.Source.Grammar.Expression
import CallDiagram.Source.Grammar.Pattern
import CallDiagram.Source.Grammar.Statement
import CallDiagram.Source.Lexer
import CallDiagram.Source.Literal
import CallDiagram.Source.Numeral
import CallDiagram.Source.Parser
import CallDiagram.Source.Syntax
import CallDiagram.Source.Token
import CallDiagram.Table
import CallDiagram.Text.Blank
import CallDiagram.Text.Case
import CallDiagram.Text.CommonPrefix
import CallDiagram.Text.Digit
import CallDiagram.Text.Glob
import CallDiagram.Text.Identifier
import CallDiagram.Text.JsonText
import CallDiagram.Text.Printable
import CallDiagram.Text.Quoted
import CallDiagram.Text.Ranges
import CallDiagram.Text.Split
import CallDiagram.Text.Utf8
import CallDiagram.Text.Word
import CallDiagram.Text.Wrap
import CallDiagram.Trace
import CallDiagram.Traversal
import CallDiagram.Workspace
import CallDiagram.Proofs.Traversal.Unfolding
import CallDiagram.Proofs.Traversal.Truncation
import CallDiagram.Proofs.CallSite.Arguments
import CallDiagram.Proofs.CallSite.Execution
import CallDiagram.Proofs.Traversal.Participants
import CallDiagram.Proofs.Traversal.Drawing
import CallDiagram.Proofs.CallSite.Reading
import CallDiagram.Proofs.Traversal.Failures
import CallDiagram.Proofs.CallSite.Selection
import CallDiagram.Proofs.Traversal.Cancellation
import CallDiagram.Proofs.Traversal.Presentation
import CallDiagram.Proofs.Traversal.Skipping
import CallDiagram.Proofs.Traversal.Enrolment
import CallDiagram.Proofs.Diagram.Reading
import CallDiagram.Proofs.Traversal.Activation
import CallDiagram.Proofs.Index.Ownership
import CallDiagram.Proofs.Index.Collected
import CallDiagram.Proofs.Index.Calls
import CallDiagram.Proofs.Index.OwnMethods
import CallDiagram.Proofs.Traversal.Blocks
import CallDiagram.Proofs.Traversal.Relocation
import CallDiagram.Proofs.Index.Sound
import CallDiagram.Proofs.Index.Closure
import CallDiagram.Proofs.Index.Identity
import CallDiagram.Proofs.Index.Alike
import CallDiagram.Proofs.Index.Order
import CallDiagram.Proofs.Traversal.Protocol
import CallDiagram.Proofs.Traversal.ObjectNames
import CallDiagram.Proofs.Diagram.Recovery
import CallDiagram.Proofs.Traversal.Confinement
import CallDiagram.Proofs.FileTree
import CallDiagram.Proofs.Index.Places
import CallDiagram.Proofs.Index.Projects
import CallDiagram.Proofs.Sandbox
import CallDiagram.Proofs.Text.Rewrapping
import CallDiagram.Proofs.Diagram.ShownPaths
import CallDiagram.Proofs.CallSite.Positions
import CallDiagram.Proofs.CallSite.Matching
import CallDiagram.Proofs.Sorting
import CallDiagram.Proofs.CallSite.Detection
import CallDiagram.Proofs.CallSite.PostOrder
import CallDiagram.Proofs.Index.Grouping
import CallDiagram.Proofs.Index.Imports
import CallDiagram.Proofs.Index.Unambiguous
import CallDiagram.Proofs.Index.Inheritance
import CallDiagram.Proofs.Source.Headings
import CallDiagram.Proofs.Hierarchy.Innermost
import CallDiagram.Proofs.Hierarchy.Names
import CallDiagram.Proofs.CallSite.Complete
import CallDiagram.Proofs.Text.Integers
import CallDiagram.Proofs.Diagram.Keys
import CallDiagram.Proofs.Traversal.Paths
import CallDiagram.Proofs.Diagram.Registrations
import CallDiagram.Proofs.Path
import CallDiagram.Proofs.Skip.Rules
import CallDiagram.Proofs.Skip.Folders
import CallDiagram.Proofs.Workspace
import CallDiagram.Proofs.Diagram.Saving
import CallDiagram.Proofs.Indentation
import CallDiagram.Proofs.CallSite.Qualifiers
import CallDiagram.Proofs.Index.NameRanges
