import GraphDraft.Batch
import GraphDraft.Blueprint
import GraphDraft.Catalog.Basic
import GraphDraft.Catalog.Manifest
import GraphDraft.Catalog.Shortcut
import GraphDraft.Catalog.Source
import GraphDraft.Catalog.Standard
import GraphDraft.Command.Defaults
import GraphDraft.Command.Intent
import GraphDraft.Command.Registry
import GraphDraft.Command.Run
import GraphDraft.Command.Token
import GraphDraft.CommandLine
import GraphDraft.Config
import GraphDraft.Decimal.Reading
import GraphDraft.Decimal.Shortest
import GraphDraft.Document.Basic
import GraphDraft.Document.Definitions
import GraphDraft.Document.Edges
import GraphDraft.Document.Nodes
import GraphDraft.Draft.Basic
import GraphDraft.Draft.Change
import GraphDraft.Draft.Wiring
import GraphDraft.Journal
import GraphDraft.Layout
import GraphDraft.LineDiff
import GraphDraft.Main
import GraphDraft.Outline
import GraphDraft.Point
import GraphDraft.Program
import GraphDraft.Prompt.Basic
import GraphDraft.Prompt.Key
import GraphDraft.Prompt.Keymap
import GraphDraft.Prompt.Line
import GraphDraft.Proofs.Catalog.ExactName
import GraphDraft.Proofs.Catalog.Forbidden
import GraphDraft.Proofs.Catalog.Order
import GraphDraft.Proofs.Catalog.Piece
import GraphDraft.Proofs.Command.Accessor
import GraphDraft.Proofs.Command.Assignment
import GraphDraft.Proofs.Command.Bare
import GraphDraft.Proofs.Command.FirstFit
import GraphDraft.Proofs.Command.Literal
import GraphDraft.Proofs.Command.Title
import GraphDraft.Proofs.Command.Tokens
import GraphDraft.Proofs.Command.Verbs
import GraphDraft.Proofs.Decimal
import GraphDraft.Proofs.Document.Connection
import GraphDraft.Proofs.Document.Definitions
import GraphDraft.Proofs.Document.Deletion
import GraphDraft.Proofs.Document.EdgePorts
import GraphDraft.Proofs.Document.Edits
import GraphDraft.Proofs.Document.Extension
import GraphDraft.Proofs.Document.Gain
import GraphDraft.Proofs.Document.Growth
import GraphDraft.Proofs.Document.Interface
import GraphDraft.Proofs.Document.Later
import GraphDraft.Proofs.Document.Nesting
import GraphDraft.Proofs.Document.Removal
import GraphDraft.Proofs.Document.Revision
import GraphDraft.Proofs.Document.Run
import GraphDraft.Proofs.Document.Same
import GraphDraft.Proofs.Document.Sound
import GraphDraft.Proofs.Document.Stray
import GraphDraft.Proofs.Document.Undo
import GraphDraft.Proofs.Document.Unshared
import GraphDraft.Proofs.Document.Valid
import GraphDraft.Proofs.Document.Variables
import GraphDraft.Proofs.Document.Views
import GraphDraft.Proofs.Draft.Beside
import GraphDraft.Proofs.Draft.Creation
import GraphDraft.Proofs.Draft.Failure
import GraphDraft.Proofs.Draft.Joining
import GraphDraft.Proofs.Draft.Mutation
import GraphDraft.Proofs.Draft.Reachable
import GraphDraft.Proofs.Draft.Row
import GraphDraft.Proofs.Draft.Stable
import GraphDraft.Proofs.Draft.Stacked
import GraphDraft.Proofs.Draft.Undo
import GraphDraft.Proofs.Draft.Wiring
import GraphDraft.Proofs.Layout
import GraphDraft.Proofs.Line
import GraphDraft.Proofs.LineDiff
import GraphDraft.Proofs.Outline.Coverage
import GraphDraft.Proofs.Outline.Path
import GraphDraft.Proofs.Outline.Walk
import GraphDraft.Proofs.Prompt.Bindings
import GraphDraft.Proofs.Prompt.Insertion
import GraphDraft.Proofs.Prompt.KeyName
import GraphDraft.Proofs.Prompt.Line
import GraphDraft.Proofs.Prompt.Press
import GraphDraft.Proofs.Prompt.Typing
import GraphDraft.Proofs.Renaming.Basic
import GraphDraft.Proofs.Renaming.Draft
import GraphDraft.Proofs.Renaming.Operations
import GraphDraft.Proofs.Renaming.Outline
import GraphDraft.Proofs.Renaming.Rebase
import GraphDraft.Proofs.Renaming.Relabel
import GraphDraft.Proofs.Renaming.Run
import GraphDraft.Proofs.Session.Calls
import GraphDraft.Proofs.Session.Cancel
import GraphDraft.Proofs.Session.Chain
import GraphDraft.Proofs.Session.Condense
import GraphDraft.Proofs.Session.Preview
import GraphDraft.Proofs.Store
import GraphDraft.Proofs.Terminal.Events
import GraphDraft.Proofs.Terminal.Screen
import GraphDraft.Proofs.Text.Boundary
import GraphDraft.Proofs.Text.Cluster
import GraphDraft.Proofs.Text.Cut
import GraphDraft.Proofs.Text.Lowercase
import GraphDraft.Proofs.Text.Runs
import GraphDraft.Proofs.Text.Sigma
import GraphDraft.Session
import GraphDraft.Store
import GraphDraft.Terminal.Event
import GraphDraft.Terminal.Screen
import GraphDraft.Terminal.Session
import GraphDraft.Text.Blank
import GraphDraft.Text.Cluster
import GraphDraft.Text.CodeSet
import GraphDraft.Text.Columns
import GraphDraft.Text.Lines
import GraphDraft.Text.Lowercase
import GraphDraft.Text.Piece
import GraphDraft.Text.Quoted
import GraphDraft.Text.Table.Case
import GraphDraft.Text.Table.Cluster
import GraphDraft.Text.Table.Columns
import GraphDraft.Text.Table.Printable
import GraphDraft.Value
import GraphDraft.Variable
