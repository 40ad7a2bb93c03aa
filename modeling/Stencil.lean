import Stencil.Entries
import Stencil.Environment.Binding
import Stencil.Environment.Scope
import Stencil.Host.Datum
import Stencil.Host.Typed
import Stencil.Modifier.Basic
import Stencil.Modifier.Builtin
import Stencil.Number.Basic
import Stencil.Number.Decimal
import Stencil.Number.Grouped
import Stencil.Number.Shortest
import Stencil.Proofs.Entries.Insertion
import Stencil.Proofs.Environment.Restoration
import Stencil.Proofs.Host.Agreement
import Stencil.Proofs.Host.Faults
import Stencil.Proofs.Host.IntegerKeys
import Stencil.Proofs.Host.Order
import Stencil.Proofs.Number.Digits
import Stencil.Proofs.Number.Exact
import Stencil.Proofs.Number.Grouping
import Stencil.Proofs.Number.Integers
import Stencil.Proofs.Render.Agreement
import Stencil.Proofs.Render.Bound
import Stencil.Proofs.Render.Calls
import Stencil.Proofs.Render.Composition
import Stencil.Proofs.Render.Conditionals
import Stencil.Proofs.Render.LoopFlags
import Stencil.Proofs.Render.OptionalLayers
import Stencil.Proofs.Render.Places
import Stencil.Proofs.Render.Positions
import Stencil.Proofs.Render.Restoration
import Stencil.Proofs.Render.Rounds
import Stencil.Proofs.Session.Holders
import Stencil.Proofs.Session.Registrations
import Stencil.Proofs.Session.Scopes
import Stencil.Proofs.Session.Sharing
import Stencil.Proofs.Template.Accepted
import Stencil.Proofs.Template.Alignment
import Stencil.Proofs.Template.CleanStep
import Stencil.Proofs.Template.Composition
import Stencil.Proofs.Template.Diagnostics
import Stencil.Proofs.Template.Grammar
import Stencil.Proofs.Template.LiteralBlocks
import Stencil.Proofs.Template.ParseExpr
import Stencil.Proofs.Template.ParseTag
import Stencil.Proofs.Template.ParseTemplate
import Stencil.Proofs.Template.Printing
import Stencil.Proofs.Template.ReadExpr
import Stencil.Proofs.Template.ReadTag
import Stencil.Proofs.Template.ReadTemplate
import Stencil.Proofs.Template.Recovery
import Stencil.Proofs.Template.Relocation
import Stencil.Proofs.Template.Reports
import Stencil.Proofs.Template.RoundTrip
import Stencil.Proofs.Template.ScanExpr
import Stencil.Proofs.Template.Shape
import Stencil.Proofs.Template.Verbatim
import Stencil.Proofs.Text.ByteOrder
import Stencil.Proofs.Time.Calendar
import Stencil.Proofs.Time.Fields
import Stencil.Proofs.Time.RoundTrip
import Stencil.Proofs.Token.Ascending
import Stencil.Proofs.Token.Continuation
import Stencil.Proofs.Token.Lexemes
import Stencil.Proofs.Token.Modes
import Stencil.Proofs.Token.Pieces
import Stencil.Proofs.Token.Relocation
import Stencil.Proofs.Token.Seam
import Stencil.Proofs.Token.Yields
import Stencil.Proofs.Value.Order
import Stencil.Proofs.Value.Structure
import Stencil.Render.Basic
import Stencil.Render.Expr
import Stencil.Render.Library
import Stencil.Render.LoopContext
import Stencil.Session.Action
import Stencil.Session.Basic
import Stencil.Template.Basic
import Stencil.Template.Diagnostic
import Stencil.Template.Expr
import Stencil.Template.Node
import Stencil.Template.OpenExpr
import Stencil.Template.OpenTag
import Stencil.Template.OpenTemplate
import Stencil.Text.Alphabetic
import Stencil.Text.Case
import Stencil.Text.Cased
import Stencil.Text.LowerCase
import Stencil.Text.Numeric
import Stencil.Text.Printable
import Stencil.Text.Quoted
import Stencil.Text.Ranges
import Stencil.Text.UpperCase
import Stencil.Text.WhiteSpace
import Stencil.Time.Date
import Stencil.Time.Rfc3339
import Stencil.Time.Timestamp
import Stencil.Token.Basic
import Stencil.Token.Scanner
import Stencil.Value.Basic
import Stencil.Value.Draft
import Stencil.Value.Text
import Stencil.Proofs.Host.MapOrder
import Stencil.Proofs.Modifier.Capitalization
import Stencil.Proofs.Modifier.Entities
import Stencil.Proofs.Session.Environments
import Stencil.Proofs.Session.Templates
import Stencil.Proofs.Template.DescentTemplate
import Stencil.Proofs.Template.Pipelines
import Stencil.Proofs.Token.Progress
import Stencil.Proofs.Value.Equality
