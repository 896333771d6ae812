import Stencil.Engine
import Stencil.Proofs.Expr.Grammar
import Stencil.Proofs.Expr.Readers
import Stencil.Proofs.Expr.Precedence
import Stencil.Proofs.Expr.Orderly
import Stencil.Proofs.Expr.Statements
import Stencil.Proofs.Expr.Lexing
import Stencil.Proofs.Expr.Scanning
import Stencil.Proofs.Expr.Headers
import Stencil.Proofs.Directive.Occurrence
import Stencil.Proofs.Directive.Parts
import Stencil.Proofs.Expr.Paths
import Stencil.Proofs.Directive.Builtins
import Stencil.Proofs.Directive.Markers
import Stencil.Proofs.Directive.Argument
import Stencil.Proofs.Program.Cutting
import Stencil.Proofs.Program.Building
import Stencil.Proofs.Html.Escaping
import Stencil.Proofs.Template.Phrases
import Stencil.Proofs.Template.Tree
import Stencil.Proofs.Store.Changes
import Stencil.Proofs.Store.Soundness
import Stencil.Proofs.Store.Making
import Stencil.Proofs.Engine.Transparency
import Stencil.Proofs.Program.Output
import Stencil.Proofs.Program.Marks
import Stencil.Proofs.Engine.Session
import Stencil.Proofs.Engine.Freshness
import Stencil.Proofs.Engine.Registration
import Stencil.Proofs.Program.Unlimited
import Stencil.Proofs.Program.Limits
import Stencil.Proofs.Engine.Marked
import Stencil.Proofs.Expr.Spelling
import Stencil.Proofs.Expr.Printing
import Stencil.Proofs.InPlace.Bytes
import Stencil.Proofs.InPlace.Scanning
import Stencil.Proofs.InPlace.Expanding
import Stencil.Proofs.InPlace.Cutting
import Stencil.Proofs.InPlace.Lexing
import Stencil.Proofs.InPlace.Cursor
import Stencil.Proofs.InPlace.Reading
import Stencil.Proofs.InPlace.Building
import Stencil.Proofs.Template.Spans
import Stencil.Proofs.Program.Headed
import Stencil.Proofs.Slots
import Stencil.Proofs.Store.Damage
import Stencil.Proofs.Value.Doubles
import Stencil.Proofs.Value.Rounding
import Stencil.Proofs.Value.Equality
import Stencil.Proofs.Value.Order
import Stencil.Proofs.Value.Comparison
import Stencil.Proofs.Value.Arithmetic
import Stencil.Proofs.Expr.Numerals
import Stencil.Proofs.Expr.Access
import Stencil.Proofs.Program.Termination
import Stencil.Proofs.Program.Effects
import Stencil.Proofs.Program.Names
import Stencil.Proofs.Engine.Erasure
import Stencil.Proofs.Program.Containers
import Stencil.Proofs.Program.Sugar
import Stencil.Proofs.Directive.Splitting
import Stencil.Proofs.Html.Entities
import Stencil.Proofs.Html.Nesting
import Stencil.Proofs.Html.Dumps
import Stencil.Proofs.Function.Progression
import Stencil.Proofs.Expr.Offsets
import Stencil.Proofs.Program.Tiling
import Stencil.Proofs.Program.Offsets
import Stencil.Proofs.Value.Json
import Stencil.Proofs.Html.Levels
import Stencil.Proofs.Registries
import Stencil.Proofs.Store.Edits
import Stencil.Proofs.Store.Calls
import Stencil.Proofs.Store.Accounting
import Stencil.Proofs.Calendar.Formats
import Stencil.Proofs.Template.Passes
import Stencil.Proofs.Expr.Plain
import Stencil.Proofs.Expr.Following
import Stencil.Proofs.Expr.Totality
